import AudioLink.Proofs.Loopback.Datagram

/-
A datagram has one reading, and a packet one datagram.

What a datagram holds besides its samples has a fixed length, and its own length is checked against
the sample count. So whatever is read was written, byte for byte: no datagram that is cut off,
lengthened or damaged in its header is taken for another packet. The sample count has 32 bits, and
this is the only limit: a packet with more samples has a datagram, but one that nobody reads.
-/
set_option autoImplicit false

namespace AudioLink

/-! ## Bytes of numbers -/

namespace Bytes

/-- Four bytes are the bytes of their number. -/
theorem ofWord_word (a b c d : UInt8) : ofWord (word a b c d) = [a, b, c, d] := by
  have ha := a.toNat_lt
  have hb := b.toNat_lt
  have hc := c.toNat_lt
  have hd := d.toNat_lt
  rw [ofWord]
  simp only [List.cons.injEq, and_true]
  refine ⟨?_, ?_, ?_, ?_⟩ <;> apply UInt8.toNat_inj.mp <;>
    simp only [UInt32.toNat_toUInt8, UInt32.toNat_shiftRight, UInt32.reduceToNat, Nat.reduceMod,
      Nat.shiftRight_eq_div_pow, toNat_word] <;>
    omega

/-- A byte string is read as numbers exactly if it is made of their bytes. -/
theorem words?_eq_some_iff (b : Bytes) (ws : List UInt32) : words? b = some ws ↔ ofWords ws = b := by
  constructor
  · intro h
    fun_induction words? b generalizing ws with
    | case1 =>
      obtain rfl := Option.some.inj h
      rfl
    | case2 a₁ a₂ a₃ a₄ rest ih =>
      obtain ⟨more, hmore, rfl⟩ := Option.map_eq_some_iff.mp h
      have hcons : ofWords (word a₁ a₂ a₃ a₄ :: more) = ofWord (word a₁ a₂ a₃ a₄) ++ ofWords more :=
        rfl
      rw [hcons, ofWord_word, ih more hmore]
      rfl
    | case3 => exact absurd h nofun
  · rintro rfl
    exact words?_ofWords ws

end Bytes

/-! ## Headers -/

namespace Packet

theorem kindByte_of_kindOfByte? {k : UInt8} {kind : PacketKind}
    (h : kindOfByte? k = some kind) : kindByte kind = k := by
  rw [kindOfByte?] at h
  split at h
  · rename_i hk
    rw [← Option.some.inj h, hk]
    rfl
  · split at h
    · rename_i hk
      rw [← Option.some.inj h, hk]
      rfl
    · exact absurd h nofun

/-- Whatever is read was written, and has a number of samples that can be written. -/
theorem encode_of_decode? {b : Bytes} {p : Packet} (h : decode? b = some p) :
    p.samples.length < UInt32.size ∧ p.encode = b := by
  unfold decode? at h
  split at h
  · rename_i m₁ m₂ v k s₁ s₂ s₃ s₄ q₁ q₂ q₃ q₄ c₁ c₂ c₃ c₄ body
    split at h
    · rename_i hmagic
      obtain ⟨rfl, rfl, rfl⟩ := hmagic
      split at h
      · rename_i kind samples hkind hsamples
        split at h
        · -- Now every field has been checked against what would be written for it.
          rename_i hcount
          obtain rfl := Option.some.inj h
          have hwritten : UInt32.ofNat samples.length = Bytes.word c₁ c₂ c₃ c₄ := by
            rw [hcount, UInt32.ofNat_toNat]
          have hbody : Bytes.ofWords samples = body :=
            (Bytes.words?_eq_some_iff body samples).mp hsamples
          refine ⟨hcount ▸ UInt32.toNat_lt_size _, ?_⟩
          rw [encode]
          simp only [hwritten, hbody, Bytes.ofWord_word, kindByte_of_kindOfByte? hkind]
          rfl
        · cases h
      · cases h
    · cases h
  · cases h

/-- The length of a datagram shows how many samples its packet has, however many these are. -/
theorem length_samples_of_encode_eq {p p' : Packet} (h : p.encode = p'.encode) :
    p.samples.length = p'.samples.length := by
  have hlength := congrArg List.length h
  rw [length_encode, length_encode] at hlength
  omega

/-- A byte string is read as a packet exactly if it is the datagram of this packet, which then has
fewer than 2^32 samples; and the datagram of a packet is refused exactly if the packet has more. So
writing and reading are inverse to each other between packets and the byte strings that are
accepted. -/
theorem datagrams_inverse :
    (∀ (b : Bytes) (p : Packet),
      decode? b = some p ↔ p.samples.length < UInt32.size ∧ p.encode = b) ∧
    ∀ p : Packet, decode? p.encode = none ↔ UInt32.size ≤ p.samples.length := by
  refine ⟨fun b p => ⟨encode_of_decode?, ?_⟩, fun p => ⟨fun hnone => ?_, fun hmany => ?_⟩⟩
  · rintro ⟨hcount, rfl⟩
    exact decode?_encode p hcount
  · refine Nat.le_of_not_lt fun hcount => ?_
    rw [decode?_encode p hcount] at hnone
    exact absurd hnone nofun
  · -- A packet that is read instead would have to have as many samples, but those are too many.
    cases hread : decode? p.encode with
    | none => rfl
    | some p' =>
      obtain ⟨hcount, hencode⟩ := encode_of_decode? hread
      have hlength := length_samples_of_encode_eq hencode
      omega

/-- A datagram that is cut off is refused. -/
example : decode? ((encode ⟨.repair, 0xDEADBEEF, 7, [0x7FC00001]⟩).take 19) = none := by decide

end Packet
end AudioLink
