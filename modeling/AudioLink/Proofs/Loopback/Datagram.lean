import AudioLink.Loopback.Transfer
import Mathlib.Algebra.Group.Nat.Defs

/-
Datagrams carry packets whole.

A number of 32 bits is read back from its four bytes, so a list of samples is read back from its
bytes and a packet from its datagram, bit for bit. The sample count of a datagram is a number of 32
bits as well; a packet with more samples than that cannot be carried.

The order of the bytes is settled once, by `Bytes.toNat_word`: four bytes are the digits of a number
to the base 256. Everything about single bits ends there.
-/
set_option autoImplicit false

namespace AudioLink

/-! ## Numbers as bytes -/

namespace Bytes

/-- A byte moved up by at most 24 bits loses none of them. -/
private theorem shift_byte (x : UInt8) {k : Nat} (hk : k ≤ 24) :
    x.toNat <<< k % 2 ^ 32 = 2 ^ k * x.toNat := by
  have hx := x.toNat_lt
  have hpow : 2 ^ k ≤ 2 ^ 24 := Nat.pow_le_pow_right (by decide) hk
  have hlt : 2 ^ k * x.toNat < 2 ^ 32 :=
    calc 2 ^ k * x.toNat ≤ 2 ^ 24 * x.toNat := Nat.mul_le_mul_right _ hpow
      _ < 2 ^ 32 := by omega
  rw [Nat.shiftLeft_eq, Nat.mul_comm, Nat.mod_eq_of_lt hlt]

/-- Four bytes are the digits of their number. -/
theorem toNat_word (a b c d : UInt8) :
    (word a b c d).toNat = 2 ^ 24 * a.toNat + 2 ^ 16 * b.toNat + 2 ^ 8 * c.toNat + d.toNat := by
  have hb := b.toNat_lt
  have hc := c.toNat_lt
  have hd := d.toNat_lt
  -- Each byte stands below the ones that are there already, so "or" is addition.
  have hab : 2 ^ 24 * a.toNat ||| 2 ^ 16 * b.toNat = 2 ^ 16 * (2 ^ 8 * a.toNat + b.toNat) := by
    rw [← Nat.two_pow_add_eq_or_of_lt (by omega) a.toNat]
    omega
  have habc : 2 ^ 16 * (2 ^ 8 * a.toNat + b.toNat) ||| 2 ^ 8 * c.toNat =
      2 ^ 8 * (2 ^ 8 * (2 ^ 8 * a.toNat + b.toNat) + c.toNat) := by
    rw [← Nat.two_pow_add_eq_or_of_lt (by omega) (2 ^ 8 * a.toNat + b.toNat)]
    omega
  have habcd : 2 ^ 8 * (2 ^ 8 * (2 ^ 8 * a.toNat + b.toNat) + c.toNat) ||| d.toNat =
      2 ^ 8 * (2 ^ 8 * (2 ^ 8 * a.toNat + b.toNat) + c.toNat) + d.toNat :=
    (Nat.two_pow_add_eq_or_of_lt hd _).symm
  rw [word, UInt32.toNat_or, UInt32.toNat_or, UInt32.toNat_or, UInt32.toNat_shiftLeft,
    UInt32.toNat_shiftLeft, UInt32.toNat_shiftLeft]
  simp only [UInt8.toNat_toUInt32, UInt32.reduceToNat, Nat.reduceMod, shift_byte, Nat.reduceLeDiff]
  rw [hab, habc, habcd]
  omega

/-- A number is read back from its bytes. -/
theorem word_ofWord (w : UInt32) :
    word (w >>> 24).toUInt8 (w >>> 16).toUInt8 (w >>> 8).toUInt8 w.toUInt8 = w := by
  apply UInt32.toNat_inj.mp
  have hw := w.toNat_lt
  simp only [toNat_word, UInt32.toNat_toUInt8, UInt32.toNat_shiftRight, UInt32.reduceToNat,
    Nat.reduceMod, Nat.shiftRight_eq_div_pow]
  omega

theorem words?_ofWords (ws : List UInt32) : words? (ofWords ws) = some ws := by
  induction ws with
  | nil => rfl
  | cons w ws ih =>
    have hcons : ofWords (w :: ws) = ofWord w ++ ofWords ws := rfl
    rw [hcons, ofWord]
    simp only [List.cons_append, List.nil_append, words?, ih, Option.map_some, word_ofWord]

theorem length_ofWords (ws : List UInt32) : (ofWords ws).length = 4 * ws.length := by
  induction ws with
  | nil => rfl
  | cons w ws ih =>
    have hcons : ofWords (w :: ws) = ofWord w ++ ofWords ws := rfl
    have hfour : (ofWord w).length = 4 := rfl
    rw [hcons, List.length_append, ih, hfour, List.length_cons]
    omega

end Bytes

/-! ## Packets as datagrams -/

namespace Packet

theorem kindOfByte?_kindByte (kind : PacketKind) : kindOfByte? (kindByte kind) = some kind := by
  cases kind <;> rfl

theorem length_encode (p : Packet) : p.encode.length = headerLength + 4 * p.samples.length := by
  have hword : ∀ w : UInt32, (Bytes.ofWord w).length = 4 := fun _ => rfl
  rw [encode]
  simp only [List.length_append, List.length_cons, List.length_nil, hword, Bytes.length_ofWords,
    headerLength]

/-- A packet is read back from its datagram. -/
theorem decode?_encode (p : Packet) (hcount : p.samples.length < UInt32.size) :
    decode? p.encode = some p := by
  have hsamples : (UInt32.ofNat p.samples.length).toNat = p.samples.length :=
    UInt32.toNat_ofNat_of_lt' hcount
  unfold encode
  simp only [Bytes.ofWord, List.cons_append, List.nil_append, decode?, and_self, if_true,
    kindOfByte?_kindByte, Bytes.words?_ofWords, Bytes.word_ofWord, hsamples]

end Packet

/-! ## What a receiver takes -/

namespace Loopback

/-- The datagram of a packet of whole frames is taken for this packet, unless it is longer than what
is looked at. -/
theorem acceptable?_encode {channels : Nat} {p : Packet}
    (hlength : p.encode.length ≤ maxReceived) (hframes : p.samples.length % channels = 0) :
    acceptable? channels p.encode = some p := by
  have hcount : p.samples.length < UInt32.size := by
    rw [Packet.length_encode, maxReceived] at hlength
    rw [UInt32.size]
    omega
  rw [acceptable?, List.take_of_length_le hlength, Packet.decode?_encode p hcount,
    Option.filter_some, if_pos (decide_eq_true hframes)]

/-- A packet that is taken holds whole frames. -/
theorem dvd_of_acceptable? {channels : Nat} {bytes : Bytes} {p : Packet}
    (h : acceptable? channels bytes = some p) : channels ∣ p.samples.length := by
  have hframes := (Option.filter_eq_some_iff.mp h).2
  exact Nat.dvd_of_mod_eq_zero (of_decide_eq_true hframes)

end Loopback
end AudioLink
