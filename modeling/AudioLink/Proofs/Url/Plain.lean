import AudioLink.Proofs.Net.Ipv6Text
import AudioLink.Url.Parser

/-
Components of a URL that are read as they stand.

A host, a path or a query of a scheme that is not special is *plain* if it has nothing that reading
would encode, resolve or refuse. Plainness is said here by the characters and the segments alone.
For each kind of component there are two statements: what a reader yields is plain, and a plain
component is what a reader yields for it. Together they say that a component is plain exactly if
reading leaves it alone, which is what "canonical" means for a URL as a whole.

The sets of characters differ from the encode sets only above ASCII and in the sign, so their
agreement is decided on the 128 ASCII characters.
-/
set_option autoImplicit false

namespace AudioLink

/-! ## Characters -/

/-- A statement about ASCII characters is decided character by character. -/
theorem forall_ascii {P : Char → Prop} (h : ∀ n < 128, P (Char.ofNat n)) {c : Char}
    (hc : c.toNat < 128) : P c := by
  have hP := h c.toNat hc
  rwa [Char.ofNat_toNat] at hP

namespace Url

/-- Whether `c` is a visible ASCII character. -/
def isVisible (c : Char) : Bool := 0x21 ≤ c.toNat && c.toNat ≤ 0x7E

/-- Whether `c` may stand in the name of a host. -/
def isNameChar (c : Char) : Bool :=
  isVisible c && !(['#', '/', ':', '<', '>', '?', '@', '[', '\\', ']', '^', '|'].contains c)

/-- Whether `c` may stand in a query. -/
def isQueryChar (c : Char) : Bool := isVisible c && !(['"', '#', '<', '>'].contains c)

/-- Whether `c` may stand in a path. -/
def isPathChar (c : Char) : Bool :=
  isQueryChar c && !(['?', '\x60', '\x7b', '\x7d'].contains c)

theorem ascii_of_isVisible {c : Char} (h : isVisible c = true) : c.toNat < 128 := by
  simp only [isVisible, Bool.and_eq_true, decide_eq_true_eq] at h
  omega

theorem isVisible_of_isNameChar {c : Char} (h : isNameChar c = true) : isVisible c = true :=
  ((Bool.and_eq_true _ _).mp h).1

theorem isVisible_of_isQueryChar {c : Char} (h : isQueryChar c = true) : isVisible c = true :=
  ((Bool.and_eq_true _ _).mp h).1

theorem isQueryChar_of_isPathChar {c : Char} (h : isPathChar c = true) : isQueryChar c = true :=
  ((Bool.and_eq_true _ _).mp h).1

theorem isVisible_of_isPathChar {c : Char} (h : isPathChar c = true) : isVisible c = true :=
  isVisible_of_isQueryChar (isQueryChar_of_isPathChar h)

/-! ### Against the encode sets -/

theorem isNameChar_eq {c : Char} (h : c.toNat < 128) :
    isNameChar c = (!Host.isForbidden c && !Percent.controls c) :=
  forall_ascii (P := fun c => isNameChar c = (!Host.isForbidden c && !Percent.controls c))
    (by decide +kernel) h

theorem isQueryChar_eq {c : Char} (h : c.toNat < 128) : isQueryChar c = !Percent.query c :=
  forall_ascii (P := fun c => isQueryChar c = !Percent.query c) (by decide +kernel) h

theorem isPathChar_eq {c : Char} (h : c.toNat < 128) : isPathChar c = !Percent.path c :=
  forall_ascii (P := fun c => isPathChar c = !Percent.path c) (by decide +kernel) h

end Url

/-! ## Encoding -/

namespace Percent

/-- The characters that escapes are made of. -/
def escapeChars : List Char := "%0123456789ABCDEF".toList

theorem mem_escapeChars_of_mem_escapeByte {b : UInt8} {d : Char} (h : d ∈ escapeByte b) :
    d ∈ escapeChars := by
  have hdigit : ∀ n < 16, (Nat.digitChar n).toUpper ∈ escapeChars := by decide
  simp only [escapeByte, List.mem_cons, List.not_mem_nil, or_false] at h
  rcases h with rfl | rfl | rfl
  · decide
  · exact hdigit _ (Nat.mod_lt _ (by decide))
  · exact hdigit _ (Nat.mod_lt _ (by decide))

/-- What is encoded consists of characters that were kept and of escapes. -/
theorem mem_encode {set : Char → Bool} {cs : List Char} {d : Char} (h : d ∈ encode set cs) :
    (d ∈ cs ∧ d.toNat < 128 ∧ set d = false) ∨ d ∈ escapeChars := by
  obtain ⟨c, hc, hd⟩ := List.mem_flatMap.1 h
  unfold encodeChar at hd
  by_cases hkept : c.toNat < 128 ∧ set c = false
  · rw [if_pos hkept, List.mem_singleton] at hd
    subst hd
    exact .inl ⟨hc, hkept⟩
  · rw [if_neg hkept] at hd
    obtain ⟨b, -, hb⟩ := List.mem_flatMap.1 hd
    exact .inr (mem_escapeChars_of_mem_escapeByte hb)

end Percent

namespace Url

/-! ## Hosts -/

/-- A host that is read as it stands: the canonical text of an IPv6 address in brackets, or a
name. -/
inductive IsPlainHost : List Char → Prop where
  | address (ip : Ipv6) : IsPlainHost ('[' :: ip.text ++ [']'])
  | name {cs : List Char} (hne : cs ≠ []) (hchars : ∀ c ∈ cs, isNameChar c = true) :
    IsPlainHost cs

theorem IsPlainHost.ne_nil {cs : List Char} (h : IsPlainHost cs) : cs ≠ [] := by
  cases h with
  | address ip => exact List.cons_ne_nil _ _
  | name hne _ => exact hne

theorem isNameChar_of_mem_escapeChars {d : Char} (h : d ∈ Percent.escapeChars) :
    isNameChar d = true := by
  have hall : Percent.escapeChars.all isNameChar = true := by decide
  exact List.all_eq_true.mp hall d h

/-- A host that was read is plain. -/
theorem isPlainHost_of_readOpaque {cs host : List Char} (h : Host.readOpaque cs = .ok host)
    (hne : host ≠ []) : IsPlainHost host := by
  unfold Host.readOpaque at h
  by_cases hbracket : cs.head? = some '['
  · rw [if_pos hbracket] at h
    unfold Host.readBracketed at h
    split at h
    · split at h
      · injection h with h
        exact h ▸ .address _
      · exact absurd h (by simp)
    · exact absurd h (by simp)
  · rw [if_neg hbracket] at h
    split at h
    · exact absurd h (by simp)
    · next hforbidden =>
      injection h with h
      subst h
      refine .name hne fun d hd => ?_
      rcases Percent.mem_encode hd with ⟨hmem, hascii, hset⟩ | hescape
      · have hok : Host.isForbidden d = false :=
          Bool.eq_false_iff.2 fun hbad => hforbidden (List.any_eq_true.2 ⟨d, hmem, hbad⟩)
        rw [isNameChar_eq hascii, hok, hset]
        rfl
      · exact isNameChar_of_mem_escapeChars hescape

/-- A plain host is read as it stands. -/
theorem readOpaque_of_isPlainHost {host : List Char} (h : IsPlainHost host) :
    Host.readOpaque host = .ok host := by
  cases h with
  | address ip =>
    have hlast : ('[' :: ip.text ++ [']']).getLast? = some ']' :=
      List.getLast?_concat (l := '[' :: ip.text)
    have hlen : 2 ≤ ('[' :: ip.text ++ [']']).length := by simp
    have hinner : (('[' :: ip.text ++ [']']).drop 1).dropLast = ip.text := by simp
    rw [Host.readOpaque, if_pos (by simp), Host.readBracketed, if_pos ⟨hlast, hlen⟩, hinner,
      Ipv6.ofText?_text]
  | name hne hchars =>
    have hplain : ∀ c ∈ host, Host.isForbidden c = false ∧ Percent.controls c = false := by
      intro c hc
      have hname := hchars c hc
      rw [isNameChar_eq (ascii_of_isVisible (isVisible_of_isNameChar hname))] at hname
      simpa using hname
    have hbracket : host.head? ≠ some '[' := by
      intro hhead
      have hmem := List.mem_of_mem_head? (Option.mem_def.2 hhead)
      exact absurd (hchars _ hmem) (by decide)
    have hforbidden : host.any Host.isForbidden = false := by
      rw [List.any_eq_false]
      intro c hc
      simp [(hplain c hc).1]
    rw [Host.readOpaque, if_neg hbracket, if_neg (by simp [hforbidden]),
      Percent.encode_eq_self fun c hc =>
        ⟨ascii_of_isVisible (isVisible_of_isNameChar (hchars c hc)), (hplain c hc).2⟩]

/-! ## Queries -/

/-- What was read of a query can stand in one. -/
theorem isQueryChar_of_mem_encode {cs : List Char} {d : Char}
    (h : d ∈ Percent.encode Percent.query cs) : isQueryChar d = true := by
  have hescape : Percent.escapeChars.all isQueryChar = true := by decide
  rcases Percent.mem_encode h with ⟨-, hascii, hset⟩ | hd
  · rw [isQueryChar_eq hascii, hset]
    rfl
  · exact List.all_eq_true.mp hescape d hd

/-- A query is read as it stands if all its characters can. -/
theorem encode_query_eq_self {cs : List Char} (h : ∀ c ∈ cs, isQueryChar c = true) :
    Percent.encode Percent.query cs = cs := by
  refine Percent.encode_eq_self fun c hc => ?_
  have hascii := ascii_of_isVisible (isVisible_of_isQueryChar (h c hc))
  have hset := h c hc
  rw [isQueryChar_eq hascii] at hset
  exact ⟨hascii, by simpa using hset⟩

/-! ## Paths -/

namespace Path

/-- The spellings of a dot. -/
def dotSpellings : List (List Char) := [['.'], ['%', '2', 'e'], ['%', '2', 'E']]

/-- Whether a segment is one dot or two dots, in any spelling. -/
def IsDots (segment : List Char) : Prop :=
  segment ∈ dotSpellings ∨ ∃ a ∈ dotSpellings, ∃ b ∈ dotSpellings, segment = a ++ b

theorem afterDot?_eq_some_iff {segment rest : List Char} :
    afterDot? segment = some rest ↔ ∃ dot ∈ dotSpellings, segment = dot ++ rest := by
  constructor
  · intro h
    unfold afterDot? at h
    split at h
    · injection h with h; subst h; exact ⟨['.'], by decide, rfl⟩
    · injection h with h; subst h; exact ⟨['%', '2', 'e'], by decide, rfl⟩
    · injection h with h; subst h; exact ⟨['%', '2', 'E'], by decide, rfl⟩
    · exact absurd h (by simp)
  · rintro ⟨dot, hdot, rfl⟩
    simp only [dotSpellings, List.mem_cons, List.not_mem_nil, or_false] at hdot
    rcases hdot with rfl | rfl | rfl <;> rfl

theorem isSingleDot_iff {segment : List Char} :
    isSingleDot segment = true ↔ segment ∈ dotSpellings := by
  unfold isSingleDot
  rw [beq_iff_eq, afterDot?_eq_some_iff]
  simp

theorem isDoubleDot_iff {segment : List Char} :
    isDoubleDot segment = true ↔ ∃ a ∈ dotSpellings, ∃ b ∈ dotSpellings, segment = a ++ b := by
  unfold isDoubleDot
  rw [beq_iff_eq, Option.bind_eq_some_iff]
  constructor
  · rintro ⟨rest, hfirst, hsecond⟩
    obtain ⟨a, ha, rfl⟩ := afterDot?_eq_some_iff.1 hfirst
    obtain ⟨b, hb, rfl⟩ := afterDot?_eq_some_iff.1 hsecond
    exact ⟨a, ha, b, hb, by simp⟩
  · rintro ⟨a, ha, b, hb, rfl⟩
    exact ⟨b, afterDot?_eq_some_iff.2 ⟨a, ha, rfl⟩, afterDot?_eq_some_iff.2 ⟨b, hb, by simp⟩⟩

/-- Dots put nothing but an empty segment behind what stands already. -/
theorem mem_put_of_isDots {isLast : Bool} {done : List (List Char)} {segment s : List Char}
    (h : IsDots segment) (hs : s ∈ put isLast done segment) : s ∈ done ∨ s = [] := by
  have hending : ∀ {s : List Char}, s ∈ (if isLast then [[]] else []) → s = [] := by
    intro s hs
    cases isLast <;> simp_all
  unfold put at hs
  by_cases hdouble : isDoubleDot segment = true
  · rw [if_pos hdouble, List.mem_append] at hs
    rcases hs with hs | hs
    · unfold stepUp at hs
      split at hs
      · exact .inl hs
      · exact .inl ((List.dropLast_sublist done).mem hs)
    · exact .inr (hending hs)
  · have hsingle : isSingleDot segment = true :=
      isSingleDot_iff.2 (h.resolve_right fun hd => hdouble (isDoubleDot_iff.2 hd))
    rw [if_neg hdouble, if_pos hsingle, List.mem_append] at hs
    exact hs.imp id hending

/-- Any other segment is put behind them as it is. -/
theorem put_of_not_isDots {isLast : Bool} {done : List (List Char)} {segment : List Char}
    (h : ¬ IsDots segment) : put isLast done segment = done ++ [segment] := by
  have hdouble : ¬ isDoubleDot segment = true := fun hd => h (.inr (isDoubleDot_iff.1 hd))
  have hsingle : ¬ isSingleDot segment = true := fun hd => h (.inl (isSingleDot_iff.1 hd))
  rw [put, if_neg hdouble, if_neg hsingle]

theorem mem_put {isLast : Bool} {done : List (List Char)} {segment s : List Char}
    (hs : s ∈ put isLast done segment) : s ∈ done ∨ s = [] ∨ (s = segment ∧ ¬ IsDots s) := by
  by_cases h : IsDots segment
  · exact (mem_put_of_isDots h hs).imp id .inl
  · rw [put_of_not_isDots h, List.mem_append, List.mem_singleton] at hs
    rcases hs with hs | rfl
    · exact .inl hs
    · exact .inr (.inr ⟨rfl, h⟩)

/-- Each segment of a resolved path is empty or one of the segments that are no dots. -/
theorem mem_fill_put {segments : List (List Char)} {s : List Char} :
    ∀ {done : List (List Char)}, s ∈ fill put done segments →
      s ∈ done ∨ s = [] ∨ (s ∈ segments ∧ ¬ IsDots s) := by
  induction segments with
  | nil => intro done hs; exact .inl hs
  | cons segment rest ih =>
    intro done hs
    have hfirst : ∀ {isLast : Bool}, s ∈ put isLast done segment →
        s ∈ done ∨ s = [] ∨ (s ∈ segment :: rest ∧ ¬ IsDots s) := by
      intro isLast hs
      rcases mem_put hs with hs | hs | ⟨rfl, hdots⟩
      · exact .inl hs
      · exact .inr (.inl hs)
      · exact .inr (.inr ⟨List.mem_cons_self, hdots⟩)
    cases rest with
    | nil => exact hfirst hs
    | cons next rest =>
      rcases ih hs with hs | hs | ⟨hs, hdots⟩
      · exact hfirst hs
      · exact .inr (.inl hs)
      · exact .inr (.inr ⟨List.mem_cons_of_mem segment hs, hdots⟩)

/-- A path without dots is resolved already. -/
theorem fill_put_of_not_isDots {segments : List (List Char)} (h : ∀ s ∈ segments, ¬ IsDots s) :
    ∀ done : List (List Char), fill put done segments = done ++ segments := by
  induction segments with
  | nil => intro done; simp [fill]
  | cons segment rest ih =>
    intro done
    have hsegment := h segment List.mem_cons_self
    cases rest with
    | nil => exact put_of_not_isDots hsegment
    | cons next rest =>
      rw [fill, put_of_not_isDots hsegment, ih fun s hs => h s (List.mem_cons_of_mem segment hs)]
      · simp
      · simp

end Path

/-- A path that is read as it stands. -/
structure IsPlainPath (path : List Char) : Prop where
  slash : path.head? = some '/'
  chars : ∀ c ∈ path, isPathChar c = true
  /-- No segment of it means the place where it stands or the one above. -/
  noDots : ∀ s ∈ Segments.split '/' path, ¬ Path.IsDots s

theorem not_isDots_nil : ¬ Path.IsDots [] := by
  rintro (h | ⟨a, ha, b, -, h⟩)
  · exact absurd h (by decide)
  · rw [(List.append_eq_nil_iff.1 h.symm).1] at ha
    exact absurd ha (by decide)

/-- A path that was read is plain. -/
theorem isPlainPath_read (slash : Char → Bool) (body : List Char) :
    IsPlainPath (Path.read slash body) := by
  have hescape : Percent.escapeChars.all (fun d => isPathChar d && d != '/') = true := by decide
  let parts := Segments.split '/' (body.map fun c => if slash c then '/' else c)
  let segments := Path.resolve (parts.map (Percent.encode Percent.path))
  -- A segment is what was between two slashes, encoded, or an empty one in the place of dots.
  have hsegment : ∀ s ∈ segments, s = [] ∨ ∃ t ∈ parts, s = Percent.encode Percent.path t := by
    intro s hs
    rcases Path.mem_fill_put hs with hs | hs | ⟨hs, -⟩
    · exact absurd hs List.not_mem_nil
    · exact .inl hs
    · obtain ⟨t, ht, rfl⟩ := List.mem_map.1 hs
      exact .inr ⟨t, ht, rfl⟩
  have hchar : ∀ s ∈ segments, ∀ d ∈ s, isPathChar d = true ∧ d ≠ '/' := by
    intro s hs d hd
    rcases hsegment s hs with rfl | ⟨t, ht, rfl⟩
    · exact absurd hd List.not_mem_nil
    · rcases Percent.mem_encode hd with ⟨hmem, hascii, hset⟩ | hd
      · refine ⟨by rw [isPathChar_eq hascii, hset]; rfl, ?_⟩
        rintro rfl
        exact Segments.not_mem_of_mem_split '/' _ t ht hmem
      · simpa using List.all_eq_true.mp hescape d hd
  have hdots : ∀ s ∈ segments, ¬ Path.IsDots s := by
    intro s hs
    rcases Path.mem_fill_put hs with hs | rfl | ⟨-, hdots⟩
    · exact absurd hs List.not_mem_nil
    · exact not_isDots_nil
    · exact hdots
  -- No segment has a slash in it, so the path splits at the slashes into the same segments.
  have hread : Path.read slash body = '/' :: Segments.join '/' segments := rfl
  rw [hread]
  refine ⟨rfl, ?_, ?_⟩
  · intro c hc
    rcases List.mem_cons.1 hc with rfl | hc
    · decide
    · rcases Segments.mem_join hc with rfl | ⟨s, hs, hc⟩
      · decide
      · exact (hchar s hs c hc).1
  · intro s hs
    rw [Segments.split, if_pos rfl] at hs
    rcases List.mem_cons.1 hs with rfl | hs
    · exact not_isDots_nil
    · by_cases hnil : segments = []
      · rw [hnil, Segments.join, Segments.split, List.mem_singleton] at hs
        exact hs ▸ not_isDots_nil
      · rw [Segments.split_join hnil fun s hs hmem => (hchar s hs _ hmem).2 rfl] at hs
        exact hdots s hs

/-- A plain path is read as it stands. -/
theorem read_of_isPlainPath {body : List Char} (h : IsPlainPath ('/' :: body)) :
    Path.read (isSlash false) body = '/' :: body := by
  have hsame : body.map (fun c => if isSlash false c then '/' else c) = body := by
    refine List.map_id'' (fun c => ?_) body
    by_cases hc : c = '/' <;> simp [isSlash, hc]
  have hkept : (Segments.split '/' body).map (Percent.encode Percent.path)
      = Segments.split '/' body := by
    refine List.map_congr_left (fun s hs => Percent.encode_eq_self fun c hc => ?_) |>.trans
      (List.map_id _)
    have hpath := h.chars c (List.mem_cons_of_mem '/' (Segments.mem_of_mem_split hs hc))
    have hascii := ascii_of_isVisible (isVisible_of_isPathChar hpath)
    rw [isPathChar_eq hascii] at hpath
    exact ⟨hascii, by simpa using hpath⟩
  have hdots : ∀ s ∈ Segments.split '/' body, ¬ Path.IsDots s := by
    intro s hs
    refine h.noDots s ?_
    rw [Segments.split, if_pos rfl]
    exact List.mem_cons_of_mem [] hs
  rw [Path.read, hsame, hkept, Path.resolve, Path.fill_put_of_not_isDots hdots, Path.ofSegments,
    List.nil_append, Segments.join_split]

end Url
end AudioLink
