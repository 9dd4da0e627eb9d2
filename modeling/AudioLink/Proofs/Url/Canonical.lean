import AudioLink.Proofs.Checks
import AudioLink.Proofs.Text
import AudioLink.Proofs.Url.Plain
import Mathlib.Data.List.TakeDrop
import Mathlib.Data.List.TakeWhile

/-
URLs of a scheme that is not special, in canonical form.

A URL with a host is plain if its host, path and query are, and if it has neither user information
nor a fragment. A plain URL is read from its own text, and every URL that is read, has a host, and
has neither of the two, is plain. The first statement goes along the text from the left: each reader
stops where the next component begins, because no plain component holds the delimiter behind it. The
second needs nothing of the text: whatever it was, the components are the readers' own output.
-/
set_option autoImplicit false

namespace AudioLink.Url

/-! ## Nothing around the text -/

/-- Nothing is trimmed from a text whose characters are all visible. -/
theorem dropWhile_blank {cs : List Char} (h : ∀ c ∈ cs, isVisible c = true) :
    cs.dropWhile (fun c => decide (c.toNat ≤ 32)) = cs := by
  refine Text.dropWhile_append_of_stop (l := []) (by simp) fun c hc => ?_
  have hvisible := h c (List.mem_of_mem_head? hc)
  simp only [isVisible, Bool.and_eq_true, decide_eq_true_eq] at hvisible
  simp only [decide_eq_false_iff_not]
  omega

/-- Visible characters are not trimmed. -/
theorem trim_of_isVisible {cs : List Char} (h : ∀ c ∈ cs, isVisible c = true) : trim cs = cs := by
  have hreverse : ∀ c ∈ cs.reverse, isVisible c = true := fun c hc => h c (List.mem_reverse.1 hc)
  rw [trim, dropWhile_blank h, dropWhile_blank hreverse, List.reverse_reverse]

/-- There are no line breaks in a text whose characters are all visible. -/
theorem withoutBreaks_of_isVisible {cs : List Char} (h : ∀ c ∈ cs, isVisible c = true) :
    Path.withoutBreaks cs = cs := by
  refine List.filter_eq_self.2 fun c hc => ?_
  exact forall_ascii (P := fun c => isVisible c = true → (!Path.isBreak c) = true)
    (by decide +kernel) (ascii_of_isVisible (h c hc)) (h c hc)

/-! ## Schemes -/

/-- A scheme that is not special and is written in lower case. -/
structure IsPlainScheme (scheme : List Char) : Prop where
  letter : scheme.head?.any Char.isAlpha = true
  chars : ∀ c ∈ scheme, isSchemeChar c = true
  visible : ∀ c ∈ scheme, isVisible c = true
  lower : scheme.map Char.toLower = scheme
  /-- The scheme is none of those that the URL standard treats in a special way. -/
  other : SchemeKind.ofScheme scheme = .other

/-- A plain scheme is read up to its colon. -/
theorem splitScheme?_of_isPlainScheme {scheme : List Char} (h : IsPlainScheme scheme)
    (rest : List Char) : splitScheme? (scheme ++ ':' :: rest) = some (scheme, rest) := by
  have hspan : (scheme ++ ':' :: rest).span isSchemeChar = (scheme, ':' :: rest) :=
    Text.span_append_of_stop h.chars fun c hc => by
      obtain rfl : ':' = c := by simpa using hc
      decide
  rw [splitScheme?, hspan]
  simp [h.letter, h.lower]

/-! ## Authorities -/

theorem ascii_of_isHex {c : Char} (h : Digits.isHex c = true) : c.toNat < 128 := by
  have hle : ∀ d : Char, c ≤ d → c.toNat ≤ d.toNat := fun d hd => hd
  unfold Digits.isHex Digits.hexValue? at h
  split at h
  · next hc => have := hle _ hc.2; simp at this; omega
  · split at h
    · next hc => have := hle _ hc.2; simp at this; omega
    · split at h
      · next hc => have := hle _ hc.2; simp at this; omega
      · exact absurd h (by simp)

/-- Whether `c` is visible and delimits neither user information nor an authority. -/
def isAuthorityChar (c : Char) : Bool := isVisible c && c != '@' && !endsAuthority false c

/-- A hexadecimal digit may stand in an authority and closes no bracket. -/
theorem isAuthorityChar_of_isHex {c : Char} (h : Digits.isHex c = true) :
    isAuthorityChar c = true ∧ c ≠ ']' :=
  forall_ascii (P := fun c => Digits.isHex c = true → isAuthorityChar c = true ∧ c ≠ ']')
    (by decide +kernel) (ascii_of_isHex h) h

/-- A character of a name may stand in an authority, and ends no host. -/
theorem isAuthorityChar_of_isNameChar {c : Char} (h : isNameChar c = true) :
    isAuthorityChar c = true ∧ c ≠ ':' ∧ c ≠ '[' :=
  forall_ascii
    (P := fun c => isNameChar c = true → isAuthorityChar c = true ∧ c ≠ ':' ∧ c ≠ '[')
    (by decide +kernel) (ascii_of_isVisible (isVisible_of_isNameChar h)) h

/-- A digit may stand in an authority. -/
theorem isAuthorityChar_of_isDigit {c : Char} (h : c.isDigit = true) :
    isAuthorityChar c = true := by
  have hascii : c.toNat < 128 := by
    simp only [Char.isDigit, Bool.and_eq_true, decide_eq_true_eq] at h
    have := UInt32.le_iff_toNat_le.1 h.2
    simp at this
    exact Nat.lt_of_le_of_lt this (by decide)
  exact forall_ascii (P := fun c => c.isDigit = true → isAuthorityChar c = true)
    (by decide +kernel) hascii h

/-- What may stand in an authority does not end it. -/
theorem endsAuthority_of_isAuthorityChar {c : Char} (h : isAuthorityChar c = true) :
    endsAuthority false c = false := by
  simp only [isAuthorityChar, Bool.and_eq_true] at h
  simpa using h.2

/-- A plain host does not hold what ends it, apart from the colons between brackets. -/
theorem isAuthorityChar_of_mem_host {host : List Char} (h : IsPlainHost host) :
    ∀ c ∈ host, isAuthorityChar c = true := by
  intro c hc
  cases h with
  | address ip =>
    simp only [List.cons_append, List.mem_cons, List.mem_append, List.not_mem_nil, or_false] at hc
    rcases hc with rfl | hc | rfl
    · decide
    · rcases Ipv6.mem_text hc with rfl | hc
      · decide
      · exact (isAuthorityChar_of_isHex hc).1
    · decide
  | name hne hchars => exact (isAuthorityChar_of_isNameChar (hchars c hc)).1

/-- Whether a text is empty or begins with what ends a host. -/
def StopsHost (rest : List Char) : Prop := ∀ c ∈ rest.head?, c = ':' ∨ endsAuthority false c = true

/-- A host ends where something stands that stops it. -/
theorem splitHost_of_stopsHost {rest : List Char} (h : StopsHost rest) :
    splitHost false false rest = ([], rest) := by
  cases rest with
  | nil => rfl
  | cons c cs =>
    have hc : (c = ':' ∧ false = false) ∨ endsAuthority false c = true :=
      (h c rfl).imp (fun h => ⟨h, rfl⟩) id
    rw [splitHost, if_pos hc]

/-- A name is read up to what stops the host. -/
theorem splitHost_name {name rest : List Char} (hname : ∀ c ∈ name, isNameChar c = true)
    (hrest : StopsHost rest) : splitHost false false (name ++ rest) = (name, rest) := by
  induction name with
  | nil => exact splitHost_of_stopsHost hrest
  | cons c name ih =>
    obtain ⟨hc, hcolon, hbracket⟩ := isAuthorityChar_of_isNameChar (hname c List.mem_cons_self)
    have hgo : ¬ ((c = ':' ∧ false = false) ∨ endsAuthority false c = true) := by
      simp [hcolon, endsAuthority_of_isAuthorityChar hc]
    have ih := ih fun d hd => hname d (List.mem_cons_of_mem c hd)
    rw [List.cons_append, splitHost, if_neg hgo]
    simp [hbracket, ih]

/-- Between brackets a colon does not end the host. -/
theorem splitHost_bracketed {inner rest : List Char}
    (hinner : ∀ c ∈ inner, isAuthorityChar c = true ∧ c ≠ ']') (hrest : StopsHost rest) :
    splitHost false true (inner ++ ']' :: rest) = (inner ++ [']'], rest) := by
  induction inner with
  | nil =>
    have hgo : ¬ ((']' = ':' ∧ true = false) ∨ endsAuthority false ']' = true) := by decide
    rw [List.nil_append, splitHost, if_neg hgo]
    simp [splitHost_of_stopsHost hrest]
  | cons c inner ih =>
    obtain ⟨hc, hclose⟩ := hinner c List.mem_cons_self
    have hgo : ¬ ((c = ':' ∧ true = false) ∨ endsAuthority false c = true) := by
      simp [endsAuthority_of_isAuthorityChar hc]
    have ih := ih fun d hd => hinner d (List.mem_cons_of_mem c hd)
    rw [List.cons_append, splitHost, if_neg hgo]
    simp [hclose, ih]

/-- A plain host ends where it should. -/
theorem splitHost_of_isPlainHost {host rest : List Char} (h : IsPlainHost host)
    (hrest : StopsHost rest) : splitHost false false (host ++ rest) = (host, rest) := by
  cases h with
  | address ip =>
    have hinner : ∀ c ∈ ip.text, isAuthorityChar c = true ∧ c ≠ ']' := by
      intro c hc
      rcases Ipv6.mem_text hc with rfl | hc
      · decide
      · exact isAuthorityChar_of_isHex hc
    have hgo : ¬ (('[' = ':' ∧ false = false) ∨ endsAuthority false '[' = true) := by decide
    have htext : '[' :: ip.text ++ [']'] ++ rest = '[' :: (ip.text ++ ']' :: rest) := by simp
    rw [htext, splitHost, if_neg hgo]
    simp [splitHost_bracketed hinner hrest]
  | name hne hchars => exact splitHost_name hchars hrest

/-- Whether a text is empty or begins with a slash or a question mark. -/
def BehindPort (rest : List Char) : Prop := ∀ c ∈ rest.head?, c = '/' ∨ c = '?'

/-- What comes behind a port ends the authority. -/
theorem BehindPort.endsAuthority {rest : List Char} (h : BehindPort rest) :
    ∀ c ∈ rest.head?, endsAuthority false c = true := by
  intro c hc
  rcases h c hc with rfl | rfl <;> decide

/-- The numeral of a port is read as its number. -/
theorem readPort_decimal {n : Nat} (hn : n ≤ 65535) {rest : List Char} (hrest : BehindPort rest) :
    readPort .other (Digits.decimal n ++ rest) = .ok (some n, rest) := by
  have hspan : (Digits.decimal n ++ rest).span Char.isDigit = (Digits.decimal n, rest) := by
    refine Text.span_append_of_stop (fun c hc => Digits.isDigit_of_mem_decimal hc) fun c hc => ?_
    rcases hrest c hc with rfl | rfl <;> decide
  have hvalue : Nat.ofDigitChars 10 (Digits.decimal n) 0 = n :=
    Nat.ofDigitChars_toDigits (by decide) (by decide)
  have hbehind :
      (rest.head?.any fun c => !(c = '/' || c = '\\' || c = '?' || c = '#')) = false := by
    cases rest with
    | nil => rfl
    | cons c cs => rcases hrest c rfl with rfl | rfl <;> rfl
  simp only [readPort, hspan, hvalue, hbehind]
  rw [if_neg (by omega), if_neg (by simp), if_neg]
  simp [Digits.decimal_ne_nil, SchemeKind.defaultPort?]

/-- The port behind a colon, if there is one. -/
def portSuffix (port : Option Nat) : List Char :=
  match port with
  | some n => ':' :: Digits.decimal n
  | none => []

/-- A port may stand in an authority, with its colon. -/
theorem isAuthorityChar_of_mem_portSuffix {port : Option Nat} :
    ∀ c ∈ portSuffix port, isAuthorityChar c = true := by
  intro c hc
  cases port with
  | none => exact absurd hc List.not_mem_nil
  | some n =>
    rcases List.mem_cons.1 hc with rfl | hc
    · decide
    · exact isAuthorityChar_of_isDigit (Digits.isDigit_of_mem_decimal hc)

/-- A plain host is read with its port, up to what comes behind. -/
theorem readHostAndPort_of_isPlain {host rest : List Char} {port : Option Nat}
    (hhost : IsPlainHost host) (hport : ∀ n ∈ port, n ≤ 65535) (hrest : BehindPort rest) :
    readHostAndPort .other [] none (host ++ (portSuffix port ++ rest))
      = .ok ({ host, port }, rest) := by
  have hread := readOpaque_of_isPlainHost hhost
  have hne := hhost.ne_nil
  cases port with
  | none =>
    have hstop : StopsHost rest := fun c hc => .inr (hrest.endsAuthority c hc)
    have hsplit := splitHost_of_isPlainHost hhost hstop
    simp only [readHostAndPort, portSuffix, List.nil_append, SchemeKind.isSpecial, hsplit, hread]
    simp only [Bool.false_eq_true, if_false, bind, Except.bind]
    split
    · rcases hrest ':' rfl with h | h <;> exact absurd h (by decide)
    · rw [if_neg fun h => hne h.1]
      rfl
  | some n =>
    have hstop : StopsHost (':' :: (Digits.decimal n ++ rest)) := fun c hc => by
      obtain rfl : ':' = c := by simpa using hc
      exact .inl rfl
    have hsplit := splitHost_of_isPlainHost hhost hstop
    simp only [readHostAndPort, portSuffix, List.cons_append, SchemeKind.isSpecial, hsplit, hread]
    simp [bind, Except.bind, pure, Except.pure, hne, readPort_decimal (hport n rfl) hrest]

/-- An authority of a plain host and a port has no user in it. -/
theorem readAuthority_of_isPlain {host rest : List Char} {port : Option Nat}
    (hhost : IsPlainHost host) (hport : ∀ n ∈ port, n ≤ 65535) (hrest : BehindPort rest) :
    readAuthority .other (host ++ (portSuffix port ++ rest)) = .ok ({ host, port }, rest) := by
  have hchars : ∀ c ∈ host ++ portSuffix port, isAuthorityChar c = true := by
    intro c hc
    rcases List.mem_append.1 hc with hc | hc
    · exact isAuthorityChar_of_mem_host hhost c hc
    · exact isAuthorityChar_of_mem_portSuffix c hc
  have hauthority : (host ++ (portSuffix port ++ rest)).takeWhile (fun c => !endsAuthority false c)
      = host ++ portSuffix port := by
    rw [← List.append_assoc]
    refine Text.takeWhile_append_of_stop (fun c hc => ?_) fun c hc => ?_
    · rw [endsAuthority_of_isAuthorityChar (hchars c hc)]; rfl
    · rw [hrest.endsAuthority c hc]; rfl
  have hnoAt : ((host ++ portSuffix port).reverse.dropWhile (· ≠ '@')) = [] := by
    refine List.dropWhile_eq_nil_iff.2 fun c hc => ?_
    have hc := hchars c (List.mem_reverse.1 hc)
    simp only [isAuthorityChar, Bool.and_eq_true] at hc
    simpa using hc.1.2
  have hnone : splitUserInfo? false (host ++ (portSuffix port ++ rest)) = none := by
    simp only [splitUserInfo?, hauthority, hnoAt]
  rw [readAuthority, SchemeKind.isSpecial, hnone]
  exact readHostAndPort_of_isPlain hhost hport hrest

/-! ## Path and query -/

/-- A path is read up to its query. -/
theorem splitPath_of_isPathChar {path : List Char} (hpath : ∀ c ∈ path, isPathChar c = true)
    (query : Option (List Char)) :
    splitPath (path ++ optional '?' query) = (path, optional '?' query) := by
  refine Text.span_append_of_stop (fun c hc => ?_) fun c hc => ?_
  · have hascii := ascii_of_isVisible (isVisible_of_isPathChar (hpath c hc))
    exact forall_ascii
      (P := fun c => isPathChar c = true → decide (c ≠ '?' ∧ c ≠ '#') = true)
      (by decide +kernel) hascii (hpath c hc)
  · cases query with
    | none => exact absurd hc (by simp [optional])
    | some q =>
      obtain rfl : '?' = c := by simpa [optional] using hc
      decide

/-- A query without a hash is read to its end. -/
theorem readTail_of_isQueryChar {query : Option (List Char)}
    (hquery : ∀ q ∈ query, ∀ c ∈ q, isQueryChar c = true) :
    readTail .other (optional '?' query) = (query, none) := by
  cases query with
  | none => rfl
  | some q =>
    have hmark : ∀ c ∈ q, decide (c ≠ '#') = true := fun c hc =>
      forall_ascii (P := fun c => isQueryChar c = true → decide (c ≠ '#') = true)
        (by decide +kernel) (ascii_of_isVisible (isVisible_of_isQueryChar (hquery q rfl c hc)))
        (hquery q rfl c hc)
    have hspan : q.span (· ≠ '#') = (q, []) := by
      have hcut := Text.span_append_of_stop (r := []) hmark (by simp)
      rwa [List.append_nil] at hcut
    simp only [readTail, optional, SchemeKind.isSpecial, Bool.false_eq_true, if_false, hspan,
      encode_query_eq_self (hquery q rfl)]

/-- What was read of a path is empty or plain. -/
theorem isPlainPath_readPath (cs : List Char) :
    readPath false cs = [] ∨ IsPlainPath (readPath false cs) := by
  cases cs with
  | nil => exact .inl rfl
  | cons c rest =>
    right
    rw [readPath]
    split
    · exact isPlainPath_read _ rest
    · exact isPlainPath_read _ (c :: rest)

/-- A plain path has nothing to resolve and nothing to encode. -/
theorem readPath_of_isPlainPath {path : List Char} (h : path = [] ∨ IsPlainPath path) :
    readPath false path = path := by
  rcases h with rfl | h
  · rfl
  · cases path with
    | nil => rfl
    | cons c body =>
      obtain rfl : c = '/' := by simpa using h.slash
      rw [readPath, if_pos (by decide), read_of_isPlainPath h]

/-! ## Whole URLs -/

/-- A URL with a host, of a scheme that is not special, that is read as it stands. -/
structure IsPlain (url : Url) : Prop where
  scheme : IsPlainScheme url.scheme
  noUserInfo : url.hasUserInfo = false
  /-- There is a host, and it is plain. -/
  host : ∃ host, url.host = some host ∧ IsPlainHost host
  /-- The port is the number of a port. -/
  port_le : ∀ n ∈ url.port, n ≤ 65535
  /-- The path is empty or plain. -/
  path : url.path = [] ∨ IsPlainPath url.path
  /-- The characters of the query can stand in one. -/
  query : ∀ q ∈ url.query, ∀ c ∈ q, isQueryChar c = true
  noFragment : url.fragment = none

theorem IsPlain.pathChars {url : Url} (h : url.IsPlain) : ∀ c ∈ url.path, isPathChar c = true := by
  rcases h.path with hnil | hpath
  · intro c hc
    exact absurd (hnil ▸ hc) List.not_mem_nil
  · exact hpath.chars

theorem IsPlain.user_eq {url : Url} (h : url.IsPlain) : url.user = [] ∧ url.password = none := by
  simpa [hasUserInfo] using h.noUserInfo

/-- The text of a plain URL is its components with their delimiters between them. -/
theorem IsPlain.text_eq {url : Url} (h : url.IsPlain) {host : List Char}
    (hhost : url.host = some host) :
    url.text = url.scheme ++ ':' :: '/' :: '/' ::
      (host ++ (portSuffix url.port ++ (url.path ++ optional '?' url.query))) := by
  have hport : url.portText = portSuffix url.port := rfl
  have huser : url.userInfoText = [] := by simp [userInfoText, h.user_eq]
  simp [text, authorityText, hhost, huser, hport, h.noFragment, optional]

/-- All characters of the text of a plain URL are visible. -/
theorem IsPlain.visible {url : Url} (h : url.IsPlain) : ∀ c ∈ url.text, isVisible c = true := by
  obtain ⟨host, hhost, hplain⟩ := h.host
  have hauthority : ∀ c, isAuthorityChar c = true → isVisible c = true := by
    intro c hc
    simp only [isAuthorityChar, Bool.and_eq_true] at hc
    exact hc.1.1
  intro c hc
  rw [h.text_eq hhost] at hc
  simp only [List.mem_append, List.mem_cons] at hc
  rcases hc with hc | rfl | rfl | rfl | hc | hc | hc | hc
  · exact h.scheme.visible c hc
  · decide
  · decide
  · decide
  · exact hauthority c (isAuthorityChar_of_mem_host hplain c hc)
  · exact hauthority c (isAuthorityChar_of_mem_portSuffix c hc)
  · exact isVisible_of_isPathChar (h.pathChars c hc)
  · cases hquery : url.query with
    | none => exact absurd hc (by simp [hquery, optional])
    | some q =>
      rw [hquery, optional] at hc
      rcases List.mem_cons.1 hc with rfl | hc
      · decide
      · exact isVisible_of_isQueryChar (h.query q hquery c hc)

/-- What stands behind the port of a plain URL begins with a slash or a question mark. -/
theorem IsPlain.behindPort {url : Url} (h : url.IsPlain) :
    BehindPort (url.path ++ optional '?' url.query) := by
  intro c hc
  rcases h.path with hnil | hpath
  · rw [hnil, List.nil_append] at hc
    cases hquery : url.query with
    | none => exact absurd hc (by simp [hquery, optional])
    | some q =>
      rw [hquery] at hc
      exact .inr (by simpa [optional] using hc.symm)
  · obtain ⟨body, hbody⟩ : ∃ body, url.path = '/' :: body := by
      cases hp : url.path with
      | nil => exact absurd hpath.slash (by simp [hp])
      | cons d body =>
        have hslash := hpath.slash
        rw [hp] at hslash
        obtain rfl : d = '/' := by simpa using hslash
        exact ⟨body, rfl⟩
    rw [hbody] at hc
    exact .inl (by simpa using hc.symm)

/-- A plain URL is read from its text. -/
theorem parse_text_of_isPlain {url : Url} (h : url.IsPlain) : parse url.text = .ok url := by
  obtain ⟨host, hhost, hplain⟩ := h.host
  have hscheme := splitScheme?_of_isPlainScheme h.scheme
    ('/' :: '/' :: (host ++ (portSuffix url.port ++ (url.path ++ optional '?' url.query))))
  rw [← h.text_eq hhost] at hscheme
  simp only [parse, trim_of_isVisible h.visible, withoutBreaks_of_isVisible h.visible, hscheme,
    h.scheme.other, readWithAuthority, bind_eq_ok_iff]
  refine ⟨_, readAuthority_of_isPlain hplain h.port_le h.behindPort, ?_⟩
  simp only [splitPath_of_isPathChar h.pathChars, readTail_of_isQueryChar h.query,
    SchemeKind.isSpecial, readPath_of_isPlainPath h.path]
  cases url
  have huser := h.user_eq
  have hfragment := h.noFragment
  simp_all [pure, Except.pure]

/-! ### What is read is plain -/

/-- A port that is read fits sixteen bits. -/
theorem readPort_le {kind : SchemeKind} {cs rest : List Char} {port : Option Nat}
    (h : readPort kind cs = .ok (port, rest)) : ∀ n ∈ port, n ≤ 65535 := by
  intro n hn
  simp only [readPort] at h
  split at h
  · exact absurd h (by simp)
  · next hle =>
    split at h
    · exact absurd h (by simp)
    · split at h
      · injection h with h
        injection h with hport _
        rw [← hport] at hn
        exact absurd hn (by simp)
      · injection h with h
        injection h with hport _
        rw [← hport, Option.mem_some] at hn
        omega

/-- A host that is read is plain, if it is not empty, and its port fits. -/
theorem isPlainHost_of_readHostAndPort {user cs rest : List Char} {password : Option (List Char)}
    {authority : Authority}
    (h : readHostAndPort .other user password cs = .ok (authority, rest)) :
    (authority.host ≠ [] → IsPlainHost authority.host) ∧ ∀ n ∈ authority.port, n ≤ 65535 := by
  simp only [readHostAndPort, SchemeKind.isSpecial, Bool.false_eq_true, if_false] at h
  obtain ⟨host, hread, h⟩ := bind_eq_ok_iff.1 h
  split at h
  · split at h
    · exact absurd h (by simp)
    · obtain ⟨⟨port, behind⟩, hport, h⟩ := bind_eq_ok_iff.1 h
      injection h with h
      injection h with hauthority _
      subst hauthority
      exact ⟨isPlainHost_of_readOpaque hread, readPort_le hport⟩
  · split at h
    · exact absurd h (by simp)
    · injection h with h
      injection h with hauthority _
      subst hauthority
      exact ⟨isPlainHost_of_readOpaque hread, by simp⟩

/-- The same of the host of an authority, behind whatever user. -/
theorem isPlainHost_of_readAuthority {cs rest : List Char} {authority : Authority}
    (h : readAuthority .other cs = .ok (authority, rest)) :
    (authority.host ≠ [] → IsPlainHost authority.host) ∧ ∀ n ∈ authority.port, n ≤ 65535 := by
  unfold readAuthority at h
  split at h
  · exact isPlainHost_of_readHostAndPort h
  · split at h
    · exact absurd h (by simp)
    · exact isPlainHost_of_readHostAndPort h
  · exact isPlainHost_of_readHostAndPort h

/-- A query that is read has no characters but those of a query. -/
theorem isQueryChar_of_readTail {cs : List Char} :
    ∀ q ∈ (readTail .other cs).1, ∀ c ∈ q, isQueryChar c = true := by
  intro q hq c hc
  simp only [readTail, SchemeKind.isSpecial, Bool.false_eq_true, if_false] at hq
  split at hq
  · rw [Option.mem_some] at hq
    subst hq
    exact isQueryChar_of_mem_encode hc
  · exact absurd hq (by simp)
  · exact absurd hq (by simp)

/-- The scheme is none of what is read behind it. -/
theorem scheme_of_readWithAuthority {scheme cs : List Char} {kind : SchemeKind} {url : Url}
    (h : readWithAuthority scheme kind cs = .ok url) : url.scheme = scheme := by
  simp only [readWithAuthority] at h
  obtain ⟨x, -, h⟩ := bind_eq_ok_iff.1 h
  injection h with h
  rw [← h]

theorem scheme_of_readFile {scheme cs : List Char} {url : Url}
    (h : readFile scheme cs = .ok url) : url.scheme = scheme := by
  simp only [readFile] at h
  split at h
  · obtain ⟨x, -, h⟩ := bind_eq_ok_iff.1 h
    injection h with h
    rw [← h]
  · split at h
    · obtain ⟨x, -, h⟩ := bind_eq_ok_iff.1 h
      injection h with h
      rw [← h]
    · obtain ⟨x, -, h⟩ := bind_eq_ok_iff.1 h
      injection h with h
      rw [← h]

/-- A URL of a scheme that is not special, with a host, was read behind two slashes. -/
theorem readWithAuthority_of_parse {text : List Char} {url : Url} (h : parse text = .ok url)
    (hkind : SchemeKind.ofScheme url.scheme = .other) (hhost : url.host.isSome = true) :
    ∃ cs, readWithAuthority url.scheme .other cs = .ok url := by
  unfold parse at h
  simp only at h
  split at h
  · exact absurd h (by simp)
  · next scheme rest hscheme =>
    split at h
    · next hfile =>
      rw [scheme_of_readFile h, hfile] at hkind
      exact absurd hkind (by simp)
    · next hspecial =>
      rw [scheme_of_readWithAuthority h, hspecial] at hkind
      exact absurd hkind (by simp)
    · split at h
      · next behind => exact ⟨behind, scheme_of_readWithAuthority h ▸ h⟩
      · injection h with h
        rw [← h] at hhost
        exact absurd hhost (by simp [readWithoutAuthority])

/-- A URL that was read is plain, if its scheme is and it has a host and neither user information
nor a fragment. -/
theorem isPlain_of_parse {text : List Char} {url : Url} (h : parse text = .ok url)
    (hscheme : IsPlainScheme url.scheme) (huser : url.hasUserInfo = false)
    (hfragment : url.fragment = none) {host : List Char} (hhost : url.host = some host)
    (hne : host ≠ []) : url.IsPlain := by
  obtain ⟨cs, h⟩ := readWithAuthority_of_parse h hscheme.other (by rw [hhost]; rfl)
  simp only [readWithAuthority] at h
  obtain ⟨⟨authority, rest⟩, hauthority, h⟩ := bind_eq_ok_iff.1 h
  injection h with h
  obtain ⟨hplain, hport⟩ := isPlainHost_of_readAuthority hauthority
  have hsame : authority.host = host := by
    rw [← h] at hhost
    exact Option.some.inj hhost
  refine ⟨hscheme, huser, ⟨host, hhost, hsame ▸ hplain (hsame ▸ hne)⟩, ?_, ?_, ?_, hfragment⟩
  · rw [← h]; exact hport
  · rw [← h]; exact isPlainPath_readPath _
  · rw [← h]; exact isQueryChar_of_readTail

end AudioLink.Url
