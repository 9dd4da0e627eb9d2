import AudioLink.Text.Digits
import AudioLink.Text.Bytes

/-
Percent-encoding: a character that a component of a URL cannot hold is written as the UTF-8 bytes
of it, each as a percent sign and two upper-case hexadecimal digits.

Which ASCII characters a component cannot hold is a set, given as a test on characters; a character
above ASCII is always encoded. The sets build on one another in the order in which they stand here.
-/
set_option autoImplicit false

namespace AudioLink.Percent

/-! ## Encoding -/

/-- A byte as a percent sign and two upper-case hexadecimal digits. -/
def escapeByte (b : UInt8) : List Char :=
  ['%', Digits.upperHexDigit (b.toNat / 16), Digits.upperHexDigit b.toNat]

/-- A character as itself, or as its escaped UTF-8 bytes if it is in the set or above ASCII. -/
def encodeChar (set : Char → Bool) (c : Char) : List Char :=
  -- A percent sign is in none of the sets, so an escape that stands already is kept.
  if c.toNat < 128 ∧ set c = false then [c]
  else (String.utf8EncodeChar c).flatMap escapeByte

/-- A text with every character of the set escaped. -/
def encode (set : Char → Bool) (cs : List Char) : List Char := cs.flatMap (encodeChar set)

/-- A text without characters of the set or above ASCII stands as it is. -/
theorem encode_eq_self {set : Char → Bool} {cs : List Char}
    (h : ∀ c ∈ cs, c.toNat < 128 ∧ set c = false) : encode set cs = cs := by
  induction cs with
  | nil => rfl
  | cons c cs ih =>
    have hc := h c List.mem_cons_self
    have hcs := ih fun d hd => h d (List.mem_cons_of_mem c hd)
    unfold encode at hcs ⊢
    rw [List.flatMap_cons, hcs]
    simp [encodeChar, hc]

/-! ## The sets -/

/-- ASCII controls. -/
def controls (c : Char) : Bool := c.toNat < 32 || c.toNat = 127

/-- What the query of a URL cannot hold. -/
def query (c : Char) : Bool := controls c || [' ', '"', '#', '<', '>'].contains c

/-- What the query of a URL with a special scheme cannot hold. -/
def specialQuery (c : Char) : Bool := query c || c = '\''

/-- What a fragment cannot hold. -/
def fragment (c : Char) : Bool := controls c || [' ', '"', '<', '>', '\x60'].contains c

/-- What a path segment cannot hold. -/
def path (c : Char) : Bool := fragment c || ['#', '?', '\x7b', '\x7d'].contains c

/-- What a user name or a password cannot hold. -/
def userInfo (c : Char) : Bool :=
  path c || ['/', ':', ';', '=', '@', '[', '\\', ']', '^', '|'].contains c

/-! ## Decoding -/

/-- The bytes of a text in which each well-formed escape stands for its byte; a percent sign
without two digits behind it stands for itself. -/
def decode : List Char → Bytes
  | '%' :: h :: l :: rest =>
    match Digits.hexValue? h, Digits.hexValue? l with
    | some a, some b => UInt8.ofNat (a * 16 + b) :: decode rest
    | _, _ => String.utf8EncodeChar '%' ++ decode (h :: l :: rest)
  | c :: rest => String.utf8EncodeChar c ++ decode rest
  | [] => []

/-- Whether every percent sign has two hexadecimal digits behind it. -/
def escapesComplete : List Char → Bool
  | [] => true
  | '%' :: rest =>
    match rest with
    | h :: l :: _ => Digits.isHex h && Digits.isHex l && escapesComplete rest
    | _ => false
  | _ :: rest => escapesComplete rest

end AudioLink.Percent
