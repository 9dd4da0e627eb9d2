import AudioLink.Text.Digits
import AudioLink.Text.Segments

/-
Directives of a log filter: which texts are accepted.

A filter is a list of directives with commas between them. A directive is a level, a target, or a
target, a span in brackets, or both, with a level behind an equals sign. A span may name fields in
braces. A level is one of six names, in any case, or a number from zero to five; after the equals
sign it may be missing. White space around a directive is left out, but a level behind an equals sign
is read to the very end of the text, so a directive with such a level must not have any.
-/
set_option autoImplicit false

namespace AudioLink.Directive

/-- The names of the levels. -/
def levelNames : List (List Char) :=
  ["off".toList, "error".toList, "warn".toList, "info".toList, "debug".toList, "trace".toList]

/-- Whether a text is a number from zero to five; a plus sign and leading zeros are allowed. -/
def isLevelNumber (cs : List Char) : Bool :=
  let digits := match cs with
    | '+' :: rest => rest
    | _ => cs
  match Digits.decimal? digits with
  | some n => n ≤ 5
  | none => false

/-- Whether a text is a level. -/
def isLevel (cs : List Char) : Bool :=
  isLevelNumber cs || levelNames.contains (cs.map Char.toLower)

/-- Whether a target may begin with the character; any character above ASCII is taken for a
letter. -/
def startsTarget (c : Char) : Bool :=
  c.isAlphanum || c = '-' || c = ':' || c = '_' || 128 ≤ c.toNat

/-- Whether a text is what may follow an equals sign: nothing, or a level. `padded` says that the
directive has white space around it. -/
def isLevelOrEmpty (padded : Bool) (cs : List Char) : Bool := !padded && (cs = [] || isLevel cs)

/-- Whether a text is what may follow a span: nothing, or an equals sign and a level. -/
def isSpanTail (padded : Bool) : List Char → Bool
  | [] => true
  | '=' :: level => isLevelOrEmpty padded level
  | _ => false

/-- Whether a text, from behind an opening brace on, is a list of fields, the closing brace and
bracket, and what may follow. A field is not empty. -/
def isFieldsTail (padded : Bool) (field : List Char) : List Char → Bool
  | [] => false
  | '\x7d' :: ']' :: rest => field != [] && isSpanTail padded rest
  | '\x7d' :: _ => false
  | c :: rest => isFieldsTail padded (field ++ [c]) rest

/-- Whether a text, from behind an opening bracket on, is a span and what may follow. -/
def isSpan (padded : Bool) : List Char → Bool
  | [] => false
  | ']' :: rest => isSpanTail padded rest
  | '\x7b' :: rest => isFieldsTail padded [] rest
  | _ :: rest => isSpan padded rest

/-- Whether a text, from inside a target on, ends as a directive may. -/
def isTargetTail (padded : Bool) : List Char → Bool
  | [] => true
  | '=' :: level => isLevelOrEmpty padded level
  | '[' :: rest => isSpan padded rest
  | _ :: rest => isTargetTail padded rest

/-- Whether a text without white space around it is a directive. -/
def isTrimmedDirective (padded : Bool) : List Char → Bool
  | [] => false
  | '[' :: rest => isSpan padded rest
  | c :: rest => startsTarget c && isTargetTail padded rest

/-- Whether a character is white space. -/
def isBlank (c : Char) : Bool :=
  let n := c.toNat
  c = ' ' || (9 ≤ n && n ≤ 13) || (0x2000 ≤ n && n ≤ 0x200A)
    || [0x85, 0xA0, 0x1680, 0x2028, 0x2029, 0x202F, 0x205F, 0x3000].contains n

/-- A text without the white space at its ends. -/
def trim (cs : List Char) : List Char :=
  ((cs.dropWhile isBlank).reverse.dropWhile isBlank).reverse

/-- Whether a text is a directive. -/
def isDirective (cs : List Char) : Bool := isTrimmedDirective (trim cs != cs) (trim cs)

/-- Whether a text is a filter; empty directives are passed over. -/
def isFilter (cs : List Char) : Bool :=
  -- A directive of blanks alone is not empty, and is refused once it is trimmed.
  ((Segments.split ',' cs).filter (· ≠ [])).all isDirective

end AudioLink.Directive
