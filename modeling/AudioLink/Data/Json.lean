import AudioLink.Data.Value
import AudioLink.Text.Digits

/-
Structured data as JSON.

A number counts as a whole one if it is written with digits alone and has at most 64 bits; any other
number is real. Of two values that an object gives for a name the later one counts. Lists and objects
nest at most `maxNesting` deep, which is what the reader recurses on.
-/
set_option autoImplicit false

namespace AudioLink.Json

/-- Most levels of lists and objects. -/
def maxNesting : Nat := 127

/-! ## Reading -/

/-- Whether a character may stand between two parts of a text. -/
def isBlank (c : Char) : Bool := c = ' ' || c = '\t' || c = '\n' || c = '\r'

/-- A text without the blanks at its front. -/
def skip (cs : List Char) : List Char := cs.dropWhile isBlank

/-- The character of two halves of a code unit pair. -/
def joinHalves? (high low : Nat) : Option Char :=
  if 0xD800 ≤ high ∧ high < 0xDC00 ∧ 0xDC00 ≤ low ∧ low < 0xE000 then
    some (Char.ofNat (0x10000 + (high - 0xD800) * 0x400 + (low - 0xDC00)))
  else none

/-- The character that a one-letter escape stands for. -/
def escape? : Char → Option Char
  | 'b' => some '\x08'
  | 'f' => some '\x0c'
  | 'n' => some '\n'
  | 'r' => some '\r'
  | 't' => some '\t'
  | '"' => some '"'
  | '\\' => some '\\'
  | '/' => some '/'
  | _ => none

/-- Puts a character in front of what was read. -/
def cons (c : Char) (read : Option (List Char × List Char)) : Option (List Char × List Char) :=
  read.map fun (s, rest) => (c :: s, rest)

/-- Reads a string, from behind its opening quote on. A character may be escaped by its number, or
by the two halves of its code unit pair. -/
def string? : List Char → Option (List Char × List Char)
  | [] => none
  | '"' :: rest => some ([], rest)
  | '\\' :: 'u' :: a :: b :: c :: d :: rest => do
    let n ← Digits.inRadix? 16 [a, b, c, d]
    if n.isValidChar then cons (Char.ofNat n) (string? rest)
    -- Four digits that are no character are a half, and the other half must follow.
    else
      match rest with
      | '\\' :: 'u' :: e :: f :: g :: h :: rest => do
        let m ← Digits.inRadix? 16 [e, f, g, h]
        let x ← joinHalves? n m
        cons x (string? rest)
      | _ => none
  | '\\' :: e :: rest => do
    let x ← escape? e
    cons x (string? rest)
  | c :: rest => if c = '\\' ∨ c.toNat < 32 then none else cons c (string? rest)

/-- Whether a character may stand in a number. -/
def isNumberChar (c : Char) : Bool :=
  c.isDigit || c = '-' || c = '+' || c = '.' || c = 'e' || c = 'E'

/-- The whole number of a text. A minus sign stands in front of a number that is not zero. -/
def int? : List Char → Option Int
  -- No whole number is "-0", which is left to the reals.
  | '-' :: digits =>
    (Digits.decimal? digits).bind fun n =>
      if n = 0 ∨ -(n : Int) < Int64.minValue.toInt then none else some (-(n : Int))
  | digits =>
    (Digits.decimal? digits).bind fun n => if UInt64.size ≤ n then none else some (n : Int)

/-- Reads a number. -/
def number? (cs : List Char) : Option (Value × List Char) :=
  let token := cs.takeWhile isNumberChar
  if token = [] then none else some ((int? token).elim .real .int, cs.dropWhile isNumberChar)

/-- A reader of a value. -/
abbrev Reader := List Char → Option (Value × List Char)

/-- Reads the items of a list, from the first one on. `fuel` bounds their number. -/
def items? (value? : Reader) : Nat → List Char → Option (List Value × List Char)
  | 0, _ => none
  | fuel + 1, cs => do
    let (v, rest) ← value? cs
    match skip rest with
    | ',' :: rest =>
      let (vs, rest) ← items? value? fuel rest
      some (v :: vs, rest)
    | ']' :: rest => some ([v], rest)
    | _ => none

/-- Gives a name its value: in its place if it has one, and behind the others if it is new. -/
def setField (name : String) (v : Value) : List (String × Value) → List (String × Value)
  | [] => [(name, v)]
  | x :: rest => if x.1 = name then (name, v) :: rest else x :: setField name v rest

/-- Reads the fields of an object and adds them to those that are there already. -/
def fields? (value? : Reader) :
    Nat → List (String × Value) → List Char → Option (List (String × Value) × List Char)
  | 0, _, _ => none
  | fuel + 1, fields, cs => do
    match skip cs with
    | '"' :: rest =>
      let (name, rest) ← string? rest
      match skip rest with
      | ':' :: rest =>
        let (v, rest) ← value? rest
        let fields := setField (String.ofList name) v fields
        match skip rest with
        | ',' :: rest => fields? value? fuel fields rest
        | '\x7d' :: rest => some (fields, rest)
        | _ => none
      | _ => none
    | _ => none

/-- Reads a value, with what is inside a list or an object read by `inner?`; if there is no such
reader, lists and objects are refused. -/
def valueWith? (inner? : Option Reader) (cs : List Char) : Option (Value × List Char) :=
  match skip cs with
  | '"' :: rest => (string? rest).map fun (s, rest) => (.text (String.ofList s), rest)
  | '\x7b' :: rest => do
    let value? ← inner?
    match skip rest with
    | '\x7d' :: rest => some (.table [], rest)
    | rest => (fields? value? (rest.length + 1) [] rest).map fun (fs, rest) => (.table fs, rest)
  | '[' :: rest => do
    let value? ← inner?
    match skip rest with
    | ']' :: rest => some (.list [], rest)
    | rest => (items? value? (rest.length + 1) rest).map fun (vs, rest) => (.list vs, rest)
  | 't' :: 'r' :: 'u' :: 'e' :: rest => some (.bool true, rest)
  | 'f' :: 'a' :: 'l' :: 's' :: 'e' :: rest => some (.bool false, rest)
  | 'n' :: 'u' :: 'l' :: 'l' :: rest => some (.null, rest)
  | rest => number? rest

/-- Reads a value in which lists and objects nest at most so many levels deep. -/
def value? : Nat → Reader
  | 0 => valueWith? none
  | depth + 1 => valueWith? (some (value? depth))

/-- Reads a text as one value. -/
def parse? (text : String) : Option Value :=
  match value? maxNesting text.toList with
  | some (v, rest) => if skip rest = [] then some v else none
  | none => none

/-! ## Writing -/

/-- The written form of a character inside quotes. -/
def escape (c : Char) : List Char :=
  if c = '"' then ['\\', '"']
  else if c = '\\' then ['\\', '\\']
  else if c.toNat < 32 then
    ['\\', 'u', '0', '0', Digits.hexDigit (c.toNat / 16), Digits.hexDigit c.toNat]
  else [c]

/-- A text between quotes. -/
def quote (s : String) : String := String.ofList ('"' :: s.toList.flatMap escape ++ ['"'])

mutual

/-- The written form of a value; what JSON does not have is written as `null`. -/
def write : Value → String
  | .null | .real | .moment => "null"
  | .bool b => if b then "true" else "false"
  | .int n => String.ofList (Digits.signed n)
  | .text s => quote s
  | .list vs => "[" ++ ",".intercalate (writeItems vs) ++ "]"
  | .table fs => "\x7b" ++ ",".intercalate (writeFields fs) ++ "\x7d"

/-- The written forms of the items of a list. -/
def writeItems : List Value → List String
  | [] => []
  | v :: vs => write v :: writeItems vs

/-- The written forms of the fields of an object. -/
def writeFields : List (String × Value) → List String
  | [] => []
  | (name, v) :: fs => (quote name ++ ":" ++ write v) :: writeFields fs

end

end AudioLink.Json
