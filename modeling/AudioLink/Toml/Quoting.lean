import AudioLink.Text.Digits

/-
Strings of TOML: basic and literal ones, on one line or on several.

A reader is given the text behind the opening quotes and answers the string and the text behind the
closing quotes. Several lines may end with a carriage return and a line feed or with a line feed
alone; either stands for a line feed. A string is written in a form that every reader of the format
takes: between double quotes as it is, or between single quotes if that saves escapes, or between
double quotes with escapes.
-/
set_option autoImplicit false

namespace AudioLink.Toml

/-- A blank inside a line. -/
def isBlank (c : Char) : Bool := c = ' ' || c = '\t'

/-- Whether a character may stand in a string or a comment as it is: a tab, or no control. -/
def isPlain (c : Char) : Bool := c = '\t' || (32 ≤ c.toNat && c.toNat ≠ 127)

/-- A text without the blanks at its front. -/
def skipBlanks (cs : List Char) : List Char := cs.dropWhile isBlank

/-- The text behind the end of a line, if it begins with one. -/
def lineEnd? : List Char → Option (List Char)
  | '\n' :: rest => some rest
  | '\r' :: '\n' :: rest => some rest
  | _ => none

/-! ## Reading -/

/-- The character that a one-letter escape stands for. -/
def escape? : Char → Option Char
  | 'b' => some '\x08'
  | 't' => some '\t'
  | 'n' => some '\n'
  | 'f' => some '\x0c'
  | 'r' => some '\r'
  | '"' => some '"'
  | '\\' => some '\\'
  | _ => none

/-- The character with the number that hexadecimal digits give. -/
def scalar? (digits : List Char) : Option Char := do
  let n ← Digits.inRadix? 16 digits
  if h : n.isValidChar then some (Char.ofNatAux n h) else none

/-- Puts a character in front of what was read. -/
def consChar (c : Char) (read : Option (List Char × List Char)) : Option (List Char × List Char) :=
  read.map fun (s, rest) => (c :: s, rest)

/-- Reads a basic string on one line, from behind its opening quote on. -/
def basic? : List Char → Option (List Char × List Char)
  | [] => none
  | '"' :: rest => some ([], rest)
  | '\\' :: 'u' :: a :: b :: c :: d :: rest => do
    let x ← scalar? [a, b, c, d]
    consChar x (basic? rest)
  | '\\' :: 'U' :: a :: b :: c :: d :: e :: f :: g :: h :: rest => do
    let x ← scalar? [a, b, c, d, e, f, g, h]
    consChar x (basic? rest)
  | '\\' :: e :: rest => do
    let x ← escape? e
    consChar x (basic? rest)
  | c :: rest => if isPlain c ∧ c ≠ '\\' then consChar c (basic? rest) else none

/-- Reads a literal string on one line, from behind its opening quote on. -/
def literal? : List Char → Option (List Char × List Char)
  | [] => none
  | '\'' :: rest => some ([], rest)
  | c :: rest => if isPlain c then consChar c (literal? rest) else none

/-- Whether nothing but blanks stands before the end of the line. -/
def isLineRest (cs : List Char) : Bool := (lineEnd? (skipBlanks cs)).isSome

/-- Reads a basic string on several lines. `joining` says that a backslash has ended a line, and
that blanks and line ends are left out until something else comes. -/
def lines? (joining : Bool) : List Char → Option (List Char × List Char)
  | [] => none
  | '"' :: '"' :: '"' :: '"' :: '"' :: rest => some (['"', '"'], rest)
  | '"' :: '"' :: '"' :: '"' :: rest => some (['"'], rest)
  | '"' :: '"' :: '"' :: rest => some ([], rest)
  | '"' :: rest => consChar '"' (lines? false rest)
  | '\n' :: rest => if joining then lines? true rest else consChar '\n' (lines? false rest)
  | '\r' :: '\n' :: rest =>
    if joining then lines? true rest else consChar '\n' (lines? false rest)
  | '\\' :: 'u' :: a :: b :: c :: d :: rest => do
    let x ← scalar? [a, b, c, d]
    consChar x (lines? false rest)
  | '\\' :: 'U' :: a :: b :: c :: d :: e :: f :: g :: h :: rest => do
    let x ← scalar? [a, b, c, d, e, f, g, h]
    consChar x (lines? false rest)
  -- A backslash ends a line only if nothing but blanks stands behind it.
  | '\\' :: e :: rest =>
    if isLineRest (e :: rest) then lines? true (e :: rest)
    else do
      let x ← escape? e
      consChar x (lines? false rest)
  | c :: rest =>
    if joining ∧ isBlank c then lines? true rest
    else if isPlain c ∧ c ≠ '\\' then consChar c (lines? false rest)
    else none

/-- Reads a literal string on several lines. -/
def literalLines? : List Char → Option (List Char × List Char)
  | [] => none
  | '\'' :: '\'' :: '\'' :: '\'' :: '\'' :: rest => some (['\'', '\''], rest)
  | '\'' :: '\'' :: '\'' :: '\'' :: rest => some (['\''], rest)
  | '\'' :: '\'' :: '\'' :: rest => some ([], rest)
  | '\n' :: rest => consChar '\n' (literalLines? rest)
  | '\r' :: '\n' :: rest => consChar '\n' (literalLines? rest)
  | c :: rest => if isPlain c then consChar c (literalLines? rest) else none

/-- A text without the end of a line at its front, where there is one. -/
def skipLineEnd (cs : List Char) : List Char := (lineEnd? cs).getD cs

/-- Reads a string of one line, if the text begins with a quote. -/
def shortString? : List Char → Option (List Char × List Char)
  | '"' :: rest => basic? rest
  | '\'' :: rest => literal? rest
  | _ => none

/-- Reads a string of any form, if the text begins with a quote. The end of a line right behind
three quotes is left out. -/
def string? : List Char → Option (List Char × List Char)
  | '"' :: '"' :: '"' :: rest => lines? false (skipLineEnd rest)
  | '\'' :: '\'' :: '\'' :: rest => literalLines? (skipLineEnd rest)
  | cs => shortString? cs

/-! ## Writing -/

/-- The escaped form of a character inside double quotes. -/
def escape (c : Char) : List Char :=
  if c = '"' then ['\\', '"']
  else if c = '\\' then ['\\', '\\']
  else if isPlain c then [c]
  else
    let n := c.toNat
    ['\\', 'u', '0', '0', Digits.upperHexDigit (n / 16), Digits.upperHexDigit n]

/-- Whether a text needs no escapes inside double quotes. -/
def isPlainText (cs : List Char) : Bool := cs.all fun c => isPlain c && c ≠ '"' && c ≠ '\\'

/-- Whether a text can stand between single quotes. -/
def isLiteralText (cs : List Char) : Bool := cs.all fun c => isPlain c && c ≠ '\''

/-- The written form of a string. -/
def quote (cs : List Char) : List Char :=
  if isPlainText cs then '"' :: cs ++ ['"']
  else if isLiteralText cs then '\'' :: cs ++ ['\'']
  else '"' :: cs.flatMap escape ++ ['"']

end AudioLink.Toml
