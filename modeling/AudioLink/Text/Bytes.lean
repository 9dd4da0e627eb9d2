import AudioLink.Text.Digits

/-
Byte strings and their hexadecimal text, two digits a byte.

A byte string is a list of `UInt8`. Writing uses lower-case digits and reading takes both cases, so
reading what was written gives the bytes back.
-/
set_option autoImplicit false

namespace AudioLink

/-- A string of bytes, such as a datagram or the contents of a file. -/
abbrev Bytes := List UInt8

namespace Bytes

/-- Two lower-case hexadecimal digits for each byte. -/
def toHex (bytes : Bytes) : List Char :=
  bytes.flatMap fun b => [Digits.hexDigit (b.toNat / 16), Digits.hexDigit b.toNat]

/-- Reads two hexadecimal digits, of either case, for each byte. -/
def ofHex? : List Char → Option Bytes
  | [] => some []
  | high :: low :: rest => do
    let h ← Digits.hexValue? high
    let l ← Digits.hexValue? low
    let tail ← ofHex? rest
    some (UInt8.ofNat (h * 16 + l) :: tail)
  | [_] => none

/-- The UTF-8 bytes of a text. -/
def ofText (text : String) : Bytes := text.toUTF8.toList

/-- The text of which `bytes` are the UTF-8 form, if there is one. -/
def toText? (bytes : Bytes) : Option String := String.fromUTF8? ⟨bytes.toArray⟩

end Bytes
end AudioLink
