import AudioLink.Text.Digits
import AudioLink.Text.Unprintable

/-
Quoted texts: how a text is shown inside a message, between double quotes and with every character
that would be invisible or would end the quotes written as an escape.

A single quote stands as it is. A character of `Unprintable` is written by its number in braces.
-/
set_option autoImplicit false

namespace AudioLink.Quoted

/-- The escaped form of one character inside double quotes. -/
def escape (c : Char) : List Char :=
  if c = '\x00' then ['\\', '0']
  else if c = '\t' then ['\\', 't']
  else if c = '\r' then ['\\', 'r']
  else if c = '\n' then ['\\', 'n']
  else if c = '\\' then ['\\', '\\']
  else if c = '"' then ['\\', '"']
  else if Unprintable.contains c then
    ['\\', 'u', '\x7b'] ++ Digits.hex c.toNat ++ ['\x7d']
  else [c]

/-- A text between double quotes. -/
def quote (cs : List Char) : List Char := '"' :: cs.flatMap escape ++ ['"']

/-- A text between double quotes, as a string. -/
def text (s : String) : String := String.ofList (quote s.toList)

end AudioLink.Quoted
