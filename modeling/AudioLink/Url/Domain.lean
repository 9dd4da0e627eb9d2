import AudioLink.Unicode.Direction
import AudioLink.Unicode.DomainMapping
import AudioLink.Unicode.Joining
import AudioLink.Unicode.Mark
import AudioLink.Unicode.NormalForm
import AudioLink.Url.Punycode

/-
Domain names with characters above ASCII.

A name is brought to the form that its characters have in names, composed, and cut into labels at
its dots. A label that is marked as Punycode is read back, and must be what it would have been
without the mark: Punycode is a way to write a label, not a way around the rules. Every label must
be one that a reader can make out. The name in ASCII is then written from the labels.
-/
set_option autoImplicit false

namespace AudioLink.Url.Domain

/-- The greatest length of a text behind the mark of Punycode. -/
def maxMarkedLength : Nat := 2000

/-- The label that a marked text stands for. Only characters that need no replacement can stand in
it, and they are composed already. -/
def ofMarked? (text : List Char) : Option (List Char) := do
  let label ← if text.length ≤ maxMarkedLength then Punycode.decode? text else none
  let isPlain := label.all fun c => DomainMapping.fate c == .kept
  if isPlain && NormalForm.isComposed label then some label else none

/-- A label with its characters themselves. -/
def read? (label : List Char) : Option (List Char) :=
  if Punycode.mark.isPrefixOf label then ofMarked? (label.drop Punycode.mark.length)
  else some label

/-- The greatest length of a label that holds a character above ASCII. -/
def maxLength : Nat := 1000

/-- Whether a label can be made out: it begins with no mark, and its joining characters have
something to join. -/
def isReadable (label : List Char) : Bool :=
  !Mark.isFirst label && Joining.isAllowed label
    && (label.all (fun c => c.toNat < 128) || label.length ≤ maxLength)

/-- The name in ASCII; `none` for a text that is no domain name. Which ASCII characters a name may
hold is not decided here. -/
def toAscii? (name : List Char) : Option (List Char) := do
  let text ← DomainMapping.settle? name
  let labels ← (Segments.split '.' (NormalForm.compose text)).mapM read?
  if labels.all isReadable && Direction.agree labels then
    some (Segments.join '.' (labels.map Punycode.labelText))
  else none

end AudioLink.Url.Domain
