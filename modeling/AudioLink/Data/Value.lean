/-
Values of structured data, as a text of any format is read into them.

The formats that configurations come in have texts, numbers, lists and tables in common. Of a real
number and of a moment in time only the kind is kept, because no configuration takes one.
-/
set_option autoImplicit false

namespace AudioLink

/-- A value of structured data. -/
inductive Value where
  | null
  | bool (b : Bool)
  /-- A whole number. -/
  | int (n : Int)
  /-- A number that is written with a fraction or an exponent. -/
  | real
  | text (s : String)
  /-- A date, a time, or both. -/
  | moment
  | list (items : List Value)
  /-- Named values; each name stands once. -/
  | table (fields : List (String × Value))
  deriving Inhabited

namespace Value

/-- Whether the value is a table. -/
def isTable : Value → Bool
  | table _ => true
  | _ => false

/-- The value of a name in a list of named values. -/
def lookup (name : String) (fields : List (String × Value)) : Option Value :=
  (fields.find? (·.1 = name)).map (·.2)

end Value
end AudioLink
