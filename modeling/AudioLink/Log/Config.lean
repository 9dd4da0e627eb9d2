import AudioLink.Data.Form
import AudioLink.Error
import AudioLink.Log.Directive
import AudioLink.Text.Quoted

/-
Configuration of the log: a level, or a filter that overrides it.
-/
set_option autoImplicit false

namespace AudioLink

/-- How much is logged. -/
inductive LogLevel where
  | none
  | error
  /-- What a user may want to know. -/
  | info
  /-- What helps to find a fault. -/
  | debug
  /-- Everything, each frame included. -/
  | trace
  deriving DecidableEq, Repr

instance : Inhabited LogLevel := ⟨.error⟩

instance : Labelled LogLevel where
  all := [.none, .error, .info, .debug, .trace]
  label
    | .none => "none"
    | .error => "error"
    | .info => "info"
    | .debug => "debug"
    | .trace => "trace"
  find?_label a := by cases a <;> decide

namespace LogLevel

/-- The place of a level among the others; a later one logs more. -/
def rank : LogLevel → Nat
  | none => 0
  | error => 1
  | info => 2
  | debug => 3
  | trace => 4

/-- The levels that log less, the quietest first. -/
def below (level : LogLevel) : List LogLevel :=
  Labelled.all.filter fun other => other.rank < level.rank

/-- The level as a filter names it. -/
def filterName : LogLevel → String
  | none => "off"
  | error => "error"
  | info => "info"
  | debug => "debug"
  | trace => "trace"

end LogLevel

/-- Configuration of the log. -/
structure LogConfig where
  /-- How much is logged. -/
  level : LogLevel := .error
  /-- Directives that override the level. -/
  filter : Option String := none
  /-- Whether output is coloured. -/
  ansi : Bool := false
  deriving DecidableEq, Repr, Inhabited

namespace LogConfig

/-- A configuration of a level and nothing else. -/
def withLevel (level : LogLevel) : LogConfig := { level }

/-- Checks that the filter, if there is one, can be used. -/
def checkFilter (c : LogConfig) : Except Error Unit :=
  match c.filter with
  | some filter =>
    if Directive.isFilter filter.toList then .ok ()
    else .error (.config ("invalid log filter " ++ Quoted.text filter))
  | none => .ok ()

/-- Sets up the log of the whole program, which can be done once. -/
def install (c : LogConfig) (installed : Bool) : Except Error Unit :=
  -- A filter that cannot be used is found even if the log is set up already.
  match c.checkFilter with
  | .error e => .error e
  | .ok () => if installed then .error (.config "logging already initialized") else .ok ()

instance : Form LogConfig where
  read? d v := do
    let given ← Form.given? d ["level", "filter", "ansi"] v
    let level ← Form.field? d given "level" .error
    let filter ← Form.field? d given "filter" none
    let ansi ← Form.field? d given "ansi" false
    return { level, filter, ansi }
  write c := .table <|
    Form.entry "level" c.level
      :: Form.entryIfSome "filter" c.filter
      ++ [Form.entry "ansi" c.ansi]

end LogConfig
end AudioLink
