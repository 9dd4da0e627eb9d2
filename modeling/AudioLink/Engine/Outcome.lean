import AudioLink.Engine.Basic
import AudioLink.Error

/-
Outcomes of operations of the session layer.

An operation succeeds, fails with an error, or finds that the engine has broken its contract: a
failure code that is not negative says that the handles of the engine cannot be trusted any more.
A breach is no error that a caller handles; the operation is abandoned where it stands.
-/
set_option autoImplicit false

namespace AudioLink

/-- How an operation of the session layer ends. -/
inductive Outcome (α : Type) where
  | ok (a : α)
  | failed (e : Error)
  /-- The engine answered a call with a failure code that is none. -/
  | breach (call : EngineCall) (code : EngineCode)
  deriving DecidableEq, Repr

namespace Outcome

variable {α β : Type}

/-- The outcome of a call: a negative code is a refusal, any other failure code is a breach. -/
def ofAnswer (call : EngineCall) : Answer α → Outcome α
  | .ok a => ok a
  | .error code => if code.isNegative then failed (.engine call code) else breach call code

/-- Changes the value of a success. -/
def map (f : α → β) : Outcome α → Outcome β
  | ok a => ok (f a)
  | failed e => failed e
  | breach call code => breach call code

/-- The value of a success. -/
def value? : Outcome α → Option α
  | ok a => some a
  | _ => none

end Outcome

/-- What is shown when an engine breaks its contract. -/
def breachMessage (call : EngineCall) (code : EngineCode) : String :=
  call.name ++ " returned code " ++ toString code.code.toInt
    ++ ", which is outside of the engine contract"

end AudioLink
