import AudioLink.Engine.Basic

/-
Engines that keep a record, and engines that follow a script.

A recorder passes every request on and notes it together with how it went. A script answers chosen
requests in place of the engine behind it: each action is used up by the next request of its kind,
and requests without an action are passed on.
-/
set_option autoImplicit false

namespace AudioLink

/-! ## Records -/

/-- A request that was made, and the failure code if it failed. -/
structure Call where
  request : Request
  /-- The failure code of the answer. -/
  failure : Option EngineCode
  deriving DecidableEq

/-- The state of an engine together with the calls made to it, the oldest first. -/
structure Recorded (σ : Type) where
  inner : σ
  calls : List Call := []

/-- An engine that notes every call. -/
def Engine.recorded {σ : Type} (engine : Engine σ) : Engine (Recorded σ) := fun r s =>
  let (answer, inner) := engine r s.inner
  (answer, { inner, calls := s.calls ++ [⟨r, answer.failure?⟩] })

/-! ## Scripts -/

/-- An answer that is given in place of an engine. -/
inductive Scripted where
  /-- The request fails. -/
  | fail (code : EngineCode)
  /-- A binding works, and yields a fixed endpoint with this port. -/
  | bound (port : Int32)
  deriving DecidableEq, Repr

namespace Scripted

/-- The endpoint of a scripted binding. -/
def endpoint (port : Int32) : Endpoint := { protocol := some .rtcp, host := "scripted", port }

/-- The scripted answer to a request. -/
def answer? : Scripted → (r : Request) → Option (Answer r.Response)
  | fail code, _ => some (.error code)
  | bound port, .bind _ _ _ _ => some (.ok (endpoint port))
  | bound _, _ => none

end Scripted

/-- The state of an engine together with the script in front of it. -/
structure Staged (σ : Type) where
  inner : σ
  /-- Actions with the calls that they are for, the oldest first. -/
  script : List (EngineCall × Scripted) := []

/-- An engine behind a script. -/
def Engine.staged {σ : Type} (engine : Engine σ) : Engine (Staged σ) := fun r s =>
  -- Only the first action for a call counts; one that cannot answer it stays in front.
  match (s.script.find? fun x => x.1 = r.call).bind fun x => x.2.answer? r with
  | some answer => (answer, { s with script := s.script.eraseP fun x => x.1 = r.call })
  | none =>
    let (answer, inner) := engine r s.inner
    (answer, { s with inner })

end AudioLink
