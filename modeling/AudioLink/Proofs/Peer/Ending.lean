import AudioLink.Engine.Recorder
import AudioLink.Proofs.Peer.Operation

/-
How an operation of a peer ends.

It is refused for its first fault, and nothing has happened; or nothing is wrong with it and there is
nothing to ask; or the engine is asked one thing, which has been validated, and its answer decides. The
engine is arbitrary. If it keeps a record, an operation that has succeeded can be found there.
-/
set_option autoImplicit false

namespace AudioLink

/-! ## Outcomes -/

/-- Whether an operation worked, without what it yields. -/
def Outcome.bare {α : Type} (outcome : Outcome α) : Outcome Unit := outcome.map fun _ => ()

/-- What is made of the value does not matter for whether there is one. -/
theorem Outcome.bare_map {α β : Type} (f : α → β) (outcome : Outcome α) :
    (outcome.map f).bare = outcome.bare := by
  cases outcome <;> rfl

/-- An answer that is told as a success is one. -/
theorem Outcome.failure?_of_bare_eq_ok {α : Type} {call : EngineCall} {answer : Answer α}
    (hok : (ofAnswer call answer).bare = .ok ()) : answer.failure? = none := by
  cases answer with
  | ok a => rfl
  | error code =>
    rw [ofAnswer] at hok
    split at hok
    · cases hok
    · cases hok

/-! ## Three ways to end -/

namespace Peer

/-- What an operation can be refused for, in order. -/
def faults (p : Peer) : PeerOp → List (Option Error)
  | .configure slot i config => p.configureFaults slot i config
  | .bind slot i endpoint | .connect slot i endpoint => p.linkFaults slot i endpoint
  | .unlink slot => p.unlinkFaults slot
  | .readFrame length => p.frameFaults length
  | .writeFrame frame => p.frameFaults frame
  | .close => []

/-- What an operation asks of the engine if nothing is wrong with it, and if it asks anything. -/
def request? (p : Peer) : PeerOp → Option Request
  | .configure slot i config => p.handle.map fun h => .configure h slot i config
  | .bind slot i endpoint => p.handle.bind fun h => endpoint.map fun e => .bind h slot i e
  | .connect slot i endpoint => p.handle.bind fun h => endpoint.map fun e => .connect h slot i e
  | .unlink slot => p.handle.map fun h => .unlink h slot
  | .readFrame length => p.handle.bind fun h => (length.filter (· ≠ 0)).map fun n => .read h n
  | .writeFrame frame => p.handle.bind fun h => (frame.filter (· ≠ [])).map fun f => .write h f
  | .close => p.handle.map .peerClose

/-- How an operation of a peer on `x` ends that leaves `x'`, while the state of the engine goes from
`s` to `s'`. -/
inductive Ends {σ X : Type} (engine : Engine σ) (p : Peer) (op : PeerOp) (s s' : σ) (x : X)
    (outcome : Outcome Unit) (x' : X) : Prop where
  /-- It is refused for its first fault. -/
  | refused (e : Error) (hfirst : firstFault (p.faults op) = some e)
      (houtcome : outcome = .failed e) (hstate : s' = s) (hsame : x' = x)
  /-- Nothing is wrong, and there is nothing to ask. -/
  | idle (hnone : firstFault (p.faults op) = none) (hrequest : p.request? op = none)
      (houtcome : outcome = .ok ()) (hstate : s' = s) (hsame : x' = x)
  /-- The engine is asked once, and its answer decides. -/
  | asked (r : Request) (hnone : firstFault (p.faults op) = none)
      (hrequest : p.request? op = some r) (hvalid : r.Validated)
      (houtcome : outcome = (Outcome.ofAnswer r.call (engine r s).1).bare)
      (hstate : s' = (engine r s).2)

end Peer

/-- How an operation of a peer ends, without what it yields. -/
def PeerOp.outcome {σ : Type} (engine : Engine σ) (op : PeerOp) (p : Peer) (s : σ) : Outcome Unit :=
  match op with
  | configure slot i config => (p.configure engine slot i config s).1.bare
  | bind slot i endpoint => (p.bind engine slot i endpoint s).1.bare
  | connect slot i endpoint => (p.connect engine slot i endpoint s).1.bare
  | unlink slot => (p.unlink engine slot s).1.bare
  | readFrame length => (p.readFrame engine length s).1.bare
  | writeFrame frame => (p.writeFrame engine frame s).1.bare
  | close => (p.close engine s).1.bare

namespace Peer

variable {σ : Type} (engine : Engine σ) (p : Peer) (s : σ)

/-- Configuring ends by the first fault of its checks, or by the answer of the engine. -/
theorem ends_configure (slot : Slot) (i : Interface) (config : InterfaceConfig) :
    p.Ends engine (.configure slot i config) s (p.configure engine slot i config s).2.2 p
      (p.configure engine slot i config s).1.bare (p.configure engine slot i config s).2.1 := by
  rw [configure]
  rcases p.screens_admitConfigure slot i config with
    ⟨e, hfirst, hrefused⟩ | ⟨h, hnone, hadmitted, hopen, -, hvalid⟩
  · rw [hrefused]
    exact .refused e hfirst rfl rfl rfl
  · rw [hadmitted]
    refine .asked (.configure h slot i config) hnone ?_ hvalid rfl rfl
    rw [request?, hopen, Option.map_some]

/-- Binding ends by the first fault of its checks, or by the answer of the engine. -/
theorem ends_bind (slot : Slot) (i : Interface) (endpoint : Option Endpoint) :
    p.Ends engine (.bind slot i endpoint) s (p.bind engine slot i endpoint s).2.2 p
      (p.bind engine slot i endpoint s).1.bare (p.bind engine slot i endpoint s).2.1 := by
  rw [Peer.bind]
  rcases p.screens_admitLink slot i endpoint with
    ⟨e, hfirst, hrefused⟩ | ⟨⟨h, e⟩, hnone, hadmitted, hopen, -, hgiven, huri⟩
  · rw [hrefused]
    exact .refused e hfirst rfl rfl rfl
  · rw [hadmitted]
    dsimp only
    rw [Outcome.bare_map]
    refine .asked (.bind h slot i e) hnone ?_ huri rfl rfl
    rw [request?, hopen, hgiven, Option.bind_some, Option.map_some]

/-- Connecting ends by the first fault of its checks, or by the answer of the engine. -/
theorem ends_connect (slot : Slot) (i : Interface) (endpoint : Option Endpoint) :
    p.Ends engine (.connect slot i endpoint) s (p.connect engine slot i endpoint s).2.2 p
      (p.connect engine slot i endpoint s).1.bare (p.connect engine slot i endpoint s).2.1 := by
  rw [connect]
  rcases p.screens_admitLink slot i endpoint with
    ⟨e, hfirst, hrefused⟩ | ⟨⟨h, e⟩, hnone, hadmitted, hopen, -, hgiven, huri⟩
  · rw [hrefused]
    exact .refused e hfirst rfl rfl rfl
  · rw [hadmitted]
    refine .asked (.connect h slot i e) hnone ?_ huri rfl rfl
    rw [request?, hopen, hgiven, Option.bind_some, Option.map_some]

/-- Unlinking ends by the first fault of its checks, or by the answer of the engine. -/
theorem ends_unlink (slot : Slot) :
    p.Ends engine (.unlink slot) s (p.unlink engine slot s).2.2 p
      (p.unlink engine slot s).1.bare (p.unlink engine slot s).2.1 := by
  rw [unlink]
  rcases p.screens_admitUnlink slot with
    ⟨e, hfirst, hrefused⟩ | ⟨h, hnone, hadmitted, hopen, -⟩
  · rw [hrefused]
    exact .refused e hfirst rfl rfl rfl
  · rw [hadmitted]
    have hrequest : p.request? (.unlink slot) = some (.unlink h slot) := by
      rw [request?, hopen, Option.map_some]
    -- The outcome decides what becomes of the peer, and of nothing else.
    refine .asked (.unlink h slot) hnone hrequest trivial ?_ ?_
    · dsimp only [Request.call]
      cases Outcome.ofAnswer .peerUnlink (engine (.unlink h slot) s).1 <;> rfl
    · dsimp only
      cases Outcome.ofAnswer .peerUnlink (engine (.unlink h slot) s).1 <;> rfl

/-- Reading ends by the first fault of its checks, at once if nothing is wanted, or by the answer of
the engine. -/
theorem ends_readFrame (length : Option Nat) :
    p.Ends engine (.readFrame length) s (p.readFrame engine length s).2 p
      (p.readFrame engine length s).1.bare p := by
  rw [readFrame]
  rcases p.screens_admitFrame length with
    ⟨e, hfirst, hrefused⟩ | ⟨⟨h, n⟩, hnone, hadmitted, hopen, hgiven⟩
  · rw [hrefused]
    exact .refused e hfirst rfl rfl rfl
  · rw [hadmitted]
    have hrequest : p.request? (.readFrame length) =
        if n = 0 then none else some (.read h n) := by
      rw [request?, hopen, hgiven, Option.bind_some, Option.filter_some]
      by_cases hn : n = 0 <;> simp [hn]
    dsimp only
    by_cases hn : n = 0
    · rw [if_pos hn] at hrequest ⊢
      exact .idle hnone hrequest rfl rfl rfl
    · rw [if_neg hn] at hrequest ⊢
      exact .asked (.read h n) hnone hrequest hn rfl rfl

/-- Writing ends as reading does. -/
theorem ends_writeFrame (frame : Option Frame) :
    p.Ends engine (.writeFrame frame) s (p.writeFrame engine frame s).2 p
      (p.writeFrame engine frame s).1.bare p := by
  rw [writeFrame]
  rcases p.screens_admitFrame frame with
    ⟨e, hfirst, hrefused⟩ | ⟨⟨h, f⟩, hnone, hadmitted, hopen, hgiven⟩
  · rw [hrefused]
    exact .refused e hfirst rfl rfl rfl
  · rw [hadmitted]
    have hrequest : p.request? (.writeFrame frame) =
        if f = [] then none else some (.write h f) := by
      rw [request?, hopen, hgiven, Option.bind_some, Option.filter_some]
      by_cases hf : f = [] <;> simp [hf]
    dsimp only
    by_cases hf : f = []
    · rw [if_pos hf] at hrequest ⊢
      exact .idle hnone hrequest rfl rfl rfl
    · rw [if_neg hf] at hrequest ⊢
      exact .asked (.write h f) hnone hrequest hf rfl rfl

/-- Closing has no faults. -/
theorem ends_close :
    p.Ends engine .close s (p.close engine s).2.2 p (p.close engine s).1.bare
      (p.close engine s).2.1 := by
  rw [close]
  cases hopen : p.handle with
  | none =>
    refine .idle rfl ?_ rfl rfl rfl
    rw [request?, hopen, Option.map_none]
  | some h =>
    have hrequest : p.request? .close = some (.peerClose h) := by
      rw [request?, hopen, Option.map_some]
    refine .asked (.peerClose h) rfl hrequest trivial ?_ ?_
    · dsimp only [Request.call]
      cases Outcome.ofAnswer .peerClose (engine (.peerClose h) s).1 <;> rfl
    · dsimp only
      cases Outcome.ofAnswer .peerClose (engine (.peerClose h) s).1 <;> rfl

end Peer

/-- An operation ends with its first fault, or without a call, or as the engine says. -/
theorem PeerOp.ends_run {σ : Type} (engine : Engine σ) (op : PeerOp) (p : Peer) (s : σ) :
    p.Ends engine op s (op.run engine p s).2 p (op.outcome engine p s) (op.run engine p s).1 := by
  cases op with
  | configure slot i config => exact p.ends_configure engine s slot i config
  | bind slot i endpoint => exact p.ends_bind engine s slot i endpoint
  | connect slot i endpoint => exact p.ends_connect engine s slot i endpoint
  | unlink slot => exact p.ends_unlink engine s slot
  | readFrame length => exact p.ends_readFrame engine s length
  | writeFrame frame => exact p.ends_writeFrame engine s frame
  | close => exact p.ends_close engine s

/-- What an operation does to a peer may be seen in a larger thing. -/
theorem Peer.Ends.within {σ X Y : Type} {engine : Engine σ} {p : Peer} {op : PeerOp} {s s' : σ}
    {x x' : X} {y y' : Y} {outcome : Outcome Unit} (hends : p.Ends engine op s s' x outcome x')
    (hsame : s' = s → x' = x → y' = y) : p.Ends engine op s s' y outcome y' := by
  cases hends with
  | refused e hfirst houtcome hstate hx =>
    exact .refused e hfirst houtcome hstate (hsame hstate hx)
  | idle hnone hrequest houtcome hstate hx =>
    exact .idle hnone hrequest houtcome hstate (hsame hstate hx)
  | asked r hnone hrequest hvalid houtcome hstate =>
    exact .asked r hnone hrequest hvalid houtcome hstate

/-- On the record of the engine, an operation that succeeds has left its request as done, and nothing
else. A closed peer makes none, and for an empty frame there is none. -/
theorem Peer.Ends.calls_of_ok {σ X : Type} {engine : Engine σ} {p : Peer} {op : PeerOp}
    {s s' : Recorded σ} {x x' : X} {outcome : Outcome Unit}
    (hends : p.Ends engine.recorded op s s' x outcome x') (hok : outcome = .ok ()) :
    s'.calls = s.calls ++ (p.request? op).toList.map (⟨·, none⟩) := by
  cases hends with
  | refused e _ houtcome _ _ => exact absurd (houtcome.symm.trans hok) nofun
  | idle _ hrequest _ hstate _ =>
    rw [hstate, hrequest]
    exact (List.append_nil _).symm
  | asked r _ hrequest _ houtcome hstate =>
    have hdone := Outcome.failure?_of_bare_eq_ok (houtcome.symm.trans hok)
    have hcalls : s'.calls = s.calls ++ [⟨r, (engine.recorded r s).1.failure?⟩] := by
      rw [hstate]
      rfl
    rw [hcalls, hdone, hrequest]
    rfl

end AudioLink
