import AudioLink.Engine.Recorder
import AudioLink.Proofs.Peer.Ending
import AudioLink.Proofs.Session.Operation
import AudioLink.Proofs.Table

/-
What is left of an operation that fails.

A program notices of an operation how it ends, what becomes of the endpoint that it passed, and the
session afterwards; an `Attempt` is these three. There are four ways to end. It works; it stops
before an engine is asked; the engine refuses, with a negative code; or the engine answers with a
code that is none, and the operation is given up where it stands. The calls are seen through a
recorder, so that "without asking the engine" is a statement about the record and not about the
code.

Nothing is assumed of the engines or of the session. A session need not even be reachable.
-/
set_option autoImplicit false

namespace AudioLink

/-! ## Four ways to end -/

/-- A negative code is told as the failure it is. -/
theorem Outcome.ofAnswer_of_isNegative {α : Type} (call : EngineCall) {code : EngineCode}
    (hcode : code.isNegative = true) :
    (ofAnswer call (.error code) : Outcome α) = .failed (.engine call code) :=
  if_pos hcode

/-- A code that is not negative breaks the contract of the engine. -/
theorem Outcome.ofAnswer_of_not_isNegative {α : Type} (call : EngineCall) {code : EngineCode}
    (hcode : code.isNegative = false) :
    (ofAnswer call (.error code) : Outcome α) = .breach call code :=
  if_neg (Bool.eq_false_iff.mp hcode)

/-- How an operation on `x` ends that leaves `x'`, while the state of a recorded engine goes from
`s` to `s'`. What a refusal may leave is a parameter. -/
inductive Concludes {X σ : Type} (s s' : Recorded σ) (spoiled : X → Prop) (x : X)
    (outcome : Outcome Unit) (x' : X) : Prop where
  | worked (calls : List Call) (hcalls : s'.calls = s.calls ++ calls)
      (hok : ∀ c ∈ calls, c.failure = none) (houtcome : outcome = .ok ())
  /-- It fails without asking the engine. -/
  | stopped (e : Error) (hstate : s' = s) (houtcome : outcome = .failed e) (hsame : x' = x)
  /-- The engine fails with a negative code. -/
  | refused (r : Request) (code : EngineCode) (e : Error)
      (hcalls : s'.calls = s.calls ++ [⟨r, some code⟩]) (hcode : code.isNegative = true)
      (houtcome : outcome = .failed e) (hspoiled : spoiled x')
  /-- The engine fails with any other code. -/
  | breached (r : Request) (code : EngineCode) (hcalls : s'.calls = s.calls ++ [⟨r, some code⟩])
      (hcode : code.isNegative = false) (houtcome : outcome = .breach r.call code)
      (hsame : x' = x)

namespace Concludes

variable {X Y σ : Type} {s s' : Recorded σ} {spoiled : X → Prop} {x x' : X}
  {outcome : Outcome Unit}

/-- Without a call, an operation works or stops. -/
theorem of_still (houtcome : outcome = .ok () ∨ ∃ e, outcome = .failed e) :
    Concludes s s spoiled x outcome x := by
  rcases houtcome with hok | ⟨e, he⟩
  · exact .worked [] (List.append_nil _).symm (fun c hc => absurd hc List.not_mem_nil) hok
  · exact .stopped e rfl he rfl

/-- With one call, an operation ends as the answer says. -/
theorem of_answer {α : Type} {r : Request} (answer : Answer α)
    (hcalls : s'.calls = s.calls ++ [⟨r, answer.failure?⟩])
    (hok : ∀ a, answer = .ok a → outcome = .ok ())
    (hrefused : ∀ code, answer = .error code → code.isNegative = true →
      (∃ e, outcome = .failed e) ∧ spoiled x')
    (hbreached : ∀ code, answer = .error code → code.isNegative = false →
      outcome = .breach r.call code ∧ x' = x) :
    Concludes s s' spoiled x outcome x' := by
  cases answer with
  | ok a =>
    refine .worked _ hcalls (fun c hc => ?_) (hok a rfl)
    rw [List.mem_singleton.mp hc]
    rfl
  | error code =>
    cases hcode : code.isNegative with
    | true =>
      obtain ⟨⟨e, he⟩, hspoiled⟩ := hrefused code rfl hcode
      exact .refused r code e hcalls hcode he hspoiled
    | false =>
      obtain ⟨houtcome, hsame⟩ := hbreached code rfl hcode
      exact .breached r code hcalls hcode houtcome hsame

/-- Mostly the outcome is that of the answer. -/
theorem of_outcome {α : Type} {r : Request} (answer : Answer α)
    (hcalls : s'.calls = s.calls ++ [⟨r, answer.failure?⟩])
    (hrefused : ∀ code, answer = .error code → code.isNegative = true → spoiled x')
    (hbreached : ∀ code, answer = .error code → code.isNegative = false → x' = x) :
    Concludes s s' spoiled x (Outcome.ofAnswer r.call answer).bare x' := by
  refine of_answer answer hcalls (fun a ha => ?_) (fun code hanswer hcode => ?_)
    (fun code hanswer hcode => ?_)
  · rw [ha]
    rfl
  · refine ⟨⟨.engine r.call code, ?_⟩, hrefused code hanswer hcode⟩
    rw [hanswer, Outcome.ofAnswer_of_isNegative r.call hcode]
    rfl
  · refine ⟨?_, hbreached code hanswer hcode⟩
    rw [hanswer, Outcome.ofAnswer_of_not_isNegative r.call hcode]
    rfl

/-- What is said of a part is said of the whole that it is part of. -/
theorem map {spoiled' : Y → Prop} (f : X → Y) (h : Concludes s s' spoiled x outcome x')
    (hspoiled : spoiled x' → spoiled' (f x')) :
    Concludes s s' spoiled' (f x) outcome (f x') := by
  cases h with
  | worked calls hcalls hok houtcome => exact .worked calls hcalls hok houtcome
  | stopped e hstate houtcome hsame => exact .stopped e hstate houtcome (congrArg f hsame)
  | refused r code e hcalls hcode houtcome hs =>
    exact .refused r code e hcalls hcode houtcome (hspoiled hs)
  | breached r code hcalls hcode houtcome hsame =>
    exact .breached r code hcalls hcode houtcome (congrArg f hsame)

end Concludes

/-! ## Operations of a peer -/

namespace Peer

variable {σ : Type} (engine : Engine σ) (p : Peer) (s : Recorded σ)

/-- What a refusal leaves of a peer: the slot that the call was about is spoiled, if it was about
the interface of a slot, and nothing else has changed. -/
def Spoiled (p : Peer) : Option Slot → Peer → Prop
  | none, p' => p' = p
  | some slot, p' => p' = { p with slots := p.slots.spoil slot }

/-- A call on an interface, as it is noted. -/
theorem concludes_note {α : Type} {s s' : Recorded σ} (slot : Slot) (i : Interface)
    (state : InterfaceState) {r : Request} (answer : Answer α)
    (hcalls : s'.calls = s.calls ++ [⟨r, answer.failure?⟩]) :
    Concludes s s' (p.Spoiled (some slot)) p (Outcome.ofAnswer r.call answer).bare
      (p.note slot i state (.ofAnswer r.call answer)) := by
  refine .of_outcome answer hcalls (fun code hanswer hcode => ?_) (fun code hanswer hcode => ?_)
  · rw [hanswer, Outcome.ofAnswer_of_isNegative r.call hcode]
    rfl
  · rw [hanswer, Outcome.ofAnswer_of_not_isNegative r.call hcode]
    rfl

/-- Configuring that fails spoils its slot at most. -/
theorem concludes_configure (slot : Slot) (i : Interface) (config : InterfaceConfig) :
    Concludes s (p.configure engine.recorded slot i config s).2.2 (p.Spoiled (some slot)) p
      (p.configure engine.recorded slot i config s).1.bare
      (p.configure engine.recorded slot i config s).2.1 := by
  rw [configure]
  cases p.admitConfigure slot i config with
  | error e => exact .of_still (.inr ⟨e, rfl⟩)
  | ok h =>
    exact p.concludes_note slot i .configured (r := .configure h slot i config)
      (engine (.configure h slot i config) s.inner).1 rfl

/-- Binding that fails spoils its slot at most. -/
theorem concludes_bind (slot : Slot) (i : Interface) (endpoint : Option Endpoint) :
    Concludes s (p.bind engine.recorded slot i endpoint s).2.2 (p.Spoiled (some slot)) p
      (p.bind engine.recorded slot i endpoint s).1.bare
      (p.bind engine.recorded slot i endpoint s).2.1 := by
  rw [Peer.bind]
  cases p.admitLink slot i endpoint with
  | error e => exact .of_still (.inr ⟨e, rfl⟩)
  | ok admitted =>
    dsimp only
    rw [Outcome.bare_map]
    exact p.concludes_note slot i .linked (r := .bind admitted.1 slot i admitted.2)
      (engine (.bind admitted.1 slot i admitted.2) s.inner).1 rfl

/-- Connecting that fails spoils its slot at most. -/
theorem concludes_connect (slot : Slot) (i : Interface) (endpoint : Option Endpoint) :
    Concludes s (p.connect engine.recorded slot i endpoint s).2.2 (p.Spoiled (some slot)) p
      (p.connect engine.recorded slot i endpoint s).1.bare
      (p.connect engine.recorded slot i endpoint s).2.1 := by
  rw [connect]
  cases p.admitLink slot i endpoint with
  | error e => exact .of_still (.inr ⟨e, rfl⟩)
  | ok admitted =>
    exact p.concludes_note slot i .linked (r := .connect admitted.1 slot i admitted.2)
      (engine (.connect admitted.1 slot i admitted.2) s.inner).1 rfl

/-- Unlinking that fails leaves the peer as it was. -/
theorem concludes_unlink (slot : Slot) :
    Concludes s (p.unlink engine.recorded slot s).2.2 (p.Spoiled none) p
      (p.unlink engine.recorded slot s).1.bare (p.unlink engine.recorded slot s).2.1 := by
  rw [unlink]
  cases p.admitUnlink slot with
  | error e => exact .of_still (.inr ⟨e, rfl⟩)
  | ok h =>
    have hcalls : (engine.recorded (.unlink h slot) s).2.calls =
        s.calls ++ [⟨.unlink h slot, (engine.recorded (.unlink h slot) s).1.failure?⟩] := rfl
    dsimp only
    generalize engine.recorded (.unlink h slot) s = result at hcalls ⊢
    obtain ⟨code | u, s'⟩ := result
    · cases hcode : code.isNegative with
      | true =>
        simp only [Outcome.ofAnswer_of_isNegative _ hcode]
        exact .refused _ code _ hcalls hcode rfl rfl
      | false =>
        simp only [Outcome.ofAnswer_of_not_isNegative _ hcode]
        exact .breached _ code hcalls hcode rfl rfl
    · exact .of_outcome (r := .unlink h slot) (.ok u) hcalls (fun _ hcode => by cases hcode)
        (fun _ hcode => by cases hcode)

/-- Reading leaves the peer as it was. -/
theorem concludes_readFrame (length : Option Nat) :
    Concludes s (p.readFrame engine.recorded length s).2 (p.Spoiled none) p
      (p.readFrame engine.recorded length s).1.bare p := by
  rw [readFrame]
  cases p.admitFrame length with
  | error e => exact .of_still (.inr ⟨e, rfl⟩)
  | ok admitted =>
    by_cases hlength : admitted.2 = 0
    · simp only [if_pos hlength]
      exact .of_still (.inl rfl)
    · simp only [if_neg hlength]
      exact .of_outcome (r := .read admitted.1 admitted.2)
        (engine (.read admitted.1 admitted.2) s.inner).1 rfl (fun _ _ _ => rfl) fun _ _ _ => rfl

/-- Writing leaves the peer as it was. -/
theorem concludes_writeFrame (frame : Option Frame) :
    Concludes s (p.writeFrame engine.recorded frame s).2 (p.Spoiled none) p
      (p.writeFrame engine.recorded frame s).1.bare p := by
  rw [writeFrame]
  cases p.admitFrame frame with
  | error e => exact .of_still (.inr ⟨e, rfl⟩)
  | ok admitted =>
    by_cases hframe : admitted.2 = []
    · simp only [if_pos hframe]
      exact .of_still (.inl rfl)
    · simp only [if_neg hframe]
      exact .of_outcome (r := .write admitted.1 admitted.2)
        (engine (.write admitted.1 admitted.2) s.inner).1 rfl (fun _ _ _ => rfl) fun _ _ _ => rfl

/-- Closing that fails leaves the peer open. -/
theorem concludes_close :
    Concludes s (p.close engine.recorded s).2.2 (p.Spoiled none) p
      (p.close engine.recorded s).1.bare (p.close engine.recorded s).2.1 := by
  rw [close]
  cases p.handle with
  | none => exact .of_still (.inl rfl)
  | some h =>
    have hcalls : (engine.recorded (.peerClose h) s).2.calls =
        s.calls ++ [⟨.peerClose h, (engine.recorded (.peerClose h) s).1.failure?⟩] := rfl
    dsimp only
    generalize engine.recorded (.peerClose h) s = result at hcalls ⊢
    obtain ⟨code | u, s'⟩ := result
    · cases hcode : code.isNegative with
      | true =>
        simp only [Outcome.ofAnswer_of_isNegative _ hcode]
        exact .refused _ code _ hcalls hcode rfl rfl
      | false =>
        simp only [Outcome.ofAnswer_of_not_isNegative _ hcode]
        exact .breached _ code hcalls hcode rfl rfl
    · exact .of_outcome (r := .peerClose h) (.ok u) hcalls (fun _ hcode => by cases hcode)
        (fun _ hcode => by cases hcode)

end Peer

/-! ## Operations of a session -/

/-- What a program notices of an operation. -/
structure Attempt (ε σ : Type) where
  /-- How it ends. -/
  outcome : Outcome Unit
  /-- The endpoint that was passed, as it is afterwards. -/
  endpoint : Option Endpoint := none
  session : Session ε σ

namespace SessionOp

variable {ε : Type}

/-- The endpoint that is passed to an operation that may change it. -/
def endpoint? : SessionOp ε → Option Endpoint
  | .onPeer _ (.bind _ _ endpoint) => endpoint
  | _ => none

/-- The slot of a peer that an operation configures, binds or connects. -/
def slot? : SessionOp ε → Option (PeerId × Slot)
  | .onPeer id (.configure slot _ _) | .onPeer id (.bind slot _ _)
  | .onPeer id (.connect slot _ _) => some (id, slot)
  | _ => none

end SessionOp

namespace Session

variable {ε σ : Type}

/-- The attempt of an operation, if there is something to perform it on. Taking hold of an object
and letting go of it are not attempted: they cannot fail. -/
def attempt (engines : ε → Engine σ) (w : Session ε σ) : SessionOp ε → Option (Attempt ε σ)
  | .openContext engine config =>
    let (outcome, session) := w.openContext engines engine config
    some { outcome := outcome.bare, session }
  | .registerEncoding id encodingId encoding =>
    (w.registerEncoding engines id encodingId encoding).map ended
  | .closeContext id => (w.closeContext engines id).map ended
  | .openPeer context config =>
    let (outcome, session) := w.openPeer engines context config
    some { outcome := outcome.bare, session }
  | .onPeer id (.configure slot i config) => (w.configure engines id slot i config).map ended
  | .onPeer id (.bind slot i endpoint) => (w.bind engines id slot i endpoint).map fun x =>
    { ended x with endpoint := x.1.value?.or endpoint }
  | .onPeer id (.connect slot i endpoint) => (w.connect engines id slot i endpoint).map ended
  | .onPeer id (.unlink slot) => (w.unlink engines id slot).map ended
  | .onPeer id (.readFrame length) => (w.readFrame engines id length).map ended
  | .onPeer id (.writeFrame frame) => (w.writeFrame engines id frame).map ended
  | .onPeer id .close => (w.closePeer engines id).map ended
  | .holdContext _ | .releaseContext _ | .releasePeer _ => none
where
  /-- An operation has ended that changes no endpoint. -/
  ended {α : Type} (x : Outcome α × Session ε σ) : Attempt ε σ :=
    { outcome := x.1.bare, session := x.2 }

/-- What a refusal leaves of a session: the slot that the call was about, if it was about the
interface of a slot, exists and is broken, with all that had been done with its interfaces, and
nothing else has changed. -/
def Spoiled (w : Session ε σ) : Option (PeerId × Slot) → Session ε σ → Prop
  | none, w' => w' = w
  | some (id, slot), w' => ∃ m slots, w.peers.get? id = some m ∧
    w' = { w with peers := w.peers.insert id { m with peer := { m.peer with slots } } } ∧
    slots.contains slot = true ∧ SlotTable.isBroken slots slot = true ∧
    (∀ i, SlotTable.state? slots slot i = m.peer.slots.state? slot i) ∧
    ∀ other, other ≠ slot → slots.get? other = m.peer.slots.get? other

end Session

namespace SlotTable

/-- Spoiling a slot breaks it, and loses nothing of what has been done with it or any other. -/
theorem spoil_spec (t : SlotTable) (slot : Slot) :
    (t.spoil slot).contains slot = true ∧ (t.spoil slot).isBroken slot = true ∧
      (∀ i, (t.spoil slot).state? slot i = t.state? slot i) ∧
      ∀ other, other ≠ slot → (t.spoil slot).get? other = t.get? other := by
  have hself : (t.spoil slot).get? slot = some (t.record slot).spoil := Table.get?_insert_self _ _ _
  refine ⟨?_, ?_, fun i => ?_, fun other hother => Table.get?_insert_of_ne _ _ hother⟩
  · rw [Table.contains, hself]
    rfl
  · rw [isBroken, record, hself]
    rfl
  · rw [state?_eq, state?_eq, ledger_spoil, Ledger.spoil, Ledger.view_put_self]

end SlotTable

namespace Session

variable {ε σ : Type} {engines : ε → Engine (Recorded σ)} {w : Session ε (Recorded σ)}

/-- A member that stays as it is changes nothing of a session. -/
theorem update_self {id : PeerId} {m : Member ε} (hm : w.peers.get? id = some m)
    (s : Recorded σ) : { w.update id m m.peer s with state := w.state } = w := by
  rw [update_same hm]

/-- A slot of a member that is spoiled. -/
theorem spoiled_update {id : PeerId} {m : Member ε} (hm : w.peers.get? id = some m)
    (s : Recorded σ) {slot? : Option Slot} {p : Peer} (hp : m.peer.Spoiled slot? p) :
    w.Spoiled (slot?.map (id, ·)) { w.update id m p s with state := w.state } := by
  cases slot? with
  | none =>
    obtain rfl : p = m.peer := hp
    exact update_self hm s
  | some slot =>
    obtain rfl : p = { m.peer with slots := m.peer.slots.spoil slot } := hp
    obtain ⟨hcontains, hbroken, hstates, hothers⟩ := m.peer.slots.spoil_spec slot
    refine ⟨m, m.peer.slots.spoil slot, hm, ?_, hcontains, hbroken, hstates, hothers⟩
    have hopen : ¬ (m.peer.isClosed = false ∧
        ({ m.peer with slots := m.peer.slots.spoil slot } : Peer).isClosed = true) := by
      rintro ⟨hopen, hclosed⟩
      exact Bool.false_ne_true (hopen.symm.trans hclosed)
    rw [update]
    dsimp only
    rw [if_neg hopen]

/-- A session performs an operation on a peer that is there. -/
theorem exists_of_perform {α τ : Type} {engines : ε → Engine τ} {w : Session ε τ}
    {kind : Option PeerKind} {id : PeerId} {operation : Engine τ → Peer → τ → α × Peer × τ}
    {x : α × Session ε τ} (hx : w.perform engines kind id operation = some x) :
    ∃ m, w.peers.get? id = some m ∧ x = ((operation (engines m.engine) m.peer w.state).1,
      w.update id m (operation (engines m.engine) m.peer w.state).2.1
        (operation (engines m.engine) m.peer w.state).2.2) := by
  rcases w.perform_cases engines kind id operation with hnone | ⟨m, hm, -, hsome⟩
  · rw [hnone] at hx
    cases hx
  · rw [hsome] at hx
    exact ⟨m, hm, (Option.some.inj hx).symm⟩

/-- An operation of a peer concludes for the session as it does for the peer. -/
theorem concludes_perform {α : Type} {kind : Option PeerKind} {id : PeerId}
    {operation : Engine (Recorded σ) → Peer → Recorded σ → Outcome α × Peer × Recorded σ}
    {slot? : Option Slot} {x : Outcome α × Session ε (Recorded σ)}
    (hconcludes : ∀ m : Member ε, Concludes w.state
      (operation (engines m.engine) m.peer w.state).2.2 (m.peer.Spoiled slot?) m.peer
      (operation (engines m.engine) m.peer w.state).1.bare
      (operation (engines m.engine) m.peer w.state).2.1)
    (hx : w.perform engines kind id operation = some x) :
    Concludes w.state x.2.state (w.Spoiled (slot?.map (id, ·))) w x.1.bare
      { x.2 with state := w.state } := by
  obtain ⟨m, hm, rfl⟩ := exists_of_perform hx
  have hmember := (hconcludes m).map
    (fun p => { w.update id m p (operation (engines m.engine) m.peer w.state).2.2 with
      state := w.state }) (spoiled_update hm _)
  rw [update_self hm] at hmember
  rw [state_update]
  exact hmember

/-! ### Contexts -/

section Contexts

variable (engines : ε → Engine σ) (w : Session ε (Recorded σ))

/-- A context that is not opened leaves the session as it was. -/
theorem concludes_openContext (engine : ε) (config : ContextConfig) :
    let result := w.openContext (fun e => (engines e).recorded) engine config
    Concludes w.state result.2.state (w.Spoiled none) w result.1.bare
      { result.2 with state := w.state } := by
  intro result
  have hcalls : ((engines engine).recorded (.contextOpen config) w.state).2.calls =
      w.state.calls ++ [⟨.contextOpen config,
        ((engines engine).recorded (.contextOpen config) w.state).1.failure?⟩] := rfl
  unfold result openContext
  dsimp only
  generalize (engines engine).recorded (.contextOpen config) w.state = answered at hcalls ⊢
  obtain ⟨code | h, s'⟩ := answered
  · cases hcode : code.isNegative with
    | true =>
      simp only [openOutcome, Outcome.ofAnswer_of_isNegative _ hcode]
      exact .refused _ code _ hcalls hcode rfl rfl
    | false =>
      simp only [openOutcome, Outcome.ofAnswer_of_not_isNegative _ hcode]
      exact .breached _ code hcalls hcode rfl rfl
  · exact .of_outcome (r := .contextOpen config) (.ok h) hcalls nofun nofun

/-- Registering an encoding leaves the session as it was. -/
theorem concludes_registerEncoding {id : ContextId} {encodingId : Int32} {encoding : MediaEncoding}
    {x : Outcome Unit × Session ε (Recorded σ)}
    (hx : w.registerEncoding (fun e => (engines e).recorded) id encodingId encoding = some x) :
    Concludes w.state x.2.state (w.Spoiled none) w x.1.bare { x.2 with state := w.state } := by
  obtain ⟨c, -, rfl⟩ := Option.map_eq_some_iff.mp hx
  cases c.handle with
  | none => exact .of_still (.inr ⟨.contextClosed, rfl⟩)
  | some h =>
    exact .of_outcome (r := .registerEncoding h encodingId encoding)
      (engines c.engine (.registerEncoding h encodingId encoding) w.state.inner).1 rfl
      (fun _ _ _ => rfl) fun _ _ _ => rfl

/-- A context that is not closed leaves the session as it was. -/
theorem concludes_closeContext {id : ContextId} {x : Outcome Unit × Session ε (Recorded σ)}
    (hx : w.closeContext (fun e => (engines e).recorded) id = some x) :
    Concludes w.state x.2.state (w.Spoiled none) w x.1.bare { x.2 with state := w.state } := by
  obtain ⟨c, -, rfl⟩ := Option.map_eq_some_iff.mp hx
  cases c.handle with
  | none => exact .of_still (.inl rfl)
  | some h =>
    dsimp only
    by_cases hattached : 0 < c.attached
    · rw [if_pos hattached]
      exact .of_still (.inr ⟨.resourceBusy c.attached, rfl⟩)
    · rw [if_neg hattached]
      have hcalls : ((engines c.engine).recorded (.contextClose h) w.state).2.calls =
          w.state.calls ++ [⟨.contextClose h,
            ((engines c.engine).recorded (.contextClose h) w.state).1.failure?⟩] := rfl
      generalize (engines c.engine).recorded (.contextClose h) w.state = answered at hcalls ⊢
      obtain ⟨code | u, s'⟩ := answered
      · by_cases hbusy : code = .busy
        · -- The engine may know of peers that the count does not.
          subst hbusy
          exact .refused _ .busy _ hcalls rfl rfl rfl
        · cases hcode : code.isNegative with
          | true =>
            simp only [closeOutcome, if_neg hbusy, Outcome.ofAnswer_of_isNegative _ hcode]
            exact .refused _ code _ hcalls hcode rfl rfl
          | false =>
            simp only [closeOutcome, if_neg hbusy, Outcome.ofAnswer_of_not_isNegative _ hcode]
            exact .breached _ code hcalls hcode rfl rfl
      · exact .of_outcome (r := .contextClose h) (.ok u) hcalls nofun nofun

/-- A peer that is not opened leaves the session as it was. -/
theorem concludes_openPeer (context : Option ContextId) (config : PeerConfig) :
    let result := w.openPeer (fun e => (engines e).recorded) context config
    Concludes w.state result.2.state (w.Spoiled none) w result.1.bare
      { result.2 with state := w.state } := by
  intro result
  unfold result openPeer
  cases w.openRequest context with
  | error e => exact .of_still (.inr ⟨e, rfl⟩)
  | ok admitted =>
    obtain ⟨id, c, h⟩ := admitted
    have hcalls : ((engines c.engine).recorded (.peerOpen h config) w.state).2.calls =
        w.state.calls ++ [⟨.peerOpen h config,
          ((engines c.engine).recorded (.peerOpen h config) w.state).1.failure?⟩] := rfl
    dsimp only
    generalize (engines c.engine).recorded (.peerOpen h config) w.state = answered at hcalls ⊢
    obtain ⟨code | peer, s'⟩ := answered
    · cases hcode : code.isNegative with
      | true =>
        simp only [Outcome.ofAnswer_of_isNegative _ hcode]
        exact .refused _ code _ hcalls hcode rfl rfl
      | false =>
        simp only [Outcome.ofAnswer_of_not_isNegative _ hcode]
        exact .breached _ code hcalls hcode rfl rfl
    · exact .of_outcome (r := .peerOpen h config) (.ok peer) hcalls nofun nofun

end Contexts

/-! ### All operations -/

/-- The session after an attempt is the one that the operation makes. -/
theorem session_of_attempt {τ : Type} (engines : ε → Engine τ) (w : Session ε τ) (op : SessionOp ε)
    {a : Attempt ε τ} (ha : w.attempt engines op = some a) : a.session = w.operate engines op := by
  have hended : ∀ {α : Type} {x : Option (Outcome α × Session ε τ)} {b : Attempt ε τ},
      x.map attempt.ended = some b → b.session = (x.map Prod.snd).getD w := by
    intro α x b hb
    obtain ⟨y, rfl, rfl⟩ := Option.map_eq_some_iff.mp hb
    rfl
  cases op with
  | openContext engine config | openPeer context config =>
    obtain rfl := Option.some.inj ha
    rfl
  | registerEncoding id encodingId encoding | closeContext id => exact hended ha
  | holdContext id | releaseContext id | releasePeer id => exact absurd ha nofun
  | onPeer id op =>
    cases op with
    | bind slot i endpoint =>
      obtain ⟨x, hx, rfl⟩ := Option.map_eq_some_iff.mp ha
      rw [operate, onPeer, hx]
      rfl
    | _ => exact hended ha

/-- A binding leaves the endpoint as it was, unless it works; then the port may be another. -/
theorem endpoint_of_attempt {τ : Type} (engines : ε → Engine τ) (w : Session ε τ) (op : SessionOp ε)
    {a : Attempt ε τ} (ha : w.attempt engines op = some a) :
    (a.outcome ≠ .ok () → a.endpoint = op.endpoint?) ∧
      (a.outcome = .ok () → ∀ e ∈ op.endpoint?, ∃ port, a.endpoint = some { e with port }) := by
  have hended : ∀ {α : Type} {x : Option (Outcome α × Session ε τ)},
      x.map attempt.ended = some a → a.endpoint = none := by
    intro α x hb
    obtain ⟨y, rfl, rfl⟩ := Option.map_eq_some_iff.mp hb
    rfl
  have hnone : a.endpoint = none → op.endpoint? = none →
      (a.outcome ≠ .ok () → a.endpoint = op.endpoint?) ∧
        (a.outcome = .ok () → ∀ e ∈ op.endpoint?, ∃ port, a.endpoint = some { e with port }) := by
    intro hafter hbefore
    rw [hafter, hbefore]
    exact ⟨fun _ => rfl, fun _ e he => absurd he nofun⟩
  -- Only binding writes an endpoint back.
  cases op with
  | openContext engine config | openPeer context config =>
    obtain rfl := Option.some.inj ha
    exact hnone rfl rfl
  | registerEncoding id encodingId encoding | closeContext id => exact hnone (hended ha) rfl
  | holdContext id | releaseContext id | releasePeer id => exact absurd ha nofun
  | onPeer id op =>
    cases op with
    | bind slot i endpoint =>
      obtain ⟨x, hx, rfl⟩ := Option.map_eq_some_iff.mp ha
      obtain ⟨m, -, rfl⟩ := exists_of_perform hx
      cases houtcome : (m.peer.bind (engines m.engine) slot i endpoint w.state).1 with
      | ok bound =>
        obtain ⟨e, port, rfl, -, rfl⟩ := Peer.endpoint_of_bind houtcome
        simp only [attempt.ended, SessionOp.endpoint?]
        refine ⟨fun hfailed => absurd rfl hfailed, fun _ e' he' => ?_⟩
        obtain rfl := Option.some.inj he'
        exact ⟨port, rfl⟩
      | failed e | breach call code =>
        simp only [attempt.ended, SessionOp.endpoint?]
        exact ⟨fun _ => rfl, fun hok => absurd hok nofun⟩
    | _ => exact hnone (hended ha) rfl

/-- Every operation of a session concludes. -/
theorem concludes_attempt (engines : ε → Engine σ) (w : Session ε (Recorded σ)) (op : SessionOp ε)
    {a : Attempt ε (Recorded σ)} (ha : w.attempt (fun e => (engines e).recorded) op = some a) :
    Concludes w.state a.session.state (w.Spoiled op.slot?) w a.outcome
      { a.session with state := w.state } := by
  cases op with
  | openContext engine config =>
    obtain rfl := Option.some.inj ha
    exact w.concludes_openContext engines engine config
  | registerEncoding id encodingId encoding =>
    obtain ⟨x, hx, rfl⟩ := Option.map_eq_some_iff.mp ha
    exact w.concludes_registerEncoding engines hx
  | closeContext id =>
    obtain ⟨x, hx, rfl⟩ := Option.map_eq_some_iff.mp ha
    exact w.concludes_closeContext engines hx
  | openPeer context config =>
    obtain rfl := Option.some.inj ha
    exact w.concludes_openPeer engines context config
  -- These ask nothing and cannot fail, so there is no attempt.
  | holdContext id => exact absurd ha nofun
  | releaseContext id => exact absurd ha nofun
  | releasePeer id => exact absurd ha nofun
  | onPeer id op =>
    cases op with
    | configure slot i config =>
      obtain ⟨x, hx, rfl⟩ := Option.map_eq_some_iff.mp ha
      exact concludes_perform (fun m => m.peer.concludes_configure _ w.state slot i config) hx
    | bind slot i endpoint =>
      obtain ⟨x, hx, rfl⟩ := Option.map_eq_some_iff.mp ha
      exact concludes_perform (fun m => m.peer.concludes_bind _ w.state slot i endpoint) hx
    | connect slot i endpoint =>
      obtain ⟨x, hx, rfl⟩ := Option.map_eq_some_iff.mp ha
      exact concludes_perform (fun m => m.peer.concludes_connect _ w.state slot i endpoint) hx
    | unlink slot =>
      obtain ⟨x, hx, rfl⟩ := Option.map_eq_some_iff.mp ha
      exact concludes_perform (fun m => m.peer.concludes_unlink _ w.state slot) hx
    | readFrame length =>
      obtain ⟨x, hx, rfl⟩ := Option.map_eq_some_iff.mp ha
      exact concludes_perform (fun m => m.peer.concludes_readFrame _ w.state length) hx
    | writeFrame frame =>
      obtain ⟨x, hx, rfl⟩ := Option.map_eq_some_iff.mp ha
      exact concludes_perform (fun m => m.peer.concludes_writeFrame _ w.state frame) hx
    | close =>
      obtain ⟨x, hx, rfl⟩ := Option.map_eq_some_iff.mp ha
      exact concludes_perform (fun m => m.peer.concludes_close _ w.state) hx

/-- Whatever an engine answers, an operation that fails without asking it leaves the session as it
was; a refusal leaves at most a broken slot behind; and a failure code that is none leaves nothing.
In all three cases an endpoint that was passed is as it was, and after a binding that works it
differs by its port at most. -/
theorem failures_atomic (engines : ε → Engine σ) (w : Session ε (Recorded σ)) (op : SessionOp ε)
    (a : Attempt ε (Recorded σ)) (ha : w.attempt (fun e => (engines e).recorded) op = some a) :
    a.session = w.operate (fun e => (engines e).recorded) op ∧
      Concludes w.state a.session.state (w.Spoiled op.slot?) w a.outcome
        { a.session with state := w.state } ∧
      (a.outcome ≠ .ok () → a.endpoint = op.endpoint?) ∧
      (a.outcome = .ok () → ∀ e ∈ op.endpoint?, ∃ port, a.endpoint = some { e with port }) :=
  ⟨session_of_attempt _ w op ha, w.concludes_attempt engines op ha, endpoint_of_attempt _ w op ha⟩

/-- A receiver of an engine that refuses everything binds an interface. -/
theorem failures_atomic_refusedBind :
    let engine : Engine Unit := fun _ s => (.error ⟨-7⟩, s)
    let w : Session Unit (Recorded Unit) := {
      contexts := Table.empty.insert ⟨0⟩ { engine := (), handle := some ⟨1⟩, attached := 1, holders := 2 }
      peers := Table.empty.insert ⟨1⟩
        { engine := (), context := ⟨0⟩, peer := { kind := .receiver, handle := some ⟨2⟩ } }
      next := 2
      state := { inner := () } }
    let endpoint : Endpoint := ⟨some .rtp, "127.0.0.1", 0, ""⟩
    let op : SessionOp Unit := .onPeer ⟨1⟩ (.bind ⟨3⟩ .audioSource (some endpoint))
    ∃ a, w.attempt (fun _ => engine.recorded) op = some a ∧
      a.outcome = .failed (.engine .peerBind ⟨-7⟩) ∧ a.endpoint = some endpoint ∧
      w.Spoiled (some (⟨1⟩, ⟨3⟩)) { a.session with state := w.state } := by
  intro engine w endpoint op
  have hseen : (w.attempt (fun _ => engine.recorded) op).map (fun a =>
      (a.outcome, a.session.state.calls.length)) =
        some (.failed (.engine .peerBind ⟨-7⟩), 1) := by
    decide +kernel
  obtain ⟨a, ha, hseen⟩ := Option.map_eq_some_iff.mp hseen
  obtain ⟨houtcome, hcount⟩ := Prod.mk.inj hseen
  obtain ⟨-, hconcludes, hendpoint, -⟩ := failures_atomic (fun _ => engine) w op a ha
  have hfailed : a.outcome ≠ .ok () := by
    rw [houtcome]
    nofun
  refine ⟨a, ha, houtcome, hendpoint hfailed, ?_⟩
  -- One call was made and it failed by a negative code, which leaves one of the four ways.
  cases hconcludes with
  | worked _ _ _ hworked => exact absurd hworked hfailed
  | stopped _ hstate =>
    rw [hstate] at hcount
    exact absurd hcount nofun
  | refused _ _ _ _ _ _ hspoiled => exact hspoiled
  | breached _ _ _ _ hbreached => exact absurd (houtcome.symm.trans hbreached) nofun

end Session
end AudioLink
