import AudioLink.Proofs.Session.Atomicity
import AudioLink.Proofs.Session.Callers

/-
What reaches an engine.

An operation of a peer ends in one of three ways, and what it does to the peer can be seen in the
session. In none of them is an engine asked anything that has not been validated. So whatever a
program does, the journal of its engines holds no request with an endpoint that has no URI, with an
address that is too long or has a zero byte in it, or with an empty frame.
-/
set_option autoImplicit false

namespace AudioLink

/-! ## Operations of a session -/

namespace Session

variable {ε σ : Type}

section Attempts

variable (engines : ε → Engine σ) {w : Session ε σ} {id : PeerId} {m : Member ε}

/-- An operation of a peer that is there, and of the right kind, is one on its member. -/
theorem attempt_onPeer {op : PeerOp} (hm : w.peers.get? id = some m)
    (hkind : ∀ k ∈ op.kind?, m.peer.kind = k) :
    ∃ a, w.attempt engines (.onPeer id op) = some a ∧
      a.outcome = op.outcome (engines m.engine) m.peer w.state ∧
      a.session = w.update id m (op.run (engines m.engine) m.peer w.state).1
        (op.run (engines m.engine) m.peer w.state).2 := by
  have hperform {α : Type} (ended : Outcome α × Session ε σ → Attempt ε σ)
      (operation : Engine σ → Peer → σ → Outcome α × Peer × σ) :=
    congrArg (Option.map ended) (perform_of_get? engines hm hkind operation)
  cases op with
  | configure slot i config => exact ⟨_, hperform attempt.ended _, rfl, rfl⟩
  | bind slot i endpoint => exact ⟨_, hperform _ _, rfl, rfl⟩
  | connect slot i endpoint => exact ⟨_, hperform attempt.ended _, rfl, rfl⟩
  | unlink slot => exact ⟨_, hperform attempt.ended _, rfl, rfl⟩
  | readFrame length => exact ⟨_, hperform attempt.ended _, rfl, rfl⟩
  | writeFrame frame => exact ⟨_, hperform attempt.ended _, rfl, rfl⟩
  | close => exact ⟨_, hperform attempt.ended _, rfl, rfl⟩

/-- What a session does for a peer ends as the operation of the peer does. -/
theorem ends_attempt {op : PeerOp} (hm : w.peers.get? id = some m)
    (hkind : ∀ k ∈ op.kind?, m.peer.kind = k) :
    ∃ a, w.attempt engines (.onPeer id op) = some a ∧
      m.peer.Ends (engines m.engine) op w.state a.session.state w a.outcome a.session := by
  obtain ⟨a, ha, houtcome, hsession⟩ := attempt_onPeer engines hm hkind
  refine ⟨a, ha, ?_⟩
  rw [houtcome, hsession, state_update]
  refine (op.ends_run (engines m.engine) m.peer w.state).within fun hstate hpeer => ?_
  rw [hstate, hpeer, update_same hm]

end Attempts

end Session

/-! ## What is written in the journal -/

namespace Journaled

variable {ε σ : Type} {s s' s'' : Journaled ε σ}

/-- From one state of the engines to another, nothing is asked that has not been validated. -/
def Guarded (s s' : Journaled ε σ) : Prop := ∀ x ∈ s'.journal, x ∈ s.journal ∨ x.request.Validated

theorem Guarded.of_eq (hstate : s' = s) : Guarded s s' := by
  intro x hx
  rw [hstate] at hx
  exact .inl hx

/-- Calls that are guarded one after the other are guarded together. -/
theorem Guarded.trans (hfirst : Guarded s s') (hthen : Guarded s' s'') : Guarded s s'' := by
  intro x hx
  rcases hthen x hx with hx | hvalid
  · exact hfirst x hx
  · exact .inr hvalid

/-- A valid request is a guarded one. -/
theorem guarded_asked {engines : ε → Engine σ} {e : ε} (r : Request) (hvalid : r.Validated)
    (hstate : s' = (journaled engines e r s).2) : Guarded s s' := by
  intro x hx
  rw [hstate] at hx
  rcases List.mem_append.mp hx with hx | hx
  · exact .inl hx
  · rw [List.mem_singleton.mp hx]
    exact .inr hvalid

end Journaled

/-- A request that opens a context, or is made by one, has nothing to validate. -/
theorem Request.validated_of_context {r : Request}
    (h : r.call = .contextOpen ∨ ∃ c, r.context? = some c) : r.Validated := by
  cases r with
  | configure | bind | connect | read | write =>
    rcases h with h | ⟨c, h⟩
    · cases h
    · cases h
  | _ => trivial

/-- An operation that ends so asks nothing that is not valid. -/
theorem Peer.Ends.guarded {ε σ X : Type} {engines : ε → Engine σ} {e : ε} {p : Peer} {op : PeerOp}
    {s s' : Journaled ε σ} {x x' : X} {outcome : Outcome Unit}
    (hends : p.Ends (journaled engines e) op s s' x outcome x') : s.Guarded s' := by
  cases hends with
  | refused e _ _ hstate | idle _ _ _ hstate => exact .of_eq hstate
  | asked r _ _ hvalid _ hstate => exact Journaled.guarded_asked r hvalid hstate

namespace Session

variable {ε σ : Type} {engines : ε → Engine σ} {w w' : Session ε (Journaled ε σ)}

/-- Calls that no peer makes. -/
theorem guarded_of_asks {who : Request → Option Caller} {xs : List (Exchange ε)}
    (hasks : Asks w w' who xs) (hpeer : ∀ r, ∀ id ∈ who r, ∃ c, id = .context c) :
    w.state.Guarded w'.state := by
  intro x hx
  rw [hasks.journal] at hx
  rcases List.mem_append.mp hx with hx | hx
  · exact .inl hx
  · have hmade := hasks.made x hx
    -- What has to be validated carries the handle of a peer, and contexts have none.
    refine .inr (Request.validated_of_context ?_)
    cases hcaller : who x.request with
    | none =>
      rw [hcaller] at hmade
      exact .inl hmade
    | some o =>
      rw [hcaller] at hmade
      cases o with
      | context id =>
        obtain ⟨_, h, -, -, -, hown⟩ := hmade
        exact .inr ⟨h, hown⟩
      | peer id =>
        obtain ⟨c, hc⟩ := hpeer _ _ hcaller
        cases hc

variable (engines w)

/-- Operations of peers ask valid things only. -/
theorem guarded_onPeer (id : PeerId) (op : PeerOp) :
    w.state.Guarded (w.onPeer (journaled engines) id op).state := by
  rcases w.onPeer_cases (journaled engines) id op with hsame | ⟨m, -, -, hmoved⟩
  · exact .of_eq (congrArg Session.state hsame)
  · rw [hmoved, state_update]
    exact (op.ends_run (journaled engines m.engine) m.peer w.state).guarded

/-- Disposing of a peer asks its engine to close it, or nothing. -/
theorem guarded_dispose (p : Peer) (e : ε) (s : Journaled ε σ) :
    s.Guarded (p.dispose (journaled engines e) s).2 := by
  rw [Peer.dispose]
  cases p.handle with
  | none => exact .of_eq rfl
  | some h =>
    have hasked : s.Guarded (journaled engines e (.peerClose h) s).2 :=
      Journaled.guarded_asked (.peerClose h) trivial rfl
    dsimp only
    generalize journaled engines e (.peerClose h) s = answered at hasked ⊢
    obtain ⟨code | u, s'⟩ := answered
    · exact hasked
    · exact hasked

/-- Dropping a peer asks valid things only. -/
theorem guarded_releasePeer (id : PeerId) :
    w.state.Guarded (w.releasePeer (journaled engines) id).state := by
  unfold releasePeer
  cases w.peers.get? id with
  | none => exact .of_eq rfl
  | some m =>
    have hdispose := guarded_dispose engines m.peer m.engine w.state
    dsimp only
    generalize m.peer.dispose (journaled engines m.engine) w.state = result at hdispose ⊢
    have hstate : (w.update id m result.1 result.2).state = result.2 := w.state_update id m _ _
    obtain ⟨xs, hasks, -⟩ := asks_releaseContext engines
      { w.update id m result.1 result.2 with
        peers := (w.update id m result.1 result.2).peers.erase id } m.context
    -- The context may be closed behind the peer.
    have hrelease := guarded_of_asks hasks fun _ _ hcaller => ⟨_, (Option.some.inj hcaller).symm⟩
    rw [← hstate] at hdispose
    exact hdispose.trans hrelease

/-- No operation asks anything that has not been validated. -/
theorem guarded_operate (op : SessionOp ε) :
    w.state.Guarded (w.operate (journaled engines) op).state := by
  cases op with
  | onPeer id op => exact w.guarded_onPeer engines id op
  | releasePeer id => exact w.guarded_releasePeer engines id
  | openContext e config =>
    have hstate := w.state_openContext (journaled engines) e config
    exact Journaled.guarded_asked (.contextOpen config) trivial hstate
  | holdContext id => exact .of_eq rfl
  | releaseContext id =>
    obtain ⟨xs, hasks, -⟩ := w.asks_releaseContext engines id
    exact guarded_of_asks hasks fun _ _ hcaller => ⟨_, (Option.some.inj hcaller).symm⟩
  | registerEncoding id encodingId encoding =>
    obtain ⟨xs, hasks⟩ := w.asks_registerEncoding engines id encodingId encoding
    exact guarded_of_asks hasks fun _ _ hcaller => ⟨_, (Option.some.inj hcaller).symm⟩
  | closeContext id =>
    obtain ⟨xs, hasks⟩ := w.asks_closeContext engines id
    exact guarded_of_asks hasks fun _ _ hcaller => ⟨_, (Option.some.inj hcaller).symm⟩
  | openPeer context config =>
    obtain ⟨xs, hasks⟩ := w.asks_openPeer engines context config
    refine guarded_of_asks hasks fun r o hcaller => ?_
    obtain ⟨c, -, hc⟩ := Option.map_eq_some_iff.mp hcaller
    exact ⟨c, hc.symm⟩

end Session

namespace Program

variable {ε σ : Type} (engines : ε → Engine σ)

/-- Every action asks valid things only. -/
theorem guarded_after (p : Program ε σ) (action : Action ε σ) :
    p.session.state.Guarded (p.after engines action).session.state := by
  cases action with
  | world change => exact fun x hx => .inl hx
  | operation op =>
    rw [after]
    split
    · exact p.session.guarded_operate engines op
    · exact .of_eq rfl

/-- A run asks valid things only. -/
theorem guarded_afterAll (p : Program ε σ) (actions : List (Action ε σ)) :
    p.session.state.Guarded (p.afterAll engines actions).session.state := by
  induction actions generalizing p with
  | nil => exact .of_eq rfl
  | cons action actions ih => exact (p.guarded_after engines action).trans (ih _)

/-- Whatever a program does, its engines are asked only what has been validated. An operation of a
peer is refused for the first thing that is wrong with it, in the order of `Peer.faults`, and then no
engine is asked; the answer of an engine counts only when nothing is wrong; and an empty frame is
read and written without asking. -/
theorem boundary_guarded :
    (∀ (s : σ) (actions : List (Action ε σ)),
      ∀ x ∈ ((start s).afterAll engines actions).session.state.journal, x.request.Validated) ∧
    ∀ (w : Session ε (Journaled ε σ)) (id : PeerId) (m : Member ε) (op : PeerOp),
      w.peers.get? id = some m → (∀ k ∈ op.kind?, m.peer.kind = k) →
        ∃ a, w.attempt (journaled engines) (.onPeer id op) = some a ∧
          m.peer.Ends (journaled engines m.engine) op w.state a.session.state w a.outcome
            a.session := by
  refine ⟨fun s actions x hx => ?_, fun w id m op hm hkind => ?_⟩
  · exact ((start s).guarded_afterAll engines actions x hx).resolve_left List.not_mem_nil
  · exact Session.ends_attempt (journaled engines) hm hkind

/-- A sender sets options on a broken slot, with a zero byte in one address and a group that is too
long. It is told of the zero byte. -/
theorem boundary_guarded_zeroByte :
    let engine : Engine Unit := fun _ s => (.error ⟨-7⟩, s)
    let slots : SlotTable := Table.empty.insert ⟨3⟩ { broken := true }
    let m : Member Unit :=
      { engine := (), context := ⟨0⟩, peer := { kind := .sender, handle := some ⟨2⟩, slots } }
    let w : Session Unit (Journaled Unit Unit) :=
      { peers := Table.empty.insert ⟨1⟩ m, next := 2, state := { inner := () } }
    let config : InterfaceConfig :=
      { outgoingAddress := "10.0.0.1\x00", multicastGroup := String.ofList (List.replicate 48 '0') }
    let op : PeerOp := .configure ⟨3⟩ .audioSource config
    ∃ a, w.attempt (journaled fun _ => engine) (.onPeer ⟨1⟩ op) = some a ∧
      a.outcome = .failed (.zeroByte .outgoingAddress) ∧ a.session = w := by
  intro engine slots m w config op
  have hfirst : firstFault (m.peer.faults op) = some (.zeroByte .outgoingAddress) := by
    decide +kernel
  obtain ⟨-, hends⟩ := boundary_guarded fun _ : Unit => engine
  obtain ⟨a, ha, hends⟩ := hends w ⟨1⟩ m op rfl nofun
  refine ⟨a, ha, ?_⟩
  cases hends with
  | refused e hfirst' houtcome _ hsame =>
    obtain rfl := Option.some.inj (hfirst.symm.trans hfirst')
    exact ⟨houtcome, hsame⟩
  | idle hnone | asked _ hnone => exact absurd (hfirst.symm.trans hnone) nofun

end Program
end AudioLink
