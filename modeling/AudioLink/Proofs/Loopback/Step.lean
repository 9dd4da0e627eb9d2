import AudioLink.Loopback.Fleet
import AudioLink.Proofs.Loopback.Handlers
import AudioLink.Proofs.Loopback.Ledger

/-
What one request makes of the loopback engine.

A request about a peer alters this peer and no other; any other request leaves all peers alone, or
gives out the next handle. A request that its peer makes and that is admitted by its ledger has the
effect that `Ledger.after` says, and a slot that is in use can always be taken down.
-/
set_option autoImplicit false

namespace AudioLink.Loopback

/-! ## What is seen of a state -/

/-- What is seen of a peer: its kind and its slots. -/
structure PeerView where
  kind : PeerKind
  ledger : Ledger

def PeerState.view (q : PeerState) : PeerView := ⟨q.kind, q.ledger⟩

namespace State

/-- What is seen of the peers of the engine. -/
def view (s : State) (h : PeerHandle) : Option PeerView := (s.peers.get? h).map PeerState.view

/-- A handle without a peer is seen as nothing. -/
theorem view_eq_none_iff {s : State} {h : PeerHandle} : s.view h = none ↔ s.peers.get? h = none :=
  Option.map_eq_none_iff

/-- What is seen under a handle is the view of the peer there. -/
theorem view_eq_some_iff {s : State} {h : PeerHandle} {v : PeerView} :
    s.view h = some v ↔ ∃ q, s.peers.get? h = some q ∧ q.view = v :=
  Option.map_eq_some_iff

/-- No handle is given, and no peer but this one is altered. -/
structure AltersOnly (h : PeerHandle) (s s' : State) : Prop where
  nextId : s'.nextId = s.nextId
  others : ∀ other, other ≠ h → s'.view other = s.view other
  absent : s.view h = none → s'.view h = none

/-- The next handle is given, and no peer with another one is altered. -/
structure Gives (s s' : State) : Prop where
  nextId : s'.nextId = s.nextId + 1
  others : ∀ other : PeerHandle, other.raw ≠ s.nextId → s'.view other = s.view other

/-- Neither is a handle given nor is a peer altered. -/
def Same (s s' : State) : Prop := s'.nextId = s.nextId ∧ ∀ h, s'.view h = s.view h

theorem AltersOnly.refl (h : PeerHandle) (s : State) : AltersOnly h s s :=
  ⟨rfl, fun _ _ => rfl, id⟩

theorem Same.refl (s : State) : Same s s := ⟨rfl, fun _ => rfl⟩

/-- States that look the same to a third look the same. -/
theorem Same.trans {s s' s'' : State} (h : Same s s') (h' : Same s' s'') : Same s s'' :=
  ⟨h'.1.trans h.1, fun peer => (h'.2 peer).trans (h.2 peer)⟩

end State

namespace Site

variable {site : Site} {h : PeerHandle} {q : PeerState} {slot : Slot} {i : Interface}

/-- A peer that is put in is seen under its handle. -/
theorem view_setPeer (site : Site) (h : PeerHandle) (q : PeerState) :
    (site.setPeer h q).state.view h = some q.view := by
  rw [State.view, setPeer, Table.get?_insert_self, Option.map_some]

/-- Putting a peer in the place of one that was there alters this one only. -/
theorem altersOnly_setPeer (hq : site.state.peers.get? h = some q) (m : Machine)
    (q' : PeerState) : State.AltersOnly h site.state ({ site with machine := m }.setPeer h q').state where
  nextId := rfl
  others other hother := by
    rw [State.view, setPeer, Table.get?_insert_of_ne _ _ hother, State.view]
  absent hnone := by
    rw [State.view_eq_none_iff, hq] at hnone
    exact absurd hnone nofun

/-! ## Requests about a peer -/

/-- A request about one slot alters the view of its peer only. -/
theorem SetsSlot.altersOnly {α : Type} {result : Answer α × Site}
    (hsets : SetsSlot site h slot result) : State.AltersOnly h site.state result.2.state := by
  cases hsets with
  | refused code => exact .refl h site.state
  | set hq answer machine s => exact altersOnly_setPeer hq machine _

/-- Unlinking alters the view of its peer only. -/
theorem altersOnly_unlink (site : Site) (h : PeerHandle) (slot : Slot) :
    State.AltersOnly h site.state (site.unlink h slot).2.state := by
  rcases site.unlink_cases h slot with ⟨code, hunlink⟩ | ⟨q, machine, hq, hunlink⟩
  · rw [hunlink]
    exact .refl h site.state
  · rw [hunlink]
    exact altersOnly_setPeer hq machine _

/-- Closing a peer alters the view of this peer only. -/
theorem altersOnly_closePeer (site : Site) (h : PeerHandle) :
    State.AltersOnly h site.state (site.closePeer h).2.state := by
  rcases site.closePeer_cases h with ⟨⟨code, hclose⟩, -⟩ | ⟨q, machine, hq, hclose⟩
  · rw [hclose]
    exact .refl h site.state
  · rw [hclose]
    refine ⟨rfl, fun other hother => ?_, fun _ => ?_⟩
    · rw [State.view, Table.get?_erase_of_ne _ hother, State.view]
    · rw [State.view, Table.get?_erase_self, Option.map_none]

/-- Reading alters the view of its peer at most. -/
theorem altersOnly_read (site : Site) (h : PeerHandle) (length : Nat) :
    State.AltersOnly h site.state (site.read h length).2.state := by
  rcases site.read_cases h length with ⟨code, hread⟩ | ⟨q, p, machine, pacer, hq, -, -, hread⟩
  · rw [hread]
    exact .refl h site.state
  · rw [hread]
    exact altersOnly_setPeer hq machine _

/-- Writing alters the view of its peer at most. -/
theorem altersOnly_write (site : Site) (h : PeerHandle) (frame : Frame) :
    State.AltersOnly h site.state (site.write h frame).2.state := by
  rcases site.write_cases h frame with
    ⟨code, hwrite⟩ | ⟨q, fec, stream, p, machine, pacer, hq, -, -, hwrite⟩
  · rw [hwrite]
    exact .refl h site.state
  · rw [hwrite]
    exact altersOnly_setPeer hq machine _

end Site

/-- A request about a peer alters this peer only. -/
theorem altersOnly_engine {r : Request} {h : PeerHandle} (hown : r.peer? = some h) (site : Site) :
    State.AltersOnly h site.state (engine r site).2.state := by
  cases r with
  | configure h' slot i config =>
    obtain rfl : h' = h := Option.some.inj hown
    exact (site.setsSlot_configure h' slot i config).altersOnly
  | bind h' slot i endpoint =>
    obtain rfl : h' = h := Option.some.inj hown
    exact (site.setsSlot_bind h' slot i endpoint).altersOnly
  | connect h' slot i endpoint =>
    obtain rfl : h' = h := Option.some.inj hown
    exact (site.setsSlot_connect h' slot i endpoint).altersOnly
  | unlink h' slot =>
    obtain rfl : h' = h := Option.some.inj hown
    exact site.altersOnly_unlink h' slot
  | peerClose h' =>
    obtain rfl : h' = h := Option.some.inj hown
    exact site.altersOnly_closePeer h'
  | read h' length =>
    obtain rfl : h' = h := Option.some.inj hown
    exact site.altersOnly_read h' length
  | write h' frame =>
    obtain rfl : h' = h := Option.some.inj hown
    exact site.altersOnly_write h' frame
  | _ => exact absurd hown nofun

/-! ## Other requests -/

namespace Site

/-- Opening a context gives a handle or changes nothing that is seen of peers. -/
theorem same_openContext (site : Site) (config : ContextConfig) :
    State.Same site.state (site.openContext config).2.state ∨
      State.Gives site.state (site.openContext config).2.state := by
  rcases site.openContext_cases config with ⟨code, hopen⟩ | hopen
  · rw [hopen]
    exact .inl (.refl site.state)
  · rw [hopen]
    exact .inr ⟨rfl, fun _ _ => rfl⟩

/-- Registering an encoding changes nothing that is seen of peers. -/
theorem same_registerEncoding (site : Site) (c : ContextHandle) (id : Int32)
    (encoding : MediaEncoding) :
    State.Same site.state (site.registerEncoding c id encoding).2.state := by
  rcases site.registerEncoding_cases c id encoding with ⟨code, hregister⟩ | ⟨k, -, hregister⟩
  · rw [hregister]
    exact .refl site.state
  · rw [hregister]
    exact ⟨rfl, fun _ => rfl⟩

/-- Closing a context changes nothing that is seen of peers. -/
theorem same_closeContext (site : Site) (c : ContextHandle) :
    State.Same site.state (site.closeContext c).2.state := by
  rcases site.closeContext_cases c with ⟨⟨code, hclose⟩, -⟩ | ⟨k, -, -, hclose⟩
  · rw [hclose]
    exact .refl site.state
  · rw [hclose]
    exact ⟨rfl, fun _ => rfl⟩

/-- The flow of a peer that is opened is of the kind that is asked for. -/
theorem kind_of_flow? {c : ContextState} {stream : UInt32} {config : PeerConfig} {flow : Flow}
    (h : flow? c stream config = some flow) : flow.kind = config.kind := by
  cases config with
  | sender config =>
    obtain ⟨size, -, h⟩ := Option.bind_eq_some_iff.mp h
    obtain ⟨packetizer, -, h⟩ := Option.bind_eq_some_iff.mp h
    rw [← Option.some.inj h]
    rfl
  | receiver config =>
    obtain ⟨playout, -, rfl⟩ := Option.map_eq_some_iff.mp h
    rfl

/-- A peer is opened under the next handle, with no slot in use, or nothing happens. -/
theorem openPeer_cases (site : Site) (c : ContextHandle) (config : PeerConfig) :
    ((∃ code, (site.openPeer c config).1 = .error code) ∧
        (site.openPeer c config).2.state = site.state) ∨
      ((site.openPeer c config).1 = .ok ⟨site.state.nextId⟩ ∧
        State.Gives site.state (site.openPeer c config).2.state ∧
        (site.openPeer c config).2.state.view ⟨site.state.nextId⟩ =
          some ⟨config.kind, .empty⟩) := by
  unfold openPeer
  cases hcontext : site.state.contexts.get? c with
  | none => exact .inl ⟨⟨_, rfl⟩, rfl⟩
  | some context =>
    dsimp only
    split
    · exact .inl ⟨⟨_, rfl⟩, rfl⟩
    · split
      · exact .inl ⟨⟨_, rfl⟩, rfl⟩
      · rename_i flow hflow
        refine .inr ⟨rfl, ⟨rfl, fun other hother => ?_⟩, ?_⟩
        · have hne : other ≠ ⟨site.state.nextId⟩ := fun heq => hother (congrArg PeerHandle.raw heq)
          rw [State.view, Table.get?_insert_of_ne _ _ hne, State.view]
        · rw [State.view, Table.get?_insert_self, Option.map_some, PeerState.view,
            PeerState.kind, kind_of_flow? hflow]
          rfl

/-- Receiving what was sent to a peer alters nothing that is seen of it. -/
theorem same_settle (site : Site) (h : PeerHandle) : State.Same site.state (site.settle h).state := by
  rcases site.settle_cases h with ⟨hsettle, -⟩ | ⟨q, machine, hq, hsettle⟩
  · rw [hsettle]
    exact .refl site.state
  · rw [hsettle]
    refine ⟨rfl, fun other => ?_⟩
    by_cases hother : other = h
    · subst hother
      rw [view_setPeer, PeerState.view, PeerState.kind, Flow.kind_collectFlow,
        State.view_eq_some_iff.mpr ⟨q, hq, rfl⟩]
      rfl
    · exact (altersOnly_setPeer hq machine _).others other hother

end Site

/-- A request that is not about a peer alters none. -/
theorem same_engine {r : Request} (hnone : r.peer? = none) (site : Site) :
    State.Same site.state (engine r site).2.state ∨
      State.Gives site.state (engine r site).2.state := by
  cases r with
  | contextOpen config => exact site.same_openContext config
  | registerEncoding c id encoding => exact .inl (site.same_registerEncoding c id encoding)
  | contextClose c => exact .inl (site.same_closeContext c)
  | peerOpen c config =>
    rcases site.openPeer_cases c config with ⟨-, hsame⟩ | ⟨-, hgives, -⟩
    · exact .inl ⟨congrArg State.nextId hsame, fun h => congrArg (State.view · h) hsame⟩
    · exact .inr hgives
  | _ => exact absurd hnone nofun

/-! ## Requests that are admitted -/

namespace Site

variable {site : Site} {h : PeerHandle} {q : PeerState} {slot : Slot} {i : Interface}

/-- The ledger of a peer notes how configuring a usable interface has ended. -/
theorem view_configure (hq : site.state.peers.get? h = some q) (husable : q.ledger.Usable slot i)
    (config : InterfaceConfig) :
    (site.configure h slot i config).2.state.view h = some ⟨q.kind,
      q.ledger.note slot i .configured (site.configure h slot i config).1.failure?⟩ := by
  obtain ⟨hwhole, hfree⟩ := PeerState.of_usable husable
  unfold configure
  simp only [hq, if_neg hwhole, hfree, Option.isSome_none, Bool.false_eq_true, false_or]
  by_cases haddresses : hasAddresses config = false
  · simp only [if_pos haddresses, setSlot, view_setPeer, PeerState.view, PeerState.ledger_spoil]
    rfl
  · simp only [if_neg haddresses, setSlot, view_setPeer, PeerState.view,
      PeerState.ledger_setConfig q config hfree]
    rfl

/-- The ledger of a receiver notes how binding a usable interface has ended. -/
theorem view_bind (hq : site.state.peers.get? h = some q) (hkind : q.kind = .receiver)
    (husable : q.ledger.Usable slot i) (endpoint : Endpoint) :
    (site.bind h slot i endpoint).2.state.view h = some ⟨q.kind,
      q.ledger.note slot i .linked (site.bind h slot i endpoint).1.failure?⟩ := by
  obtain ⟨hwhole, -⟩ := PeerState.of_usable husable
  unfold Site.bind
  cases hflow : q.flow with
  | sending fec stream packetizer =>
    rw [PeerState.kind, hflow] at hkind
    exact absurd hkind nofun
  | receiving playout =>
    simp only [hq, hflow, if_neg hwhole]
    cases hlink : bindLink site.machine (q.slot slot) i endpoint with
    | error code =>
      have hcode : code.isNegative = true := isProper_bindLink _ _ _ _ code hlink
      simp only [setSlot, view_setPeer, PeerState.view, PeerState.ledger_spoil]
      rw [Answer.failure?, Ledger.note, if_pos hcode]
      rfl
    | ok bound =>
      simp only [setSlot, view_setPeer, PeerState.view, PeerState.ledger_setLink]
      rfl

/-- The ledger of a sender notes how connecting a usable interface has ended. -/
theorem view_connect (hq : site.state.peers.get? h = some q) (hkind : q.kind = .sender)
    (husable : q.ledger.Usable slot i) (endpoint : Endpoint) :
    (site.connect h slot i endpoint).2.state.view h = some ⟨q.kind,
      q.ledger.note slot i .linked (site.connect h slot i endpoint).1.failure?⟩ := by
  obtain ⟨hwhole, -⟩ := PeerState.of_usable husable
  unfold connect
  cases hflow : q.flow with
  | receiving playout =>
    rw [PeerState.kind, hflow] at hkind
    exact absurd hkind nofun
  | sending fec stream packetizer =>
    simp only [hq, hflow, if_neg hwhole]
    cases hlink : connectLink site.machine fec (q.slot slot) i endpoint with
    | error code =>
      have hcode : code.isNegative = true := isProper_connectLink _ _ _ _ _ code hlink
      simp only [setSlot, view_setPeer, PeerState.view, PeerState.ledger_spoil]
      rw [Answer.failure?, Ledger.note, if_pos hcode]
      rfl
    | ok socket =>
      simp only [setSlot, view_setPeer, PeerState.view, PeerState.ledger_setLink]
      rfl

/-- A slot that is in use can be taken down, whatever has happened on it. -/
theorem unlink_of_ledger (hq : site.state.peers.get? h = some q) (hslot : q.ledger slot ≠ none) :
    (site.unlink h slot).1 = .ok () ∧
      (site.unlink h slot).2.state.view h = some ⟨q.kind, q.ledger.put slot none⟩ := by
  unfold unlink
  cases hs : q.slots.get? slot with
  | none => exact absurd (by rw [PeerState.ledger, hs, Option.map_none]) hslot
  | some s =>
    simp only [hq, hs]
    refine ⟨trivial, ?_⟩
    rw [view_setPeer, PeerState.view, PeerState.ledger_erase, PeerState.kind, Flow.kind_forget,
      Flow.kind_collectFlow, PeerState.kind]

/-- A peer that is there is closed, and nothing is seen of it afterwards. -/
theorem view_closePeer (hq : site.state.peers.get? h = some q) :
    (site.closePeer h).1 = .ok () ∧ (site.closePeer h).2.state.view h = none := by
  unfold closePeer
  simp only [hq]
  refine ⟨trivial, ?_⟩
  rw [State.view, Table.get?_erase_self, Option.map_none]

/-- Samples make no difference to slots. -/
theorem view_read (hq : site.state.peers.get? h = some q)
    (length : Nat) : (site.read h length).2.state.view h = some q.view := by
  have hsame : site.state.view h = some q.view := State.view_eq_some_iff.mpr ⟨q, hq, rfl⟩
  unfold read
  simp only [hq]
  by_cases hlength : length % q.channels ≠ 0
  · rw [if_pos hlength]
    exact hsame
  · rw [if_neg hlength]
    cases hflow : q.flow with
    | sending fec stream packetizer => exact hsame
    | receiving playout =>
      simp only [view_setPeer, PeerState.view, PeerState.kind, hflow]
      rfl

/-- Writing changes no slot, whatever the answer is. -/
theorem view_write (hq : site.state.peers.get? h = some q)
    (frame : Frame) : (site.write h frame).2.state.view h = some q.view := by
  have hsame : site.state.view h = some q.view := State.view_eq_some_iff.mpr ⟨q, hq, rfl⟩
  unfold write
  simp only [hq]
  by_cases hlength : frame.length % q.channels ≠ 0
  · rw [if_pos hlength]
    exact hsame
  · rw [if_neg hlength]
    cases hflow : q.flow with
    | receiving playout => exact hsame
    | sending fec stream packetizer =>
      simp only [view_setPeer, PeerState.view, PeerState.kind, hflow]
      rfl

end Site

/-- A request that its peer makes, and that is admitted by what is seen of it, has the effect of a
call on its ledger. -/
theorem view_engine {r : Request} {site : Site} {h : PeerHandle} {v : PeerView}
    (hown : r.peer? = some h) (hview : site.state.view h = some v)
    (hkind : ∀ k ∈ r.kind?, v.kind = k) (hadmits : v.ledger.Admits r) :
    let c : Call := ⟨r, (engine r site).1.failure?⟩
    (c.ClosesPeer ∧ (engine r site).2.state.view h = none) ∨
      (¬ c.ClosesPeer ∧ (engine r site).2.state.view h = some ⟨v.kind, v.ledger.after c⟩) := by
  obtain ⟨q, hq, rfl⟩ := State.view_eq_some_iff.mp hview
  cases r with
  | configure h' slot i config =>
    obtain rfl : h' = h := Option.some.inj hown
    exact .inr ⟨nofun, Site.view_configure hq hadmits config⟩
  | bind h' slot i endpoint =>
    obtain rfl : h' = h := Option.some.inj hown
    exact .inr ⟨nofun, Site.view_bind hq (hkind _ rfl) hadmits endpoint⟩
  | connect h' slot i endpoint =>
    obtain rfl : h' = h := Option.some.inj hown
    exact .inr ⟨nofun, Site.view_connect hq (hkind _ rfl) hadmits endpoint⟩
  -- What is admitted is a slot that the ledger has, so unlinking it cannot fail.
  | unlink h' slot =>
    obtain rfl : h' = h := Option.some.inj hown
    obtain ⟨hanswer, hafter⟩ := Site.unlink_of_ledger hq hadmits
    refine .inr ⟨nofun, ?_⟩
    have hfailure : (engine (.unlink h' slot) site).1.failure? = none := by
      rw [show (engine (.unlink h' slot) site).1 = .ok () from hanswer]
      rfl
    rw [hfailure]
    exact hafter
  | peerClose h' =>
    obtain rfl : h' = h := Option.some.inj hown
    obtain ⟨hanswer, hafter⟩ := Site.view_closePeer hq
    refine .inl ⟨⟨⟨h', rfl⟩, ?_⟩, hafter⟩
    rw [show (engine (.peerClose h') site).1 = .ok () from hanswer]
    rfl
  | read h' length =>
    obtain rfl : h' = h := Option.some.inj hown
    exact .inr ⟨nofun, Site.view_read hq length⟩
  | write h' frame =>
    obtain rfl : h' = h := Option.some.inj hown
    exact .inr ⟨nofun, Site.view_write hq frame⟩
  | _ => exact absurd hown nofun

/-! ## Fleets -/

namespace Fleet

/-- The state of an engine of a fleet. -/
def state (fleet : Fleet) (number : Nat) : State := (fleet.site number).state

theorem state_setSite_self (number : Nat) (site : Site) (fleet : Fleet) :
    (setSite number site fleet).state number = site.state := by
  rw [state, Fleet.site, setSite, Table.get?_insert_self, Option.getD_some]

/-- Setting one site of a fleet leaves the state of the others. -/
theorem state_setSite_of_ne {number other : Nat} (site : Site) (fleet : Fleet)
    (hother : other ≠ number) : (setSite number site fleet).state other = fleet.state other := by
  rw [state, Fleet.site, setSite, Table.get?_insert_of_ne _ _ hother, state, Fleet.site]

/-- A request to a fleet does to its engine what the engine does alone. -/
theorem state_engine_self (number : Nat) (r : Request) (fleet : Fleet) :
    (Fleet.engine number r fleet).2.state number =
      (Loopback.engine r (fleet.site number)).2.state :=
  state_setSite_self number _ fleet

/-- A request to one engine changes the state of no other. -/
theorem state_engine_of_ne {number other : Nat} (r : Request) (fleet : Fleet)
    (hother : other ≠ number) :
    (Fleet.engine number r fleet).2.state other = fleet.state other :=
  state_setSite_of_ne _ fleet hother

theorem same_foldl_settle (site : Site) (handles : List PeerHandle) :
    State.Same site.state (handles.foldl Site.settle site).state := by
  induction handles generalizing site with
  | nil => exact .refl site.state
  | cons h handles ih => exact (site.same_settle h).trans (ih (site.settle h))

/-- Taking what was sent changes nothing that is seen of peers. -/
theorem same_settle (fleet : Fleet) (number : Nat) :
    State.Same (fleet.state number) (fleet.settle.state number) := by
  unfold settle
  generalize fleet.engines.keys = numbers
  induction numbers generalizing fleet with
  | nil => exact .refl (fleet.state number)
  | cons first numbers ih =>
    rw [List.foldl_cons]
    refine State.Same.trans ?_ (ih _)
    by_cases hfirst : number = first
    · subst hfirst
      rw [state_setSite_self]
      exact same_foldl_settle (fleet.site number) _
    · rw [state_setSite_of_ne _ fleet hfirst]
      exact .refl (fleet.state number)

end Fleet

end AudioLink.Loopback
