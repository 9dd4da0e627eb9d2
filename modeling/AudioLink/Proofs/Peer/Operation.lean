import AudioLink.Proofs.Peer.Admission

/-
What one operation of a peer can do.

An operation asks the engine nothing and changes nothing, or it makes exactly one call. `Peer.Step`
says of a call which peer can make it and what becomes of the peer by its outcome; nothing else is
used of an operation anywhere, but for the endpoint that a binding yields. The engine is arbitrary,
and so are its failure codes.
-/
set_option autoImplicit false

namespace AudioLink

/-! ## Operations as data -/

/-- An operation of a peer with its arguments. -/
inductive PeerOp where
  | configure (slot : Slot) (interface : Interface) (config : InterfaceConfig)
  | bind (slot : Slot) (interface : Interface) (endpoint : Option Endpoint)
  | connect (slot : Slot) (interface : Interface) (endpoint : Option Endpoint)
  | unlink (slot : Slot)
  | readFrame (length : Option Nat)
  | writeFrame (frame : Option Frame)
  | close

namespace PeerOp

/-- The kind of peer that has an operation, if not both kinds have it. -/
def kind? : PeerOp → Option PeerKind
  | bind _ _ _ | readFrame _ => some .receiver
  | connect _ _ _ | writeFrame _ => some .sender
  | _ => none

variable {σ : Type}

/-- What an operation makes of a peer and of the state of the engine. -/
def run (engine : Engine σ) (op : PeerOp) (p : Peer) (s : σ) : Peer × σ :=
  match op with
  | configure slot interface config => (p.configure engine slot interface config s).2
  | bind slot interface endpoint => (p.bind engine slot interface endpoint s).2
  | connect slot interface endpoint => (p.connect engine slot interface endpoint s).2
  | unlink slot => (p.unlink engine slot s).2
  | readFrame length => (p, (p.readFrame engine length s).2)
  | writeFrame frame => (p, (p.writeFrame engine frame s).2)
  | close => (p.close engine s).2

end PeerOp

/-- The kind of peer that makes a request, if not both kinds make it. -/
def Request.kind? : Request → Option PeerKind
  | bind _ _ _ _ | read _ _ => some .receiver
  | connect _ _ _ _ | write _ _ => some .sender
  | _ => none

namespace Peer

/-- A peer makes a call by its handle, and becomes another by the outcome. -/
structure Step (h : PeerHandle) (p : Peer) (c : Call) (p' : Peer) : Prop where
  isOpen : p.handle = some h
  own : c.request.peer? = some h
  /-- The call is one that is made. -/
  admitted : p.slots.ledger.Admits c.request
  /-- The slot table follows the call. -/
  ledger : p'.slots.ledger = p.slots.ledger.after c
  kind : p'.kind = p.kind
  /-- It is closed by its close, and by nothing else. -/
  handle : (¬ c.ClosesPeer ∧ p'.handle = some h) ∨ (c.ClosesPeer ∧ p'.handle = none)

/-! ## What is noted after a call -/

/-- What an answer does to the table is what it does to the ledger. -/
theorem ledger_note {α : Type} (p : Peer) (slot : Slot) (i : Interface) (state : InterfaceState)
    (call : EngineCall) (answer : Answer α) :
    (p.note slot i state (.ofAnswer call answer)).slots.ledger =
      p.slots.ledger.note slot i state answer.failure? := by
  cases answer with
  | ok a => exact SlotTable.ledger_reach _ _ _ _
  | error code =>
    rw [Outcome.ofAnswer, Answer.failure?, Ledger.note]
    by_cases hcode : code.isNegative = true
    · rw [if_pos hcode, if_pos hcode]
      exact SlotTable.ledger_spoil _ _
    · rw [if_neg hcode, if_neg hcode]
      rfl

/-- Noting an outcome closes nothing. -/
theorem handle_note {α : Type} (p : Peer) (slot : Slot) (i : Interface) (state : InterfaceState)
    (outcome : Outcome α) : (p.note slot i state outcome).handle = p.handle := by
  cases outcome <;> rfl

/-- Noting an outcome makes no other kind of peer. -/
theorem kind_note {α : Type} (p : Peer) (slot : Slot) (i : Interface) (state : InterfaceState)
    (outcome : Outcome α) : (p.note slot i state outcome).kind = p.kind := by
  cases outcome <;> rfl

/-- A call on an interface, if it is admitted, is noted as the ledger says. -/
theorem step_note {α : Type} {p : Peer} {h : PeerHandle} {r : Request} {slot : Slot}
    {i : Interface} {state : InterfaceState} (call : EngineCall) (answer : Answer α)
    (hopen : p.handle = some h) (hown : r.peer? = some h)
    (hadmits : p.slots.ledger.Admits r) (hclose : ∀ h', r ≠ .peerClose h')
    (hafter : ∀ failure, p.slots.ledger.after ⟨r, failure⟩
      = p.slots.ledger.note slot i state failure) :
    p.Step h ⟨r, answer.failure?⟩ (p.note slot i state (.ofAnswer call answer)) where
  isOpen := hopen
  own := hown
  admitted := hadmits
  ledger := by rw [ledger_note, hafter]
  kind := kind_note p slot i state _
  handle := .inl ⟨fun hcloses => hcloses.1.elim hclose, by rw [handle_note, hopen]⟩

/-- A call that is not noted, and closes nothing, leaves the peer as it is. -/
theorem step_self {p : Peer} {h : PeerHandle} {c : Call} (hopen : p.handle = some h)
    (hown : c.request.peer? = some h) (hadmits : p.slots.ledger.Admits c.request)
    (hclose : ¬ c.ClosesPeer) (hafter : p.slots.ledger.after c = p.slots.ledger) :
    p.Step h c p :=
  ⟨hopen, hown, hadmits, hafter.symm, rfl, .inl ⟨hclose, hopen⟩⟩

/-! ## One operation -/

variable {σ : Type}

/-- A peer and a state of the engine become the given ones without a call, or by one call, of a
request that peers of this kind make. -/
def Moves (engine : Engine σ) (kind : Option PeerKind) (p : Peer) (s : σ) (result : Peer × σ) :
    Prop :=
  result = (p, s) ∨
    ∃ h r, r.kind? = kind ∧ result.2 = (engine r s).2 ∧
      p.Step h ⟨r, (engine r s).1.failure?⟩ result.1

variable (engine : Engine σ) (p : Peer) (s : σ)

/-- Configuring is one admitted call at most, and the table follows it. -/
theorem moves_configure (slot : Slot) (i : Interface) (config : InterfaceConfig) :
    p.Moves engine none s (p.configure engine slot i config s).2 := by
  rw [configure]
  cases hok : p.admitConfigure slot i config with
  | error e => exact .inl rfl
  | ok h =>
    obtain ⟨hopen, husable, -⟩ := (p.screens_admitConfigure slot i config).good_of_ok hok
    refine .inr ⟨h, .configure h slot i config, rfl, rfl, ?_⟩
    exact step_note _ _ hopen rfl husable nofun fun _ => rfl

/-- Binding is one admitted call at most, of a receiver. -/
theorem moves_bind (slot : Slot) (i : Interface) (endpoint : Option Endpoint) :
    p.Moves engine (some .receiver) s (p.bind engine slot i endpoint s).2 := by
  rw [Peer.bind]
  cases hok : p.admitLink slot i endpoint with
  | error e => exact .inl rfl
  | ok admitted =>
    obtain ⟨hopen, husable, -⟩ := (p.screens_admitLink slot i endpoint).good_of_ok hok
    refine .inr ⟨admitted.1, .bind admitted.1 slot i admitted.2, rfl, rfl, ?_⟩
    exact step_note _ _ hopen rfl husable nofun fun _ => rfl

/-- Connecting is one admitted call at most, of a sender. -/
theorem moves_connect (slot : Slot) (i : Interface) (endpoint : Option Endpoint) :
    p.Moves engine (some .sender) s (p.connect engine slot i endpoint s).2 := by
  rw [connect]
  cases hok : p.admitLink slot i endpoint with
  | error e => exact .inl rfl
  | ok admitted =>
    obtain ⟨hopen, husable, -⟩ := (p.screens_admitLink slot i endpoint).good_of_ok hok
    refine .inr ⟨admitted.1, .connect admitted.1 slot i admitted.2, rfl, rfl, ?_⟩
    exact step_note _ _ hopen rfl husable nofun fun _ => rfl

/-- Reading is one call at most, of a receiver, and the table stays. -/
theorem moves_readFrame (length : Option Nat) :
    p.Moves engine (some .receiver) s (p, (p.readFrame engine length s).2) := by
  rw [readFrame]
  cases hok : p.admitFrame length with
  | error e => exact .inl rfl
  | ok admitted =>
    by_cases hlength : admitted.2 = 0
    · exact .inl (by simp only [if_pos hlength])
    · simp only [if_neg hlength]
      refine .inr ⟨admitted.1, .read admitted.1 admitted.2, rfl, rfl, ?_⟩
      obtain ⟨hopen, -⟩ := (p.screens_admitFrame length).good_of_ok hok
      exact step_self hopen rfl trivial nofun rfl

/-- Writing is one call at most, of a sender, and the table stays. -/
theorem moves_writeFrame (frame : Option Frame) :
    p.Moves engine (some .sender) s (p, (p.writeFrame engine frame s).2) := by
  rw [writeFrame]
  cases hok : p.admitFrame frame with
  | error e => exact .inl rfl
  | ok admitted =>
    by_cases hframe : admitted.2 = []
    · exact .inl (by simp only [if_pos hframe])
    · simp only [if_neg hframe]
      refine .inr ⟨admitted.1, .write admitted.1 admitted.2, rfl, rfl, ?_⟩
      obtain ⟨hopen, -⟩ := (p.screens_admitFrame frame).good_of_ok hok
      exact step_self hopen rfl trivial nofun rfl

/-- Unlinking is one admitted call at most, and the slot is erased if it succeeds. -/
theorem moves_unlink (slot : Slot) : p.Moves engine none s (p.unlink engine slot s).2 := by
  rw [unlink]
  cases hok : p.admitUnlink slot with
  | error e => exact .inl rfl
  | ok h =>
    obtain ⟨hopen, hslot⟩ := (p.screens_admitUnlink slot).good_of_ok hok
    refine .inr ⟨h, .unlink h slot, rfl, ?_⟩
    cases hanswer : (engine (.unlink h slot) s).1 with
    | ok u =>
      simp only [hanswer, Outcome.ofAnswer]
      exact ⟨trivial, hopen, rfl, hslot, SlotTable.ledger_erase _ _, rfl, .inl ⟨nofun, hopen⟩⟩
    | error code =>
      -- Whether the code keeps the contract makes no difference to the peer.
      have hself : p.Step h ⟨.unlink h slot, some code⟩ p :=
        step_self hopen rfl hslot nofun rfl
      by_cases hcode : code.isNegative = true
      · simp only [hanswer, Outcome.ofAnswer, if_pos hcode]
        exact ⟨trivial, hself⟩
      · simp only [hanswer, Outcome.ofAnswer, if_neg hcode]
        exact ⟨trivial, hself⟩

/-- What unlinking gives, once the engine has taken the slot down. -/
theorem unlink_of_ok {h : PeerHandle} {slot : Slot} (hopen : p.handle = some h)
    (hslot : p.slots.contains slot = true) (hok : (engine (.unlink h slot) s).1 = .ok ()) :
    p.unlink engine slot s =
      (.ok (), { p with slots := p.slots.erase slot }, (engine (.unlink h slot) s).2) := by
  have hadmit : p.admitUnlink slot = .ok h := by
    rw [admitUnlink, requireOpen, hopen]
    exact if_pos hslot
  rw [unlink, hadmit]
  simp only [hok, Outcome.ofAnswer]

/-- Closing is one call at most, and the table is emptied if it succeeds. -/
theorem moves_close : p.Moves engine none s (p.close engine s).2 := by
  rw [close]
  cases hopen : p.handle with
  | none => exact .inl rfl
  | some h =>
    refine .inr ⟨h, .peerClose h, rfl, ?_⟩
    cases hanswer : (engine (.peerClose h) s).1 with
    | ok u =>
      simp only [hanswer, Outcome.ofAnswer]
      exact ⟨trivial, hopen, rfl, trivial, rfl, rfl, .inr ⟨⟨⟨h, rfl⟩, rfl⟩, rfl⟩⟩
    | error code =>
      have hself : p.Step h ⟨.peerClose h, some code⟩ p :=
        step_self hopen rfl trivial (fun hcloses => absurd hcloses.2 nofun) rfl
      by_cases hcode : code.isNegative = true
      · simp only [hanswer, Outcome.ofAnswer, if_pos hcode]
        exact ⟨trivial, hself⟩
      · simp only [hanswer, Outcome.ofAnswer, if_neg hcode]
        exact ⟨trivial, hself⟩

/-- Dropping a peer closes it if it can. -/
theorem moves_dispose : p.Moves engine none s (p.dispose engine s) := by
  rw [dispose]
  cases hopen : p.handle with
  | none => exact .inl rfl
  | some h =>
    refine .inr ⟨h, .peerClose h, rfl, ?_⟩
    rcases hanswer : engine (.peerClose h) s with ⟨code | u, s'⟩
    · have hself : p.Step h ⟨.peerClose h, some code⟩ p :=
        step_self hopen rfl trivial (fun hcloses => absurd hcloses.2 nofun) rfl
      simp only [hanswer]
      exact ⟨trivial, hself⟩
    · simp only [hanswer]
      exact ⟨trivial, hopen, rfl, trivial, rfl, rfl, .inr ⟨⟨⟨h, rfl⟩, rfl⟩, rfl⟩⟩

end Peer

/-- An operation asks nothing and changes nothing, or it makes one call. -/
theorem PeerOp.moves_run {σ : Type} (engine : Engine σ) (op : PeerOp) (p : Peer) (s : σ) :
    p.Moves engine op.kind? s (op.run engine p s) := by
  cases op with
  | configure slot i config => exact p.moves_configure engine s slot i config
  | bind slot i endpoint => exact p.moves_bind engine s slot i endpoint
  | connect slot i endpoint => exact p.moves_connect engine s slot i endpoint
  | unlink slot => exact p.moves_unlink engine s slot
  | readFrame length => exact p.moves_readFrame engine s length
  | writeFrame frame => exact p.moves_writeFrame engine s frame
  | close => exact p.moves_close engine s

/-! ## What a binding yields -/

/-- A mapped outcome is a success if the outcome is. -/
theorem Outcome.map_eq_ok_iff {α β : Type} {f : α → β} {outcome : Outcome α} {b : β} :
    outcome.map f = .ok b ↔ ∃ a, outcome = .ok a ∧ f a = b := by
  cases outcome <;> simp [map]

/-- A binding that works was asked for an endpoint with a URI. It changes the port of the endpoint,
and nothing else of it. -/
theorem Peer.endpoint_of_bind {σ : Type} {engine : Engine σ} {p : Peer} {s : σ} {slot : Slot}
    {i : Interface} {endpoint : Option Endpoint} {bound : Endpoint}
    (hok : (p.bind engine slot i endpoint s).1 = .ok bound) :
    ∃ e port, endpoint = some e ∧ e.HasUri ∧ bound = { e with port } := by
  rw [Peer.bind] at hok
  cases hadmitted : p.admitLink slot i endpoint with
  | error e =>
    rw [hadmitted] at hok
    cases hok
  | ok admitted =>
    rw [hadmitted] at hok
    obtain ⟨answered, -, hbound⟩ := Outcome.map_eq_ok_iff.mp hok
    obtain ⟨-, -, hgiven, huri⟩ := (p.screens_admitLink slot i endpoint).good_of_ok hadmitted
    exact ⟨admitted.2, answered.port, hgiven, huri, hbound.symm⟩

end AudioLink
