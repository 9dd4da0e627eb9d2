import AudioLink.Proofs.Peer.Replay

/-
Slots of a peer do not get in each other's way.

Two callers share a peer and work on different slots of it. What an operation does to a slot is
settled by three things: whether the peer is open, what is recorded of this slot, and what the engine
answers. So two runs in which these three agree at a slot go on agreeing there, whatever else
happens in between on other slots; the runs that are compared are an interleaving of two sequences
and one of the two sequences alone. About the engine it has to be known that its answers for a slot
come from what it was asked about this slot before, and nothing else is assumed.
-/
set_option autoImplicit false

namespace AudioLink

/-! ## Operations on slots -/

/-- The slot that a request is about. -/
def Request.slot? : Request → Option Slot
  | configure _ slot _ _ | bind _ slot _ _ | connect _ slot _ _ | unlink _ slot => some slot
  | _ => none

/-- The slot that an operation is about. -/
def PeerOp.slot? : PeerOp → Option Slot
  | configure slot _ _ | bind slot _ _ | connect slot _ _ | unlink slot => some slot
  | _ => none

/-- What a caller has in hand after an operation: how it ended, and the endpoint that was passed in,
with the port that was written back to it. -/
structure Reply where
  outcome : Outcome Unit
  endpoint : Option Endpoint := none
  deriving DecidableEq

variable {σ : Type}

namespace PeerOp

/-- What the caller of an operation gets. -/
def reply (engine : Engine σ) (op : PeerOp) (p : Peer) (s : σ) : Reply :=
  match op with
  | configure slot interface config => ⟨(p.configure engine slot interface config s).1, none⟩
  | bind slot interface endpoint =>
    let outcome := (p.bind engine slot interface endpoint s).1
    -- An endpoint is written to only if the binding worked.
    ⟨outcome.map fun _ => (), outcome.value?.or endpoint⟩
  | connect slot interface endpoint => ⟨(p.connect engine slot interface endpoint s).1, endpoint⟩
  | unlink slot => ⟨(p.unlink engine slot s).1, none⟩
  | readFrame length => ⟨(p.readFrame engine length s).1.map fun _ => (), none⟩
  | writeFrame frame => ⟨(p.writeFrame engine frame s).1, none⟩
  | close => ⟨(p.close engine s).1, none⟩

/-- What the caller of a sequence of operations gets. -/
def replies (engine : Engine σ) : List PeerOp → Peer → σ → List Reply
  | [], _, _ => []
  | op :: ops, p, s =>
    op.reply engine p s :: replies engine ops (op.run engine p s).1 (op.run engine p s).2

end PeerOp

/-! ## Two callers -/

/-- Which of two callers comes next. -/
inductive Turn where
  | first
  | second
  deriving DecidableEq

namespace Turn

/-- The operations of one caller. -/
def opsOf (turn : Turn) (turns : List (Turn × PeerOp)) : List PeerOp :=
  (turns.filter fun x => x.1 = turn).map (·.2)

/-- What one caller gets while both are at work. -/
def repliesTo (engine : Engine σ) (turn : Turn) : List (Turn × PeerOp) → Peer → σ → List Reply
  | [], _, _ => []
  | x :: turns, p, s =>
    let rest := repliesTo engine turn turns (x.2.run engine p s).1 (x.2.run engine p s).2
    if x.1 = turn then x.2.reply engine p s :: rest else rest

/-- Two sequences of operations, put into one in which each keeps its order. -/
structure Interleaves (xs ys : List PeerOp) (turns : List (Turn × PeerOp)) : Prop where
  first : Turn.first.opsOf turns = xs
  second : Turn.second.opsOf turns = ys

end Turn

/-! ## Engines that keep slots apart -/

namespace Engine

/-- The state of an engine after some requests. -/
def after (engine : Engine σ) (requests : List Request) (s : σ) : σ :=
  requests.foldl (fun s r => (engine r s).2) s

/-- The last request meets the engine as the earlier ones have left it. -/
theorem after_concat (engine : Engine σ) (requests : List Request) (r : Request) (s : σ) :
    engine.after (requests ++ [r]) s = (engine r (engine.after requests s)).2 := by
  rw [after, List.foldl_append]
  rfl

/-- A history in which one peer has worked on its slots and has not been closed. -/
def IsSlotWork (h : PeerHandle) (past : List Request) : Prop :=
  ∀ r ∈ past, r.peer? = some h ∧ r.slot? ≠ none

/-- What was asked about one slot. -/
def about (slot : Slot) (past : List Request) : List Request :=
  past.filter fun r => r.slot? = some slot

/-- While a peer stays open, the answers to it about one slot depend only on what was asked about this
slot before. -/
def KeepsSlotsApart (engine : Engine σ) (h : PeerHandle) (s : σ) : Prop :=
  ∀ slot past past', IsSlotWork h past → IsSlotWork h past' → about slot past = about slot past' →
    ∀ r : Request, r.peer? = some h → r.slot? = some slot →
      (engine r (engine.after past s)).1 = (engine r (engine.after past' s)).1

theorem isSlotWork_nil (h : PeerHandle) : IsSlotWork h [] := by
  intro r hr
  exact absurd hr List.not_mem_nil

/-- One more request about a slot of the peer keeps the past slot work. -/
theorem IsSlotWork.concat {h : PeerHandle} {past : List Request} {r : Request} {slot : Slot}
    (hpast : IsSlotWork h past) (hpeer : r.peer? = some h) (hslot : r.slot? = some slot) :
    IsSlotWork h (past ++ [r]) := by
  intro q hq
  rcases List.mem_append.mp hq with hq | hq
  · exact hpast q hq
  · rw [List.mem_singleton.mp hq, hslot]
    exact ⟨hpeer, nofun⟩

/-- The last request is about one slot only. -/
theorem about_concat (slot : Slot) (past : List Request) (r : Request) :
    about slot (past ++ [r]) = about slot past ++ if r.slot? = some slot then [r] else [] := by
  rw [about, List.filter_append, List.filter_cons, List.filter_nil]
  simp only [decide_eq_true_eq, about]

end Engine

/-! ## Peers that are alike at a slot -/

namespace Peer

/-- Two peers with the same handle and the same record of one slot. -/
structure Like (slot : Slot) (p q : Peer) : Prop where
  handle : p.handle = q.handle
  record : p.slots.get? slot = q.slots.get? slot

namespace Like

variable {slot : Slot} {p q : Peer}

theorem refl (slot : Slot) (p : Peer) : p.Like slot p := ⟨rfl, rfl⟩

theorem symm (hlike : p.Like slot q) : q.Like slot p := ⟨hlike.handle.symm, hlike.record.symm⟩

theorem trans {q' : Peer} (hlike : p.Like slot q) (hlike' : q.Like slot q') : p.Like slot q' :=
  ⟨hlike.handle.trans hlike'.handle, hlike.record.trans hlike'.record⟩

/-- Peers that agree on a slot have the same record of it, present or not. -/
theorem record_eq (hlike : p.Like slot q) : p.slots.record slot = q.slots.record slot := by
  rw [SlotTable.record, SlotTable.record, hlike.record]

/-! Peers that are alike at a slot admit the same operations on it. -/

/-- Peers that agree on a slot are open together. -/
theorem requireOpen_eq (hlike : p.Like slot q) : p.requireOpen = q.requireOpen := by
  rw [requireOpen, requireOpen, hlike.handle]

/-- Peers that agree on a slot find its interfaces usable together. -/
theorem checkUsable_eq (hlike : p.Like slot q) (i : Interface) :
    p.slots.checkUsable slot i = q.slots.checkUsable slot i := by
  rw [SlotTable.checkUsable, SlotTable.checkUsable, hlike.record_eq]

/-- Peers that agree on a slot admit the same options. -/
theorem admitConfigure_eq (hlike : p.Like slot q) (i : Interface) (config : InterfaceConfig) :
    p.admitConfigure slot i config = q.admitConfigure slot i config := by
  rw [admitConfigure, admitConfigure, hlike.requireOpen_eq, hlike.checkUsable_eq i]

/-- Peers that agree on a slot admit the same links. -/
theorem admitLink_eq (hlike : p.Like slot q) (i : Interface) (endpoint : Option Endpoint) :
    p.admitLink slot i endpoint = q.admitLink slot i endpoint := by
  rw [admitLink, admitLink, hlike.requireOpen_eq, hlike.checkUsable_eq i]

/-- Peers that agree on a slot admit unlinking it together. -/
theorem admitUnlink_eq (hlike : p.Like slot q) : p.admitUnlink slot = q.admitUnlink slot := by
  rw [admitUnlink, admitUnlink, hlike.requireOpen_eq, Table.contains, hlike.record, Table.contains]

/-! They note the same of a call, and they forget the same. -/

/-- Peers that agree on a slot agree on it after the same outcome. -/
theorem note {α : Type} (hlike : p.Like slot q) (i : Interface) (state : InterfaceState)
    (outcome : Outcome α) :
    (p.note slot i state outcome).Like slot (q.note slot i state outcome) := by
  refine ⟨by rw [handle_note, handle_note, hlike.handle], ?_⟩
  cases outcome with
  | ok a =>
    simp only [Peer.note, SlotTable.reach, Table.get?_insert_self, hlike.record_eq]
  | failed e =>
    simp only [Peer.note, SlotTable.spoil, Table.get?_insert_self, hlike.record_eq]
  | breach call code => exact hlike.record

/-- Peers that agree on a slot agree on it after it is erased. -/
theorem erase (hlike : p.Like slot q) :
    Peer.Like slot { p with slots := p.slots.erase slot } { q with slots := q.slots.erase slot } :=
  ⟨hlike.handle, by rw [Table.get?_erase_self, Table.get?_erase_self]⟩

end Like

/-- Peers of one kind that are alike at every slot are equal. -/
theorem eq_of_like {p q : Peer} (hkind : p.kind = q.kind) (hlike : ∀ slot, p.Like slot q) :
    p = q := by
  have hhandle : p.handle = q.handle := (hlike ⟨0⟩).handle
  have hslots : p.slots = q.slots := Table.ext_get? fun slot => (hlike slot).record
  cases p
  cases q
  simp only at hkind hhandle hslots
  rw [hkind, hhandle, hslots]

/-! ## What an operation leaves alone -/

/-- A peer becomes another one that differs from it at most in one slot. -/
structure Leaves (slot : Slot) (p p' : Peer) : Prop where
  kind : p'.kind = p.kind
  handle : p'.handle = p.handle
  others : ∀ other, other ≠ slot → p'.slots.get? other = p.slots.get? other

theorem Leaves.refl (slot : Slot) (p : Peer) : p.Leaves slot p := ⟨rfl, rfl, fun _ _ => rfl⟩

/-- What leaves every other slot makes a peer that agrees with the old one there. -/
theorem Leaves.like {slot other : Slot} {p p' : Peer} (hleaves : p.Leaves slot p')
    (hother : other ≠ slot) : p'.Like other p :=
  ⟨hleaves.handle, hleaves.others other hother⟩

/-- Noting an outcome concerns one slot. -/
theorem leaves_note {α : Type} (p : Peer) (slot : Slot) (i : Interface) (state : InterfaceState)
    (outcome : Outcome α) : p.Leaves slot (p.note slot i state outcome) := by
  refine ⟨kind_note .., handle_note .., fun other hother => ?_⟩
  cases outcome with
  | ok a => exact Table.get?_insert_of_ne _ _ hother
  | failed e => exact Table.get?_insert_of_ne _ _ hother
  | breach call code => rfl

/-- Unlinking concerns one slot. -/
theorem leaves_unlink (engine : Engine σ) (p : Peer) (slot : Slot) (s : σ) :
    p.Leaves slot (p.unlink engine slot s).2.1 := by
  rw [unlink]
  cases p.admitUnlink slot with
  | error e => exact .refl slot p
  | ok h =>
    dsimp only
    split
    · exact ⟨rfl, rfl, fun _ hother => Table.get?_erase_of_ne _ hother⟩
    · exact .refl slot p

end Peer

/-- An operation on one slot changes nothing else of a peer. -/
theorem PeerOp.leaves_run (engine : Engine σ) {op : PeerOp} {slot : Slot}
    (hslot : op.slot? = some slot) (p : Peer) (s : σ) : p.Leaves slot (op.run engine p s).1 := by
  cases op with
  | configure slot' i config =>
    cases hslot
    rw [run, Peer.configure]
    cases p.admitConfigure slot i config with
    | error e => exact .refl slot p
    | ok h => exact p.leaves_note slot i .configured _
  | bind slot' i endpoint =>
    cases hslot
    rw [run, Peer.bind]
    cases p.admitLink slot i endpoint with
    | error e => exact .refl slot p
    | ok admitted => exact p.leaves_note slot i .linked _
  | connect slot' i endpoint =>
    cases hslot
    rw [run, Peer.connect]
    cases p.admitLink slot i endpoint with
    | error e => exact .refl slot p
    | ok admitted => exact p.leaves_note slot i .linked _
  | unlink slot' =>
    cases hslot
    exact p.leaves_unlink engine slot s
  | _ => cases hslot

/-! ## One operation in two runs -/

/-- What an operation on a slot does to two peers on two states of an engine: it asks nothing of
either, or it asks the same of both, and then all comes down to whether the answers are equal. -/
inductive Together (engine : Engine σ) (slot : Slot) (op : PeerOp) (p : Peer) (s : σ) (q : Peer)
    (t : σ) : Prop where
  | still (first : op.run engine p s = (p, s)) (second : op.run engine q t = (q, t))
      (reply : op.reply engine p s = op.reply engine q t)
  | asked (h : PeerHandle) (r : Request) (isOpen : p.handle = some h) (own : r.peer? = some h)
      (about : r.slot? = some slot) (first : (op.run engine p s).2 = (engine r s).2)
      (second : (op.run engine q t).2 = (engine r t).2)
      (settled : (engine r s).1 = (engine r t).1 →
        op.reply engine p s = op.reply engine q t ∧
          (op.run engine p s).1.Like slot (op.run engine q t).1)

namespace Peer.Like

variable {slot : Slot} {p q : Peer} (hlike : p.Like slot q) (engine : Engine σ) (s t : σ)

include hlike

/-- Two peers that agree on a slot are configured to the same effect there. -/
theorem together_configure (i : Interface) (config : InterfaceConfig) :
    Together engine slot (.configure slot i config) p s q t := by
  have hadmit := hlike.admitConfigure_eq i config
  cases hok : q.admitConfigure slot i config with
  | error e =>
    rw [hok] at hadmit
    apply Together.still <;> simp only [PeerOp.run, PeerOp.reply, configure, hadmit, hok]
  | ok h =>
    rw [hok] at hadmit
    obtain ⟨hopen, -⟩ := (p.screens_admitConfigure slot i config).good_of_ok hadmit
    refine .asked h (.configure h slot i config) hopen rfl rfl ?_ ?_ fun hanswer => ?_
    · simp only [PeerOp.run, configure, hadmit]
    · simp only [PeerOp.run, configure, hok]
    · simp only [PeerOp.run, PeerOp.reply, configure, hadmit, hok, hanswer, true_and]
      exact hlike.note i .configured _

/-- Two peers that agree on a slot are bound to the same effect there. -/
theorem together_bind (i : Interface) (endpoint : Option Endpoint) :
    Together engine slot (.bind slot i endpoint) p s q t := by
  have hadmit := hlike.admitLink_eq i endpoint
  cases hok : q.admitLink slot i endpoint with
  | error e =>
    rw [hok] at hadmit
    apply Together.still <;> simp only [PeerOp.run, PeerOp.reply, Peer.bind, hadmit, hok]
  | ok admitted =>
    rw [hok] at hadmit
    obtain ⟨hopen, -⟩ := (p.screens_admitLink slot i endpoint).good_of_ok hadmit
    refine .asked admitted.1 (.bind admitted.1 slot i admitted.2) hopen rfl rfl ?_ ?_
      fun hanswer => ?_
    · simp only [PeerOp.run, Peer.bind, hadmit]
    · simp only [PeerOp.run, Peer.bind, hok]
    · simp only [PeerOp.run, PeerOp.reply, Peer.bind, hadmit, hok, hanswer, true_and]
      exact hlike.note i .linked _

/-- Two peers that agree on a slot are connected to the same effect there. -/
theorem together_connect (i : Interface) (endpoint : Option Endpoint) :
    Together engine slot (.connect slot i endpoint) p s q t := by
  have hadmit := hlike.admitLink_eq i endpoint
  cases hok : q.admitLink slot i endpoint with
  | error e =>
    rw [hok] at hadmit
    apply Together.still <;> simp only [PeerOp.run, PeerOp.reply, connect, hadmit, hok]
  | ok admitted =>
    rw [hok] at hadmit
    obtain ⟨hopen, -⟩ := (p.screens_admitLink slot i endpoint).good_of_ok hadmit
    refine .asked admitted.1 (.connect admitted.1 slot i admitted.2) hopen rfl rfl ?_ ?_
      fun hanswer => ?_
    · simp only [PeerOp.run, connect, hadmit]
    · simp only [PeerOp.run, connect, hok]
    · simp only [PeerOp.run, PeerOp.reply, connect, hadmit, hok, hanswer, true_and]
      exact hlike.note i .linked _

/-- Two peers that agree on a slot are unlinked to the same effect there. -/
theorem together_unlink : Together engine slot (.unlink slot) p s q t := by
  have hadmit := hlike.admitUnlink_eq
  cases hok : q.admitUnlink slot with
  | error e =>
    rw [hok] at hadmit
    apply Together.still <;> simp only [PeerOp.run, PeerOp.reply, unlink, hadmit, hok]
  | ok h =>
    rw [hok] at hadmit
    obtain ⟨hopen, -⟩ := (p.screens_admitUnlink slot).good_of_ok hadmit
    refine .asked h (.unlink h slot) hopen rfl rfl ?_ ?_ fun hanswer => ?_
    · simp only [PeerOp.run, unlink, hadmit]
      split <;> rfl
    · simp only [PeerOp.run, unlink, hok]
      split <;> rfl
    · simp only [PeerOp.run, PeerOp.reply, unlink, hadmit, hok, hanswer]
      split
      · exact ⟨rfl, hlike.erase⟩
      · exact ⟨rfl, hlike⟩

/-- An operation on a slot does the same to two peers that are alike there, if the engine answers the
same. -/
theorem together {op : PeerOp} (hslot : op.slot? = some slot) :
    Together engine slot op p s q t := by
  cases op with
  | configure slot' i config =>
    cases hslot
    exact hlike.together_configure engine s t i config
  | bind slot' i endpoint =>
    cases hslot
    exact hlike.together_bind engine s t i endpoint
  | connect slot' i endpoint =>
    cases hslot
    exact hlike.together_connect engine s t i endpoint
  | unlink slot' =>
    cases hslot
    exact hlike.together_unlink engine s t
  | _ => cases hslot

end Peer.Like

/-! ## Two runs at one slot -/

/-- Two runs that have come to the same at one slot: the peers are alike there, and they have asked
the engine the same about it. -/
structure SameAt (engine : Engine σ) (s₀ : σ) (slot : Slot) (p : Peer) (s : σ) (q : Peer) (t : σ) :
    Prop where
  like : p.Like slot q
  past : ∃ past past', s = engine.after past s₀ ∧ t = engine.after past' s₀ ∧
    (∀ h, p.handle = some h → Engine.IsSlotWork h past ∧ Engine.IsSlotWork h past') ∧
    Engine.about slot past = Engine.about slot past'

namespace SameAt

variable {engine : Engine σ} {s₀ s t : σ} {slot other : Slot} {p q : Peer} {op : PeerOp}

/-- Two runs from one state start at the same. -/
theorem refl (p : Peer) : SameAt engine s₀ slot p s₀ p s₀ :=
  ⟨.refl slot p, [], [], rfl, rfl, fun h _ => ⟨Engine.isSlotWork_nil h, Engine.isSlotWork_nil h⟩, rfl⟩

theorem symm (hsame : SameAt engine s₀ slot p s q t) : SameAt engine s₀ slot q t p s := by
  obtain ⟨hlike, past, past', hs, ht, hwork, habout⟩ := hsame
  refine ⟨hlike.symm, past', past, ht, hs, fun h hopen => ?_, habout.symm⟩
  exact (hwork h (hlike.handle.trans hopen)).symm

/-- What happens on another slot in one of two runs makes no difference. -/
theorem run_other (hsame : SameAt engine s₀ slot p s q t) (hop : op.slot? = some other)
    (hother : other ≠ slot) :
    SameAt engine s₀ slot (op.run engine p s).1 (op.run engine p s).2 q t := by
  obtain ⟨hlike, past, past', hs, ht, hwork, habout⟩ := hsame
  have hleaves := op.leaves_run engine hop p s
  have hlike' := (hleaves.like hother.symm).trans hlike
  -- What the operation asks, if it asks anything, is about the other slot.
  cases (Peer.Like.refl other p).together engine s s hop with
  | still hstill _ _ =>
    rw [hstill]
    exact ⟨hlike, past, past', hs, ht, hwork, habout⟩
  | asked h r hopen hpeer hslot hstate _ _ =>
    refine ⟨hlike', past ++ [r], past', ?_, ht, fun h' hopen' => ?_, ?_⟩
    · rw [hstate, hs, Engine.after_concat]
    · rw [hleaves.handle] at hopen'
      have hsameHandle : h = h' := Option.some.inj (hopen.symm.trans hopen')
      rw [hsameHandle] at hpeer
      exact ⟨(hwork h' hopen').1.concat hpeer hslot, (hwork h' hopen').2⟩
    · have hne : r.slot? ≠ some slot := by
        rw [hslot]
        exact fun h => hother (Option.some.inj h)
      rw [Engine.about_concat, if_neg hne, List.append_nil, habout]

/-- An operation on the slot that both runs perform has the same reply in both, and they are at the
same afterwards. -/
theorem run (hkeeps : ∀ h, p.handle = some h → engine.KeepsSlotsApart h s₀)
    (hsame : SameAt engine s₀ slot p s q t) (hop : op.slot? = some slot) :
    op.reply engine p s = op.reply engine q t ∧
      SameAt engine s₀ slot (op.run engine p s).1 (op.run engine p s).2
        (op.run engine q t).1 (op.run engine q t).2 := by
  have hleaves := op.leaves_run engine hop p s
  cases hsame.like.together engine s t hop with
  | still hfirst hsecond hreply =>
    rw [hfirst, hsecond]
    exact ⟨hreply, hsame⟩
  | asked h r hopen hpeer hslot hfirst hsecond hsettled =>
    obtain ⟨hlike, past, past', hs, ht, hwork, habout⟩ := hsame
    obtain ⟨hworked, hworked'⟩ := hwork h hopen
    -- This is the one place where it counts that the engine keeps slots apart.
    have hanswer : (engine r s).1 = (engine r t).1 := by
      rw [hs, ht]
      exact hkeeps h hopen slot past past' hworked hworked' habout r hpeer hslot
    obtain ⟨hreply, hlike'⟩ := hsettled hanswer
    refine ⟨hreply, hlike', past ++ [r], past' ++ [r], ?_, ?_, fun h' hopen' => ?_, ?_⟩
    · rw [hfirst, hs, Engine.after_concat]
    · rw [hsecond, ht, Engine.after_concat]
    · rw [hleaves.handle, hopen] at hopen'
      rw [← Option.some.inj hopen']
      exact ⟨hworked.concat hpeer hslot, hworked'.concat hpeer hslot⟩
    · rw [Engine.about_concat, Engine.about_concat, habout]

end SameAt

/-! ## Interleavings -/

namespace Turn

variable {engine : Engine σ}

/-- The caller who is not at work. -/
def other : Turn → Turn
  | first => second
  | second => first

/-- There are two callers, so who is not the one is the other. -/
theorem eq_other_of_ne {turn turn' : Turn} (h : turn' ≠ turn) : turn' = turn.other := by
  cases turn <;> cases turn' <;> trivial

variable {turn : Turn} {x : Turn × PeerOp} {turns : List (Turn × PeerOp)}

/-- The operations of a caller are those at its turns. -/
theorem mem_opsOf {op : PeerOp} : op ∈ turn.opsOf turns ↔ (turn, op) ∈ turns := by
  simp [opsOf]

/-- A turn of a caller is an operation of this caller. -/
theorem opsOf_cons_of_eq (h : x.1 = turn) : turn.opsOf (x :: turns) = x.2 :: turn.opsOf turns := by
  simp [opsOf, h]

/-- A turn of the other caller is none. -/
theorem opsOf_cons_of_ne (h : x.1 ≠ turn) : turn.opsOf (x :: turns) = turn.opsOf turns := by
  simp [opsOf, h]

/-- A caller who has slots that the other one does not work on gets the same replies as alone, and
leaves these slots the same. -/
theorem run_alone (mine : Slot → Prop) {s₀ : σ} {p q : Peer} {s t : σ}
    (hmine : ∀ x ∈ turns, ∃ slot, x.2.slot? = some slot ∧ (mine slot ↔ x.1 = turn))
    (hkeeps : ∀ h, p.handle = some h → engine.KeepsSlotsApart h s₀)
    (hsame : ∀ slot, mine slot → SameAt engine s₀ slot p s q t) :
    repliesTo engine turn turns p s = PeerOp.replies engine (turn.opsOf turns) q t ∧
      ∀ slot, mine slot →
        SameAt engine s₀ slot (PeerOp.runAll engine (turns.map (·.2)) p s).1
          (PeerOp.runAll engine (turns.map (·.2)) p s).2
          (PeerOp.runAll engine (turn.opsOf turns) q t).1
          (PeerOp.runAll engine (turn.opsOf turns) q t).2 := by
  -- Both runs move on at once, so the states from which they go on are any that are the same at the
  -- caller's slots.
  induction turns generalizing p s q t with
  | nil => exact ⟨rfl, hsame⟩
  | cons x turns ih =>
    obtain ⟨slot, hslot, hturn⟩ := hmine x List.mem_cons_self
    have hmine' := fun y hy => hmine y (List.mem_cons_of_mem x hy)
    have hleaves := x.2.leaves_run engine hslot p s
    have hkeeps' : ∀ h, (x.2.run engine p s).1.handle = some h → engine.KeepsSlotsApart h s₀ := by
      rw [hleaves.handle]
      exact hkeeps
    by_cases hx : x.1 = turn
    · -- The operation is in both runs.
      obtain ⟨hreply, hsame'⟩ := (hsame slot (hturn.mpr hx)).run hkeeps hslot
      rw [repliesTo, if_pos hx, opsOf_cons_of_eq hx, PeerOp.replies, hreply]
      have hnext : ∀ slot', mine slot' → SameAt engine s₀ slot' (x.2.run engine p s).1
          (x.2.run engine p s).2 (x.2.run engine q t).1 (x.2.run engine q t).2 := by
        intro slot' hslot'
        by_cases hne : slot = slot'
        · rw [← hne]
          exact hsame'
        · -- At another slot of this caller it is passed over on either side.
          exact (((hsame slot' hslot').run_other hslot hne).symm.run_other hslot hne).symm
      obtain ⟨hreplies, hend⟩ := ih hmine' hkeeps' hnext
      exact ⟨by rw [hreplies], hend⟩
    · -- The operation is the other caller's, and on a slot of theirs.
      have hothers : ¬ mine slot := fun h => hx (hturn.mp h)
      rw [repliesTo, if_neg hx, opsOf_cons_of_ne hx]
      refine ih hmine' hkeeps' fun slot' hslot' => ?_
      refine (hsame slot' hslot').run_other hslot fun h => hothers ?_
      rw [h]
      exact hslot'

/-- Of two callers who work on different slots, each gets the same replies as alone, and leaves every
slot the same on which the other one does not work. -/
theorem alone {s : σ} {p : Peer} (hslots : ∀ x ∈ turns, x.2.slot? ≠ none)
    (hapart : ∀ x ∈ turn.opsOf turns, ∀ y ∈ turn.other.opsOf turns, x.slot? ≠ y.slot?)
    (hkeeps : ∀ h, p.handle = some h → engine.KeepsSlotsApart h s) :
    repliesTo engine turn turns p s = PeerOp.replies engine (turn.opsOf turns) p s ∧
      ∀ slot, (∀ y ∈ turn.other.opsOf turns, y.slot? ≠ some slot) →
        (PeerOp.runAll engine (turns.map (·.2)) p s).1.Like slot
          (PeerOp.runAll engine (turn.opsOf turns) p s).1 := by
  have hmine : ∀ x ∈ turns, ∃ slot, x.2.slot? = some slot ∧
      ((∀ y ∈ turn.other.opsOf turns, y.slot? ≠ some slot) ↔ x.1 = turn) := by
    intro x hx
    obtain ⟨slot, hslot⟩ := Option.ne_none_iff_exists'.mp (hslots x hx)
    refine ⟨slot, hslot, fun hfree => ?_, fun hturn y hy => ?_⟩
    · by_contra hturn
      refine hfree x.2 (mem_opsOf.mpr ?_) hslot
      rw [← eq_other_of_ne hturn]
      exact hx
    · rw [← hslot]
      refine (hapart x.2 (mem_opsOf.mpr ?_) y hy).symm
      rw [← hturn]
      exact hx
  obtain ⟨hreplies, hend⟩ := run_alone _ hmine hkeeps fun _ _ => SameAt.refl p
  exact ⟨hreplies, fun slot hslot => (hend slot hslot).like⟩

end Turn

namespace PeerOp

variable {engine : Engine σ} {ops : List PeerOp} {p : Peer} {s : σ}

/-- Operations about slots make no other kind of peer. -/
theorem kind_runAll (hslots : ∀ op ∈ ops, op.slot? ≠ none) :
    (runAll engine ops p s).1.kind = p.kind := by
  induction ops generalizing p s with
  | nil => rfl
  | cons op ops ih =>
    obtain ⟨slot, hslot⟩ := Option.ne_none_iff_exists'.mp (hslots op List.mem_cons_self)
    have hrest : (runAll engine ops (op.run engine p s).1 (op.run engine p s).2).1.kind
        = (op.run engine p s).1.kind := ih fun op' hop => hslots op' (List.mem_cons_of_mem op hop)
    exact hrest.trans (op.leaves_run engine hslot p s).kind

end PeerOp

namespace Turn

variable {xs ys : List PeerOp} {turns : List (Turn × PeerOp)}

/-- One sequence after the other is an interleaving of the two. -/
theorem interleaves_append (xs ys : List PeerOp) :
    Interleaves xs ys (xs.map (first, ·) ++ ys.map (second, ·)) := by
  have hall (ops : List PeerOp) : ops.filter (fun _ => true) = ops :=
    List.filter_eq_self.mpr fun _ _ => rfl
  have hnone (ops : List PeerOp) : ops.filter (fun _ => false) = [] :=
    List.filter_eq_nil_iff.mpr fun _ _ => nofun
  constructor <;> simp [opsOf, List.filter_map, Function.comp_def, hall, hnone]

/-- Every turn of an interleaving comes from one of the two callers. -/
theorem Interleaves.mem (hturns : Interleaves xs ys turns) {x : Turn × PeerOp} (hx : x ∈ turns) :
    x.2 ∈ xs ++ ys := by
  rcases x with ⟨turn, op⟩
  rw [List.mem_append, ← hturns.first, ← hturns.second, mem_opsOf, mem_opsOf]
  cases turn with
  | first => exact .inl hx
  | second => exact .inr hx

end Turn

/-- What is known of two sequences of operations by two callers who share a peer: each operation is on
a slot, the two work on different slots, and the engine keeps the slots of an open peer apart. -/
structure WorkApart (engine : Engine σ) (p : Peer) (s : σ) (xs ys : List PeerOp) : Prop where
  slots : ∀ op ∈ xs ++ ys, op.slot? ≠ none
  apart : ∀ x ∈ xs, ∀ y ∈ ys, x.slot? ≠ y.slot?
  keeps : ∀ h, p.handle = some h → engine.KeepsSlotsApart h s

namespace WorkApart

variable {engine : Engine σ} {p : Peer} {s : σ} {xs ys : List PeerOp} {turns : List (Turn × PeerOp)}

/-- What each caller gets is what they get alone, and the slots of each are left as they are alone. -/
theorem alone (hwork : WorkApart engine p s xs ys) (hturns : Turn.Interleaves xs ys turns) :
    (Turn.repliesTo engine .first turns p s = PeerOp.replies engine xs p s ∧
      ∀ slot, (∀ y ∈ ys, y.slot? ≠ some slot) →
        (PeerOp.runAll engine (turns.map (·.2)) p s).1.Like slot (PeerOp.runAll engine xs p s).1) ∧
    Turn.repliesTo engine .second turns p s = PeerOp.replies engine ys p s ∧
      ∀ slot, (∀ x ∈ xs, x.slot? ≠ some slot) →
        (PeerOp.runAll engine (turns.map (·.2)) p s).1.Like slot
          (PeerOp.runAll engine ys p s).1 := by
  have hslots : ∀ x ∈ turns, x.2.slot? ≠ none := fun x hx => hwork.slots x.2 (hturns.mem hx)
  obtain ⟨rfl, rfl⟩ := hturns
  constructor
  · exact Turn.alone hslots hwork.apart hwork.keeps
  · exact Turn.alone hslots (fun y hy x hx => (hwork.apart x hx y hy).symm) hwork.keeps

/-- Any two interleavings end with the same peer. -/
theorem runAll_eq (hwork : WorkApart engine p s xs ys) {turns' : List (Turn × PeerOp)}
    (hturns : Turn.Interleaves xs ys turns) (hturns' : Turn.Interleaves xs ys turns') :
    (PeerOp.runAll engine (turns.map (·.2)) p s).1
      = (PeerOp.runAll engine (turns'.map (·.2)) p s).1 := by
  have hkind : ∀ {all : List (Turn × PeerOp)}, Turn.Interleaves xs ys all →
      (PeerOp.runAll engine (all.map (·.2)) p s).1.kind = p.kind := by
    intro all hall
    refine PeerOp.kind_runAll fun op hop => ?_
    obtain ⟨x, hx, rfl⟩ := List.mem_map.mp hop
    exact hwork.slots x.2 (hall.mem hx)
  obtain ⟨⟨-, hfirst⟩, -, hsecond⟩ := hwork.alone hturns
  obtain ⟨⟨-, hfirst'⟩, -, hsecond'⟩ := hwork.alone hturns'
  refine Peer.eq_of_like ((hkind hturns).trans (hkind hturns').symm) fun slot => ?_
  -- A slot is not worked on by the second caller, or it is not worked on by the first.
  by_cases hslot : ∃ y ∈ ys, y.slot? = some slot
  · obtain ⟨y, hy, hslot⟩ := hslot
    have hfree : ∀ x ∈ xs, x.slot? ≠ some slot := fun x hx h =>
      hwork.apart x hx y hy (h.trans hslot.symm)
    exact (hsecond slot hfree).trans (hsecond' slot hfree).symm
  · have hfree : ∀ y ∈ ys, y.slot? ≠ some slot := fun y hy h => hslot ⟨y, hy, h⟩
    exact (hfirst slot hfree).trans (hfirst' slot hfree).symm

end WorkApart

/-- Two callers work on different slots of one peer, and the engine keeps the slots apart. However
their operations are interleaved, each caller gets what they would get alone, the outcomes and the
ports that are written back, and the peer ends up the same as if one had gone after the other. An
operation on one slot never changes what is recorded of another, whatever the engine does. -/
theorem PeerOp.interleavings_agree (engine : Engine σ) (p : Peer) (s : σ) (xs ys : List PeerOp)
    (hwork : WorkApart engine p s xs ys) :
    (∀ turns, Turn.Interleaves xs ys turns →
      Turn.repliesTo engine .first turns p s = replies engine xs p s ∧
      Turn.repliesTo engine .second turns p s = replies engine ys p s ∧
      (runAll engine (turns.map (·.2)) p s).1 = (runAll engine (xs ++ ys) p s).1) ∧
    ∀ (op : PeerOp) (slot other : Slot) (q : Peer) (t : σ), op.slot? = some slot → other ≠ slot →
      (op.run engine q t).1.slots.get? other = q.slots.get? other := by
  constructor
  · intro turns hturns
    obtain ⟨⟨hfirst, -⟩, hsecond, -⟩ := hwork.alone hturns
    refine ⟨hfirst, hsecond, ?_⟩
    have hend := hwork.runAll_eq hturns (Turn.interleaves_append xs ys)
    rw [List.map_append, List.map_map, List.map_map] at hend
    simpa only [Function.comp_def, List.map_id'] using hend
  · intro op slot other q t hslot hother
    exact (op.leaves_run engine hslot q t).others other hother

/-! ## An engine that counts -/

namespace Engine

/-- How an engine that counts answers a request about a slot after some others: every third time it
refuses to configure, and each binding gets a port of its own. -/
def countingAnswer (count : Nat) : (r : Request) → Answer r.Response
  | .configure _ _ _ _ => if count % 3 = 2 then .error ⟨-5⟩ else .ok ()
  | .bind _ _ _ endpoint => .ok { endpoint with port := Int32.ofNat (5000 + count) }
  | .connect _ _ _ _ | .unlink _ _ => .ok ()
  | _ => .error ⟨-1⟩

/-- An engine that counts, for each slot, what it was asked about it. -/
def counting : Engine (Slot → Nat) := fun r counts =>
  match r.slot? with
  | none => (countingAnswer 0 r, counts)
  | some slot =>
    (countingAnswer (counts slot) r, fun slot' => counts slot' + if slot' = slot then 1 else 0)

/-- The engine that counts has counted the requests about each slot. -/
theorem counting_after (past : List Request) (counts : Slot → Nat) (slot : Slot) :
    counting.after past counts slot = counts slot + (about slot past).length := by
  induction past generalizing counts with
  | nil => rfl
  | cons r past ih =>
    have hfirst : counting.after (r :: past) counts = counting.after past (counting r counts).2 := rfl
    rw [hfirst, ih, about, about, List.filter_cons, counting]
    cases hslot : r.slot? with
    | none => simp
    | some slot' =>
      by_cases hne : slot = slot'
      · simp [hne]
        omega
      · simp [hne, Ne.symm hne]

/-- What the counting engine answers about a slot depends on requests about this slot only. -/
theorem counting_keepsSlotsApart (h : PeerHandle) (counts : Slot → Nat) :
    counting.KeepsSlotsApart h counts := by
  intro slot past past' _ _ habout r _ hslot
  have hcounts : counting.after past counts slot = counting.after past' counts slot := by
    rw [counting_after, counting_after, habout]
  simp only [counting, hslot, hcounts]

end Engine

/-- One caller breaks a slot, frees it and binds it; another one binds two interfaces of a second slot
in between. The ports are those that each of them gets alone. -/
theorem PeerOp.interleavings_agree_counting :
    let endpoint : Endpoint := { protocol := some .rtp, host := "127.0.0.1", port := 0 }
    let control : Endpoint := { protocol := some .rtcp, host := "127.0.0.1", port := 0 }
    let p : Peer := { kind := .receiver, handle := some ⟨7⟩ }
    let configure : PeerOp := .configure ⟨0⟩ .audioSource {}
    let source : PeerOp := .bind ⟨0⟩ .audioSource (some endpoint)
    let other : PeerOp := .bind ⟨8⟩ .audioSource (some endpoint)
    let another : PeerOp := .bind ⟨8⟩ .audioControl (some control)
    let turns : List (Turn × PeerOp) := [(.first, configure), (.second, other), (.first, configure),
      (.first, configure), (.second, another), (.first, source), (.first, .unlink ⟨0⟩),
      (.second, another), (.first, source)]
    WorkApart .counting p (fun _ => 0) [configure, configure, configure, source, .unlink ⟨0⟩, source]
        [other, another, another] ∧
      Turn.repliesTo .counting .first turns p (fun _ => 0) =
        [⟨.ok (), none⟩, ⟨.ok (), none⟩, ⟨.failed (.engine .peerConfigure ⟨-5⟩), none⟩,
          ⟨.failed (.slotBroken ⟨0⟩), some endpoint⟩, ⟨.ok (), none⟩,
          ⟨.ok (), some { endpoint with port := 5004 }⟩] ∧
      Turn.repliesTo .counting .second turns p (fun _ => 0) =
        [⟨.ok (), some { endpoint with port := 5000 }⟩, ⟨.ok (), some { control with port := 5001 }⟩,
          ⟨.failed (.interfaceLinked ⟨8⟩ .audioControl), some control⟩] := by
  intro endpoint control p configure source other another turns
  have hwork : WorkApart .counting p (fun _ => 0)
      [configure, configure, configure, source, .unlink ⟨0⟩, source] [other, another, another] :=
    ⟨by decide, by decide, fun h _ => Engine.counting_keepsSlotsApart h _⟩
  obtain ⟨hagree, -⟩ := interleavings_agree .counting p (fun _ => 0) _ _ hwork
  obtain ⟨hfirst, hsecond, -⟩ := hagree turns ⟨rfl, rfl⟩
  -- Each caller alone is computed; the interleaving is not.
  rw [hfirst, hsecond]
  exact ⟨hwork, by decide +kernel, by decide +kernel⟩

end AudioLink
