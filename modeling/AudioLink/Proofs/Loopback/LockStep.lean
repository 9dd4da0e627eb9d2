import AudioLink.Proofs.Loopback.Step
import AudioLink.Proofs.Session.Operation

/-
Slot tables and the slots of the loopback engine go in step.

A program opens peers of a session on loopback engines, and performs operations on them in any order;
meanwhile engines are asked other things behind the session's back, though nothing about an open peer
of it, and the machine changes as it likes. Then the slot table of each open peer and the slots that
its engine keeps for it say the same at every moment.

The invariant is about ledgers, since an admitted call changes both sides by `Ledger.after`. That two
peers of an engine have different handles is part of it. It rests on the numbers that handles are made
of: these come from a counter of 64 bits and are never used twice as long as the counter does not come
round, so a run is looked at in which every engine gives fewer than 2^64 handles.
-/
set_option autoImplicit false

namespace AudioLink.Loopback

/-! ## The invariant -/

/-- Open peers of a session and peers of the engines go in step, when the engine `n` has given
`given n` handles. -/
structure LockStep (given : Nat → Nat) (peers : Table PeerId (Member Nat)) (fleet : Fleet) :
    Prop where
  /-- The engine has every open peer, of its kind and with its ledger. -/
  agree : ∀ id m h, peers.get? id = some m → m.peer.handle = some h →
    (fleet.state m.engine).view h = some ⟨m.peer.kind, m.peer.slots.ledger⟩
  /-- No two open peers share a handle of an engine. -/
  distinct : ∀ id id' m m' h, peers.get? id = some m → peers.get? id' = some m' →
    m.engine = m'.engine → m.peer.handle = some h → m'.peer.handle = some h → id = id'
  /-- The next handle has the next number. -/
  nextId : ∀ n, (fleet.state n).nextId = UInt64.ofNat (given n + 1)
  /-- Every handle in use has been given. -/
  issued : ∀ n h, (fleet.state n).view h ≠ none → h.raw.toNat ≤ given n

/-- How many handles an engine has given in a step of a run: one, or none. -/
def gave (n : Nat) (fleet fleet' : Fleet) : Nat :=
  if (fleet'.state n).nextId = (fleet.state n).nextId then 0 else 1

theorem gave_of_gives {n : Nat} {fleet fleet' : Fleet}
    (hgives : State.Gives (fleet.state n) (fleet'.state n)) : gave n fleet fleet' = 1 := by
  refine if_neg fun hsame => ?_
  rw [hgives.nextId] at hsame
  simp at hsame

namespace LockStep

variable {given : Nat → Nat} {peers : Table PeerId (Member Nat)} {fleet fleet' : Fleet}
  {n : Nat} {h : PeerHandle} {id : PeerId} {m : Member Nat}

/-- The next handle is not in use, as long as the counter has not come round. -/
theorem fresh (hlock : LockStep given peers fleet) (hroom : given n + 1 < UInt64.size) :
    (fleet.state n).view ⟨(fleet.state n).nextId⟩ = none := by
  refine Classical.byContradiction fun hused => ?_
  have hle := hlock.issued n _ hused
  rw [hlock.nextId n, UInt64.toNat_ofNat_of_lt' hroom] at hle
  omega

/-- Nothing is changed by what does not show. -/
theorem of_same (hlock : LockStep given peers fleet)
    (hsame : ∀ n, State.Same (fleet.state n) (fleet'.state n)) : LockStep given peers fleet' where
  agree id m h hm hh := by
    rw [(hsame m.engine).2 h]
    exact hlock.agree id m h hm hh
  distinct := hlock.distinct
  nextId n := by rw [(hsame n).1, hlock.nextId n]
  issued n h hused := by
    rw [(hsame n).2 h] at hused
    exact hlock.issued n h hused

/-- A handle that is given is not that of a peer. -/
theorem of_gives (hlock : LockStep given peers fleet) (hroom : given n + 1 < UInt64.size)
    (hgives : State.Gives (fleet.state n) (fleet'.state n))
    (hothers : ∀ k, k ≠ n → fleet'.state k = fleet.state k) :
    LockStep (fun k => given k + gave k fleet fleet') peers fleet' where
  agree id m h hm hh := by
    have hagree := hlock.agree id m h hm hh
    -- A peer that is open has a handle that was given before, so it is not the new one.
    by_cases hengine : m.engine = n
    · have hother : h.raw ≠ (fleet.state n).nextId := by
        intro hraw
        have hfresh := hlock.fresh hroom
        rw [← hraw, ← hengine, hagree] at hfresh
        exact absurd hfresh nofun
      rw [hengine, hgives.others h hother, ← hengine, hagree]
    · rw [hothers m.engine hengine, hagree]
  distinct := hlock.distinct
  nextId k := by
    by_cases hk : k = n
    · rw [hk, gave_of_gives hgives, hgives.nextId, hlock.nextId n, UInt64.ofNat_add (given n + 1) 1]
      rfl
    · rw [gave, hothers k hk, if_pos rfl, hlock.nextId k, Nat.add_zero]
  issued k h hused := by
    by_cases hk : k = n
    · subst hk
      rw [gave_of_gives hgives]
      by_cases hraw : h.raw = (fleet.state k).nextId
      · have hnumber : h.raw.toNat = given k + 1 := by
          rw [hraw, hlock.nextId k, UInt64.toNat_ofNat_of_lt' hroom]
        exact Nat.le_of_eq hnumber
      · rw [hgives.others h hraw] at hused
        exact Nat.le_succ_of_le (hlock.issued k h hused)
    · rw [hothers k hk] at hused
      exact Nat.le_add_right_of_le (hlock.issued k h hused)

/-- Without a handle given, the count stays. -/
theorem of_still {peers' : Table PeerId (Member Nat)} (hlock : LockStep given peers fleet)
    (hlock' : LockStep given peers' fleet') :
    LockStep (fun n => given n + gave n fleet fleet') peers' fleet' := by
  have hgave : ∀ n, gave n fleet fleet' = 0 := fun n =>
    if_pos ((hlock'.nextId n).trans (hlock.nextId n).symm)
  simp only [hgave, Nat.add_zero]
  exact hlock'

/-- A peer that is let go is not looked at any more. -/
theorem of_erase (hlock : LockStep given peers fleet) (id : PeerId) :
    LockStep given (peers.erase id) fleet := by
  have hmem : ∀ {id' m}, (peers.erase id).get? id' = some m → peers.get? id' = some m := by
    intro id' m hm
    rw [Table.get?_erase] at hm
    by_cases hid : id' = id
    · rw [if_pos hid] at hm
      exact absurd hm nofun
    · rwa [if_neg hid] at hm
  exact ⟨fun id' m h hm hh => hlock.agree id' m h (hmem hm) hh,
    fun id' id'' m m' h hm hm' he hh hh' =>
      hlock.distinct id' id'' m m' h (hmem hm) (hmem hm') he hh hh',
    hlock.nextId, hlock.issued⟩

/-- A peer that no open peer is about may be altered. -/
theorem of_altersOnly (hlock : LockStep given peers fleet)
    (halters : State.AltersOnly h (fleet.state n) (fleet'.state n))
    (hothers : ∀ k, k ≠ n → fleet'.state k = fleet.state k)
    (hfree : ∀ id m, peers.get? id = some m → m.engine = n → m.peer.handle ≠ some h) :
    LockStep given peers fleet' where
  agree id m h' hm hh := by
    have hagree := hlock.agree id m h' hm hh
    by_cases hengine : m.engine = n
    · have hother : h' ≠ h := by
        rintro rfl
        exact hfree id m hm hengine hh
      rw [hengine, halters.others h' hother, ← hengine, hagree]
    · rw [hothers m.engine hengine, hagree]
  distinct := hlock.distinct
  nextId k := by
    by_cases hk : k = n
    · rw [hk, halters.nextId, hlock.nextId n]
    · rw [hothers k hk, hlock.nextId k]
  issued k h' hused := by
    by_cases hk : k = n
    · subst hk
      refine hlock.issued k h' fun hnone => hused ?_
      by_cases hh : h' = h
      · rw [hh]
        exact halters.absent (hh ▸ hnone)
      · rw [halters.others h' hh, hnone]
    · rw [hothers k hk] at hused
      exact hlock.issued k h' hused

/-- A member may take a place in which there is none, or another one takes its place, if its engine
has its peer and no other open peer has its handle. -/
theorem of_insert (hlock : LockStep given (peers.erase id) fleet)
    (hagree : ∀ h, m.peer.handle = some h →
      (fleet.state m.engine).view h = some ⟨m.peer.kind, m.peer.slots.ledger⟩)
    (hdistinct : ∀ id' m' h, id' ≠ id → peers.get? id' = some m' → m'.engine = m.engine →
      m.peer.handle = some h → m'.peer.handle ≠ some h) :
    LockStep given (peers.insert id m) fleet where
  agree id' m' h hm' hh := by
    rw [Table.get?_insert] at hm'
    by_cases hid : id' = id
    · rw [if_pos hid] at hm'
      obtain rfl : m = m' := Option.some.inj hm'
      exact hagree h hh
    · rw [if_neg hid, ← Table.get?_erase_of_ne peers hid] at hm'
      exact hlock.agree id' m' h hm' hh
  -- Of two peers with one handle at most one is the new one.
  distinct id₁ id₂ m₁ m₂ h hm₁ hm₂ hengine hh₁ hh₂ := by
    rw [Table.get?_insert] at hm₁ hm₂
    by_cases hid₁ : id₁ = id
    · by_cases hid₂ : id₂ = id
      · rw [hid₁, hid₂]
      · rw [if_pos hid₁] at hm₁
        rw [if_neg hid₂] at hm₂
        obtain rfl : m = m₁ := Option.some.inj hm₁
        exact absurd hh₂ (hdistinct id₂ m₂ h hid₂ hm₂ hengine.symm hh₁)
    · by_cases hid₂ : id₂ = id
      · rw [if_neg hid₁] at hm₁
        rw [if_pos hid₂] at hm₂
        obtain rfl : m = m₂ := Option.some.inj hm₂
        exact absurd hh₁ (hdistinct id₁ m₁ h hid₁ hm₁ hengine hh₂)
      · rw [if_neg hid₁, ← Table.get?_erase_of_ne peers hid₁] at hm₁
        rw [if_neg hid₂, ← Table.get?_erase_of_ne peers hid₂] at hm₂
        exact hlock.distinct id₁ id₂ m₁ m₂ h hm₁ hm₂ hengine hh₁ hh₂
  nextId := hlock.nextId
  issued := hlock.issued

/-! ### Requests -/

variable {r : Request} {context : ContextId} {c : ContextHandle} {config : PeerConfig}

/-- Anything may be asked that is not about a peer. -/
theorem of_request (hlock : LockStep given peers fleet) (hr : r.peer? = none)
    (hroom : given n + gave n fleet (Fleet.engine n r fleet).2 < UInt64.size) :
    LockStep (fun k => given k + gave k fleet (Fleet.engine n r fleet).2) peers
      (Fleet.engine n r fleet).2 := by
  have hself := Fleet.state_engine_self n r fleet
  have hothers := fun k (hk : k ≠ n) => Fleet.state_engine_of_ne r fleet hk
  rcases same_engine hr (fleet.site n) with hsame | hgives
  · refine hlock.of_still (hlock.of_same fun k => ?_)
    by_cases hk : k = n
    · rw [hk, hself]
      exact hsame
    · rw [hothers k hk]
      exact .refl (fleet.state k)
  · rw [← hself] at hgives
    rw [gave_of_gives hgives] at hroom
    exact hlock.of_gives hroom hgives hothers

/-- A context of an engine may be closed. -/
theorem of_contextClose (hlock : LockStep given peers fleet) (n : Nat) (c : ContextHandle) :
    LockStep given peers (Fleet.engine n (.contextClose c) fleet).2 := by
  refine hlock.of_same fun k => ?_
  by_cases hk : k = n
  · rw [hk, Fleet.state_engine_self]
    exact (fleet.site n).same_closeContext c
  · rw [Fleet.state_engine_of_ne _ fleet hk]
    exact .refl (fleet.state k)

/-- What is asked about a peer that is no open peer of the session changes nothing here. -/
theorem of_foreign (hlock : LockStep given peers fleet) (hr : r.peer? = some h)
    (hfree : ∀ id m, peers.get? id = some m → m.engine = n → m.peer.handle ≠ some h) :
    LockStep given peers (Fleet.engine n r fleet).2 := by
  refine hlock.of_altersOnly (n := n) ?_ (fun k hk => Fleet.state_engine_of_ne r fleet hk) hfree
  rw [Fleet.state_engine_self]
  exact altersOnly_engine hr (fleet.site n)

/-- Both sides of an open peer follow its calls. -/
theorem of_moves {kind : Option PeerKind} {result : Peer × Fleet}
    (hlock : LockStep given peers fleet) (hm : peers.get? id = some m)
    (hkind : ∀ k ∈ kind, m.peer.kind = k)
    (hmoves : m.peer.Moves (Fleet.engine m.engine) kind fleet result) :
    LockStep given (peers.insert id { m with peer := result.1 }) result.2 := by
  rcases hmoves with rfl | ⟨h, r, hrkind, hstate, hstep⟩
  · refine (hlock.of_erase id).of_insert (fun h hh => hlock.agree id m h hm hh) ?_
    intro id' m' h hid hm' hengine hh hh'
    exact hid (hlock.distinct id' id m' m h hm' hm hengine hh' hh)
  · have hview : (fleet.site m.engine).state.view h = some ⟨m.peer.kind, m.peer.slots.ledger⟩ :=
      hlock.agree id m h hm hstep.isOpen
    have hothers : ∀ id' m', id' ≠ id → peers.get? id' = some m' → m'.engine = m.engine →
        m'.peer.handle ≠ some h := fun id' m' hid hm' hengine hh =>
      hid (hlock.distinct id' id m' m h hm' hm hengine hh hstep.isOpen)
    have hrest : LockStep given (peers.erase id) result.2 := by
      rw [hstate]
      refine (hlock.of_erase id).of_foreign hstep.own fun id' m' hm' hengine => ?_
      rw [Table.get?_erase] at hm'
      by_cases hid : id' = id
      · rw [if_pos hid] at hm'
        exact absurd hm' nofun
      · rw [if_neg hid] at hm'
        exact hothers id' m' hid hm' hengine
    have hsame : ∀ h', result.1.handle = some h' → h' = h := by
      intro h' hh'
      rcases hstep.handle with ⟨-, hopen⟩ | ⟨-, hclosed⟩
      · exact Option.some.inj (hh'.symm.trans hopen)
      · exact absurd (hh'.symm.trans hclosed) nofun
    refine hrest.of_insert (fun h' hh' => ?_) fun id' m' h' hid hm' hengine hh' => ?_
    · obtain rfl := hsame h' hh'
      rcases view_engine hstep.own hview (hrkind ▸ hkind) hstep.admitted with
        ⟨hcloses, -⟩ | ⟨-, hafter⟩
      · -- The engine has closed the peer, so the session has as well.
        rcases hstep.handle with ⟨hopen, -⟩ | ⟨-, hclosed⟩
        · exact absurd hcloses hopen
        · exact absurd (hh'.symm.trans hclosed) nofun
      · rw [hstate, Fleet.state_engine_self, hafter, hstep.kind, hstep.ledger]
        rfl
    · rw [hsame h' hh']
      exact hothers id' m' hid hm' hengine

/-- A peer that is opened begins in step, under a handle of its own. -/
theorem of_opened (hlock : LockStep given peers fleet)
    (hroom : given n + gave n fleet (Fleet.engine n (.peerOpen c config) fleet).2 < UInt64.size)
    (hanswer : (Fleet.engine n (.peerOpen c config) fleet).1 = .ok h) :
    LockStep (fun k => given k + gave k fleet (Fleet.engine n (.peerOpen c config) fleet).2)
      (peers.insert id { engine := n, context, peer := { kind := config.kind, handle := some h } })
      (Fleet.engine n (.peerOpen c config) fleet).2 := by
  have hself := Fleet.state_engine_self n (.peerOpen c config) fleet
  rcases (fleet.site n).openPeer_cases c config with ⟨⟨code, hrefused⟩, -⟩ | ⟨hok, hgives, hview⟩
  · exact absurd (hanswer.symm.trans hrefused) nofun
  obtain rfl : h = ⟨(fleet.state n).nextId⟩ := Except.ok.inj (hanswer.symm.trans hok)
  rw [show ((fleet.site n).openPeer c config).2.state = _ from hself.symm] at hgives hview
  have hfresh : (fleet.state n).view ⟨(fleet.state n).nextId⟩ = none := by
    rw [gave_of_gives hgives] at hroom
    exact hlock.fresh hroom
  refine ((hlock.of_request rfl hroom).of_erase id).of_insert (fun h hh => ?_) ?_
  · obtain rfl := Option.some.inj hh
    exact hview
  · intro id' m' h hid hm' hengine hh hh'
    obtain rfl := Option.some.inj hh
    have hagree := hlock.agree id' m' _ hm' hh'
    rw [hengine, hfresh] at hagree
    exact absurd hagree nofun

end LockStep

/-! ## Runs -/

/-- What happens in a run. -/
inductive Event where
  /-- The program performs an operation on its session. -/
  | operation (op : SessionOp Nat)
  /-- An engine is asked something behind the back of the session. -/
  | request (n : Nat) (r : Request)
  /-- The machine changes: time passes, or other programs use its network. -/
  | machine (change : Machine → Machine)
  /-- Every receiver takes what was sent to it. -/
  | settle

/-- Whether a request to an engine is about an open peer of the session. -/
def concerns (w : Session Nat Fleet) (n : Nat) (r : Request) : Bool :=
  w.peers.values.any fun m => m.engine = n && m.peer.handle.isSome && m.peer.handle = r.peer?

/-- What an event makes of a session. Nobody but the session asks anything about its open peers. -/
def step (w : Session Nat Fleet) : Event → Session Nat Fleet
  | .operation op => w.operate Fleet.engine op
  | .request n r => if concerns w n r then w else { w with state := (Fleet.engine n r w.state).2 }
  | .machine change => { w with state := { w.state with machine := change w.state.machine } }
  | .settle => { w with state := w.state.settle }

/-- A session without contexts and peers, on a machine whose engines have not been used. -/
def start (machine : Machine) : Session Nat Fleet := { state := { machine } }

/-- What several events make of a session. -/
def run (events : List Event) (w : Session Nat Fleet) : Session Nat Fleet := events.foldl step w

/-- How many handles an engine gives in a run, for contexts and for peers. -/
def handlesGiven (n : Nat) : List Event → Session Nat Fleet → Nat
  | [], _ => 0
  | e :: events, w => gave n w.state (step w e).state + handlesGiven n events (step w e)

/-- An engine gives at most one handle in an event. -/
theorem handlesGiven_le (n : Nat) (events : List Event) (w : Session Nat Fleet) :
    handlesGiven n events w ≤ events.length := by
  induction events generalizing w with
  | nil => exact Nat.le_refl 0
  | cons e events ih =>
    have hgave : gave n w.state (step w e).state ≤ 1 := by
      unfold gave
      split <;> omega
    have hrest := ih (step w e)
    rw [handlesGiven, List.length_cons]
    omega

theorem concerns_eq_false {w : Session Nat Fleet} {n : Nat} {r : Request} {h : PeerHandle}
    (hr : r.peer? = some h) (hnot : concerns w n r = false) (id : PeerId) (m : Member Nat)
    (hm : w.peers.get? id = some m) (hengine : m.engine = n) : m.peer.handle ≠ some h := by
  intro hh
  have hmem : m ∈ w.peers.values := List.mem_map.mpr ⟨(id, m), Table.mem_entries.mpr hm, rfl⟩
  rw [concerns, List.any_eq_false] at hnot
  have hm := hnot m hmem
  simp [hengine, hh, hr] at hm

namespace LockStep

variable {given : Nat → Nat} {w : Session Nat Fleet}

theorem start (machine : Machine) :
    LockStep (fun _ => 0) (start machine).peers (start machine).state where
  agree _ _ _ hm := absurd hm nofun
  distinct _ _ _ _ _ hm := absurd hm nofun
  nextId _ := rfl
  issued _ _ hused := absurd rfl hused

theorem operation (hlock : LockStep given w.peers w.state) (op : SessionOp Nat)
    (hroom : ∀ n, given n + gave n w.state (w.operate Fleet.engine op).state < UInt64.size) :
    LockStep (fun n => given n + gave n w.state (w.operate Fleet.engine op).state)
      (w.operate Fleet.engine op).peers (w.operate Fleet.engine op).state := by
  have heffect := w.effect_operate Fleet.engine op
  -- Only what the operation does to peers and engines matters, not how the session does it.
  generalize w.operate Fleet.engine op = w' at heffect hroom ⊢
  cases heffect with
  | still hpeers hstate =>
    rw [hpeers, hstate]
    exact hlock.of_still hlock
  | asked n r hr hpeers hstate =>
    rw [hstate] at hroom
    rw [hpeers, hstate]
    exact hlock.of_request hr (hroom n)
  | opened id context n c config h hanswer hpeers hstate =>
    rw [hstate] at hroom
    rw [hpeers, hstate]
    exact hlock.of_opened (hroom n) hanswer
  | moved id m kind result hm hkind hmoves hpeers hstate =>
    rw [hpeers, hstate]
    exact hlock.of_still (hlock.of_moves hm hkind hmoves)
  | released id m result hm hmoves hpeers hstate =>
    have hkind : ∀ k ∈ (none : Option PeerKind), m.peer.kind = k := nofun
    have hmoved := (hlock.of_moves hm hkind hmoves).of_erase id
    rcases hstate with hstate | ⟨n, c, hstate⟩
    · rw [hpeers, hstate]
      exact hlock.of_still hmoved
    · rw [hpeers, hstate]
      exact hlock.of_still (hmoved.of_contextClose n c)

theorem step (hlock : LockStep given w.peers w.state) (e : Event)
    (hroom : ∀ n, given n + gave n w.state (step w e).state < UInt64.size) :
    LockStep (fun n => given n + gave n w.state (Loopback.step w e).state)
      (Loopback.step w e).peers (Loopback.step w e).state := by
  cases e with
  | operation op => exact hlock.operation op hroom
  | request n r =>
    unfold Loopback.step at hroom ⊢
    by_cases hconcerns : concerns w n r = true
    · simp only [if_pos hconcerns]
      exact hlock.of_still hlock
    · simp only [if_neg hconcerns] at hroom ⊢
      cases hr : r.peer? with
      | none => exact hlock.of_request hr (hroom n)
      | some h =>
        refine hlock.of_still (hlock.of_foreign hr ?_)
        exact concerns_eq_false hr (Bool.eq_false_iff.mpr hconcerns)
  | machine change => exact hlock.of_still (hlock.of_same fun n => .refl (w.state.state n))
  | settle => exact hlock.of_still (hlock.of_same fun n => w.state.same_settle n)

/-- The two sides are in step after any run. -/
theorem run (hlock : LockStep given w.peers w.state) (events : List Event)
    (hroom : ∀ n, given n + handlesGiven n events w < UInt64.size) :
    LockStep (fun n => given n + handlesGiven n events w) (run events w).peers
      (run events w).state := by
  induction events generalizing given w with
  | nil => exact hlock
  | cons e events ih =>
    have hstep := hlock.step e fun n => by
      have hn := hroom n
      rw [handlesGiven] at hn
      omega
    have hrest := ih hstep fun n => by
      have hn := hroom n
      rw [handlesGiven] at hn
      omega
    simp only [Nat.add_assoc] at hrest
    exact hrest

end LockStep

/-! ## What a program sees -/

/-- A slot table and the slots of a peer of the engine say the same. -/
structure Agrees (t : SlotTable) (q : PeerState) : Prop where
  slots : ∀ slot, t.contains slot = q.slots.contains slot
  broken : ∀ slot, t.isBroken slot = (q.slot slot).broken
  linked : ∀ slot i, t.state? slot i = some .linked ↔ ((q.slot slot).links.get? i).isSome = true
  configured : ∀ slot i, t.state? slot i = some .configured ↔
    ((q.slot slot).configs.get? i).isSome = true ∧ (q.slot slot).links.get? i = none

theorem agrees_of_ledger {t : SlotTable} {q : PeerState} (h : t.ledger = q.ledger) :
    Agrees t q where
  slots slot := by
    rw [Bool.eq_iff_iff, SlotTable.contains_iff, PeerState.contains_iff, h]
  broken slot := by
    rw [SlotTable.isBroken_eq, h, PeerState.view_ledger]
    rfl
  linked slot i := by
    rw [SlotTable.state?_eq, h, PeerState.view_ledger, SlotState.states_eq_linked_iff]
  configured slot i := by
    rw [SlotTable.state?_eq, h, PeerState.view_ledger, SlotState.states_eq_configured_iff]

theorem Agrees.contains_of_broken {t : SlotTable} {q : PeerState} (h : Agrees t q) {slot : Slot}
    (hbroken : (q.slot slot).broken = true) : t.contains slot = true := by
  rw [h.slots, Table.contains]
  cases hslot : q.slots.get? slot with
  | none =>
    rw [PeerState.slot, hslot] at hbroken
    exact absurd hbroken Bool.false_ne_true
  | some s => rfl

namespace LockStep

variable {given : Nat → Nat} {w : Session Nat Fleet} {id : PeerId} {m : Member Nat}
  {h : PeerHandle} {q : PeerState} {slot : Slot}

/-- A slot that a program knows is taken down on both sides when the program wants it. -/
theorem unlink (hlock : LockStep given w.peers w.state) (hm : w.peers.get? id = some m)
    (hopen : m.peer.handle = some h) (hslot : m.peer.slots.contains slot = true) :
    (Loopback.engine (.unlink h slot) (w.state.site m.engine)).1 = .ok () ∧
      ∃ w', w.unlink Fleet.engine id slot = some (.ok (), w') ∧
        ∃ m' q', w'.peers.get? id = some m' ∧ m'.peer.slots.contains slot = false ∧
          (w'.state.state m.engine).peers.get? h = some q' ∧ q'.slots.contains slot = false := by
  obtain ⟨q, hq, hview⟩ := State.view_eq_some_iff.mp (hlock.agree id m h hm hopen)
  have hq : (w.state.site m.engine).state.peers.get? h = some q := hq
  have hledger : q.ledger = m.peer.slots.ledger := congrArg PeerView.ledger hview
  have hknown : q.ledger slot ≠ none := by
    rw [hledger]
    exact (SlotTable.contains_iff _ _).mp hslot
  -- A slot that the table knows is known to the engine, because the ledgers are equal.
  obtain ⟨hok, hafter⟩ := Site.unlink_of_ledger hq hknown
  let p : Peer := { m.peer with slots := m.peer.slots.erase slot }
  let fleet : Fleet := (Fleet.engine m.engine (.unlink h slot) w.state).2
  have hpeer : m.peer.unlink (Fleet.engine m.engine) slot w.state = (.ok (), p, fleet) :=
    Peer.unlink_of_ok (Fleet.engine m.engine) m.peer w.state hopen hslot hok
  have hsession : w.unlink Fleet.engine id slot = some (.ok (), w.update id m p fleet) := by
    unfold Session.unlink Session.perform
    simp only [hm, hpeer, Option.all_none, if_true]
  refine ⟨hok, w.update id m p fleet, hsession, ?_⟩
  have hstate : fleet.state m.engine = ((w.state.site m.engine).unlink h slot).2.state :=
    Fleet.state_engine_self m.engine (.unlink h slot) w.state
  rw [← hstate] at hafter
  obtain ⟨q', hq', hview'⟩ := State.view_eq_some_iff.mp hafter
  have hledger' : q'.ledger = q.ledger.put slot none := congrArg PeerView.ledger hview'
  refine ⟨{ m with peer := p }, q', ?_, ?_, ?_, ?_⟩
  · rw [Session.peers_update, Table.get?_insert_self]
  · rw [Table.contains, Table.get?_erase_self]
    rfl
  · rw [Session.state_update]
    exact hq'
  · rw [Bool.eq_false_iff, ne_eq, PeerState.contains_iff, hledger', Ledger.put_self]
    exact fun hne => hne rfl

end LockStep

/-- As long as every engine gives fewer than 2^64 handles, the slot table of an open peer and the
slots that its engine keeps for it agree at every moment of every run. So every slot that the program
knows can be unlinked, which frees it on both sides; every slot that is broken for the engine is such
a slot; and what the table lets pass is neither broken nor linked for the engine. -/
theorem slots_in_step (machine : Machine) (events : List Event)
    (hroom : ∀ n, handlesGiven n events (start machine) < UInt64.size) :
    let w := run events (start machine)
    ∀ id m h, w.peers.get? id = some m → m.peer.handle = some h →
      ∃ q, (w.state.state m.engine).peers.get? h = some q ∧ Agrees m.peer.slots q ∧
        (∀ slot, m.peer.slots.contains slot = true →
          (Loopback.engine (.unlink h slot) (w.state.site m.engine)).1 = .ok () ∧
            ∃ w', w.unlink Fleet.engine id slot = some (.ok (), w') ∧
              ∃ m' q', w'.peers.get? id = some m' ∧ m'.peer.slots.contains slot = false ∧
                (w'.state.state m.engine).peers.get? h = some q' ∧
                q'.slots.contains slot = false) ∧
        (∀ slot, (q.slot slot).broken = true → m.peer.slots.contains slot = true) ∧
        ∀ slot i, m.peer.slots.checkUsable slot i = .ok () →
          (q.slot slot).broken = false ∧ (q.slot slot).links.get? i = none := by
  intro w id m h hm hopen
  have hlock : LockStep _ w.peers w.state := (LockStep.start machine).run events fun n => by
    rw [Nat.zero_add]
    exact hroom n
  obtain ⟨q, hq, hview⟩ := State.view_eq_some_iff.mp (hlock.agree id m h hm hopen)
  have hledger : m.peer.slots.ledger = q.ledger := (congrArg PeerView.ledger hview).symm
  have hagrees : Agrees m.peer.slots q := agrees_of_ledger hledger
  refine ⟨q, hq, hagrees, fun slot hslot => hlock.unlink hm hopen hslot,
    fun slot hbroken => hagrees.contains_of_broken hbroken, fun slot i husable => ?_⟩
  have husable := (SlotTable.checkUsable_eq_ok_iff _ _ _).mp husable
  rw [hledger] at husable
  obtain ⟨hwhole, hfree⟩ := PeerState.of_usable husable
  exact ⟨Bool.eq_false_iff.mpr hwhole, hfree⟩

/-- A run in which a receiver binds an interface of one slot, to a host that has to be looked up, and
breaks another slot. -/
def boundAndBroken : List Event := [
  .operation (.openContext 0 {}),
  .operation (.openPeer (some ⟨0⟩) (.receiver { frameEncoding := .stereo 48000 })),
  .operation (.onPeer ⟨1⟩ (.bind ⟨0⟩ .audioSource (some ⟨some .rtp, "localhost", 0, ""⟩))),
  .operation (.onPeer ⟨1⟩ (.configure ⟨1⟩ .audioSource { outgoingAddress := "nowhere" }))]

/-- The engine has the link and the broken slot as well, and the broken slot can be unlinked. -/
theorem slots_in_step_boundAndBroken :
    let machine : Machine := { host := .selfContained, random := fun _ => 0 }
    let w := run boundAndBroken (start machine)
    (∀ n, handlesGiven n boundAndBroken (start machine) < UInt64.size) ∧
      ∃ q, (w.state.state 0).peers.get? ⟨2⟩ = some q ∧
        ((q.slot ⟨0⟩).links.get? .audioSource).isSome = true ∧ (q.slot ⟨1⟩).broken = true ∧
        ∃ w', w.unlink Fleet.engine ⟨1⟩ ⟨1⟩ = some (.ok (), w') := by
  intro machine w
  have hroom : ∀ n, handlesGiven n boundAndBroken (start machine) < UInt64.size := fun n =>
    Nat.lt_of_le_of_lt (handlesGiven_le n boundAndBroken (start machine)) (by decide)
  have hseen : (w.peers.get? ⟨1⟩).map (fun m => (m.engine, m.peer.handle,
      m.peer.slots.state? ⟨0⟩ .audioSource, m.peer.slots.isBroken ⟨1⟩,
      m.peer.slots.contains ⟨1⟩)) = some (0, some ⟨2⟩, some .linked, true, true) := by
    decide +kernel
  obtain ⟨m, hm, hseen⟩ := Option.map_eq_some_iff.mp hseen
  simp only [Prod.mk.injEq] at hseen
  obtain ⟨hengine, hopen, hlinked, hbroken, hknown⟩ := hseen
  obtain ⟨q, hq, hagrees, hunlink, -, -⟩ :=
    slots_in_step machine boundAndBroken hroom ⟨1⟩ m ⟨2⟩ hm hopen
  obtain ⟨-, w', hw', -⟩ := hunlink ⟨1⟩ hknown
  refine ⟨hroom, q, hengine ▸ hq, (hagrees.linked _ _).mp hlinked, ?_, w', hw'⟩
  rw [← hagrees.broken, hbroken]

end AudioLink.Loopback
