import AudioLink.Proofs.Loopback.Balance

/-
The lifecycle of the contexts and peers of a program.

With any engines, a context counts the calls that have opened its peers less those that have closed
them, and keeps open as long as one of its peers is. With loopback engines that nobody else asks
anything, the engines count the same as the session, contexts close exactly when they should, and
nothing is left of a program that has dropped everything it held.
-/
set_option autoImplicit false

namespace AudioLink

/-- Whether the engines are left alone, but for their machine: it may change, and receivers may take
what was sent to them. -/
def Action.Undisturbed : Action Nat Loopback.Fleet → Prop
  | .operation _ => True
  | .world change => ∀ fleet, change fleet = fleet.settle ∨
      ∃ machine, change fleet = { fleet with machine }

namespace Loopback

/-! ## Runs -/

namespace Balanced

variable {p p' : Program Nat Fleet}

theorem start (machine : Machine) :
    Balanced (Program.start { machine } : Program Nat Fleet).session where
  registered := .start machine
  contexts := ⟨nofun, nofun, fun _ => rfl⟩
  peers := ⟨nofun, nofun, fun _ => rfl⟩
  attached := nofun

/-- A chain of changes stays balanced while the words for handles last. -/
theorem chain (hb : Balanced p.session) (ha : p.Accounts)
    (hchain : Relation.ReflTransGen (Program.Change Fleet.engine) p p')
    (hroom : ∀ n, handlesIn n p'.session.state.journal < UInt64.size) : Balanced p'.session := by
  induction hchain with
  | refl => exact hb
  | @tail q q' hchain hchange ih =>
    have hbefore (n : Nat) : handlesIn n q.session.state.journal < UInt64.size :=
      Nat.lt_of_le_of_lt (handlesIn_mono hchange.journal n) (hroom n)
    exact (ih hbefore).change (ha.chained hchain) hchange hroom

/-- Every action that leaves the engines to the session stays balanced. -/
theorem after (hb : Balanced p.session) (ha : p.Accounts) (action : Action Nat Fleet)
    (hundisturbed : action.Undisturbed)
    (hroom : ∀ n, handlesIn n (p.after Fleet.engine action).session.state.journal < UInt64.size) :
    Balanced (p.after Fleet.engine action).session := by
  cases action with
  | operation op => exact hb.chain ha (ha.chain Fleet.engine op) hroom
  | world change =>
    have hcensus (n : Nat) :
        (change p.session.state.inner).census n = p.session.state.inner.census n := by
      rcases hundisturbed p.session.state.inner with hsettle | ⟨machine, hmachine⟩
      · rw [hsettle, Fleet.census_settle]
      · rw [hmachine]
        rfl
    exact hb.of_same (hb.registered.of_census hcensus) rfl rfl hcensus

/-- A program and its engines stay balanced in any run. -/
theorem afterAll (hb : Balanced p.session) (ha : p.Accounts) (actions : List (Action Nat Fleet))
    (hundisturbed : ∀ a ∈ actions, a.Undisturbed)
    (hroom : ∀ n, handlesIn n
      (p.afterAll Fleet.engine actions).session.state.journal < UInt64.size) :
    Balanced (p.afterAll Fleet.engine actions).session := by
  induction actions generalizing p with
  | nil => exact hb
  | cons action actions ih =>
    have ha' := ha.after Fleet.engine action
    -- The journal only grows, so there has been room for the first action as well.
    have hgrows := Program.journal_afterAll ha' Fleet.engine actions
    refine ih (hb.after ha action (hundisturbed action List.mem_cons_self) fun n => ?_) ha'
      (fun a hmem => hundisturbed a (List.mem_cons_of_mem action hmem)) hroom
    exact Nat.lt_of_le_of_lt (handlesIn_mono hgrows n) (hroom n)

/-! ## What a program sees -/

variable {w : Session Nat (Journaled Nat Fleet)}

/-- An engine has as many contexts as the session has open ones of it. -/
theorem contexts_size (hb : Balanced w) (n : Nat) :
    (w.state.inner.state n).contexts.size =
      w.contexts.count fun c => decide (c.engine = n) && !c.isClosed := by
  have hsize := hb.contexts.size n
  have himage : (w.state.inner.census n).contexts.size = (w.state.inner.state n).contexts.size :=
    Table.size_image _ _
  rw [himage, Session.openContexts, Table.count_filterMap] at hsize
  refine hsize.trans (congrArg (Table.count w.contexts) (funext fun c => ?_))
  rw [Context.opened?, Context.isClosed]
  cases c.handle with
  | none => exact (Bool.and_false _).symm
  | some h => exact (Bool.and_true _).symm

/-- An engine has as many peers as the session has open ones of it. -/
theorem peers_size (hb : Balanced w) (n : Nat) :
    (w.state.inner.state n).peers.size =
      w.peers.count fun m => decide (m.engine = n) && !m.peer.isClosed := by
  have hsize := hb.peers.size n
  have himage : (w.state.inner.census n).peers.size = (w.state.inner.state n).peers.size :=
    Table.size_image _ _
  rw [himage, Session.openPeers, Table.count_filterMap, Session.attachments, Table.count_image]
    at hsize
  refine hsize.trans (congrArg (Table.count w.peers) (funext fun m => ?_))
  show (m.attachment.opened?).any _ = _
  rw [Attachment.opened?, Peer.isClosed]
  show ((m.peer.handle.map _).any _) = _
  cases m.peer.handle with
  | none => exact (Bool.and_false _).symm
  | some h => exact (Bool.and_true _).symm

/-- A loopback engine closes every context that the session lets it close. -/
theorem closeContext (hb : Balanced p.session) (ha : p.Accounts) {id : ContextId} {c : Context Nat}
    (hc : p.session.contexts.get? id = some c) :
    (p.session.closeContext (journaled Fleet.engine) id).map Prod.fst =
      some (if 0 < c.attached then .failed (.resourceBusy c.attached) else .ok ()) := by
  cases hh : c.handle with
  | none =>
    have hfree : c.attached = 0 := ((ha.sound id).present c hc).idle hh
    rw [Session.closeContext_of_closed _ _ hc hh, if_neg (hfree ▸ Nat.lt_irrefl 0)]
    rfl
  | some h =>
    by_cases hattached : 0 < c.attached
    · rw [Session.closeContext_of_attached _ _ hc hh hattached, if_pos hattached]
      rfl
    · have hfree : c.attached = 0 := Nat.eq_zero_of_not_pos hattached
      obtain ⟨n, hn, hzero⟩ := hb.contexts.found id _ (Session.openContexts_of_get? hc hh)
      have hok := Fleet.contextClose_of_free (hn.trans (congrArg some (hzero.trans hfree)))
      rw [Session.closeContext_of_ok (journaled Fleet.engine) p.session hc hh hfree hok,
        if_neg hattached]
      rfl

end Balanced

/-! ## The lifecycle -/

/-- What the journal and the engines of a program say of its contexts and peers. -/
structure Accounted (p : Program Nat Fleet) : Prop where
  /-- An engine has as many contexts as are open. -/
  contexts : ∀ n, (p.session.state.inner.state n).contexts.size =
    p.session.contexts.count fun c => decide (c.engine = n) && !c.isClosed
  /-- An engine has as many peers as are open. -/
  peers : ∀ n, (p.session.state.inner.state n).peers.size =
    p.session.peers.count fun m => decide (m.engine = n) && !m.peer.isClosed
  /-- An engine keeps as many peers for a context as are attached to it. -/
  attached : ∀ id c h, p.session.contexts.get? id = some c → c.handle = some h →
    ∃ k, (p.session.state.inner.state c.engine).contexts.get? h = some k ∧ k.peers = c.attached
  /-- A context is busy while peers are attached to it, and is closed otherwise. -/
  close : ∀ id c, p.session.contexts.get? id = some c →
    (p.session.closeContext (journaled Fleet.engine) id).map Prod.fst =
      some (if 0 < c.attached then .failed (.resourceBusy c.attached) else .ok ())
  /-- When the last object has been dropped, nothing is left, and every context that a peer was
  opened on has been closed, after the peer. -/
  dropped : (∀ id, p.clones id = 0) → (∀ id, p.session.peers.get? id = none) → ∀ n,
    (p.session.state.inner.state n).contexts.size = 0 ∧
      (p.session.state.inner.state n).peers.size = 0 ∧
      (∀ config c, ⟨n, .contextOpen config, .ok c⟩ ∈ p.session.state.journal →
        ⟨n, .contextClose c, .ok ()⟩ ∈ p.session.state.journal) ∧
      ∀ c config h, ⟨n, .peerOpen c config, .ok h⟩ ∈ p.session.state.journal →
        ∃ before after, p.session.state.journal = before ++ ⟨n, .contextClose c, .ok ()⟩ :: after ∧
          ⟨n, .peerClose h, .ok ()⟩ ∈ before
  /-- No context is closed before a peer of it. -/
  order : ∀ n c before after,
    p.session.state.journal = before ++ ⟨n, .contextClose c, .ok ()⟩ :: after →
      ∀ config h, ⟨n, .peerOpen c config, .ok h⟩ ∈ p.session.state.journal →
        ⟨n, .peerClose h, .ok ()⟩ ∈ before

theorem accounted_of_balanced {p : Program Nat Fleet} (hb : Balanced p.session) (ha : p.Accounts) :
    Accounted p where
  contexts := hb.contexts_size
  peers := hb.peers_size
  attached id c h hc hh := by
    obtain ⟨n, hn, hattached⟩ := hb.contexts.found id _ (Session.openContexts_of_get? hc hh)
    have hn := (State.get?_contexts_census _ h).symm.trans hn
    obtain ⟨k, hk, rfl⟩ := Option.map_eq_some_iff.mp hn
    exact ⟨k, hk, hattached⟩
  close id c hc := hb.closeContext ha hc
  order n := (hb.registered.orderly n).order
  dropped hclones hpeers n := by
    have horderly := hb.registered.orderly n
    have hcontexts : (p.session.state.inner.state n).contexts.size = 0 := by
      rw [hb.contexts_size]
      refine Table.count_eq_zero fun id c hc => absurd hc ?_
      rw [ha.context_of_dropped hclones hpeers id]
      nofun
    have hsize : (p.session.state.inner.state n).peers.size = 0 := by
      rw [hb.peers_size]
      refine Table.count_eq_zero fun id m hm => absurd hm ?_
      rw [hpeers id]
      nofun
    have hclosed {c : ContextHandle} {x : Exchange Nat} (hmem : x ∈ p.session.state.journal)
        (huses : Uses n c x) : ⟨n, .contextClose c, .ok ()⟩ ∈ p.session.state.journal := by
      -- A context that has been used is still there, or has been closed; and none is there.
      refine (horderly.contextKept c x hmem huses).resolve_left fun hkept => hkept ?_
      exact (State.get?_contexts_census _ c).trans
        (congrArg (Option.map _) (Table.get?_of_size_eq_zero hcontexts c))
    refine ⟨hcontexts, hsize, fun config c hmem => hclosed hmem (.opened config),
      fun c config h hmem => ?_⟩
    obtain ⟨before, after, hsplit⟩ := List.append_of_mem (hclosed hmem (.joined config h))
    exact ⟨before, after, hsplit, horderly.order c before after hsplit config h hmem⟩

/-- With any engines, the attached peers of a context are the peers that were opened on it less
those that were closed, and a peer that is open has a context that is open. With loopback engines
that are left alone, and as long as each of them has given fewer than 2^64 handles, the engines
agree with the session at every moment, and nothing is left of a program that has dropped
everything. -/
theorem lifecycle_accounted :
    (∀ {ε σ : Type} (engines : ε → Engine σ) (s : σ) (actions : List (Action ε σ)),
      let p := (Program.start s).afterAll engines actions
      (∀ id c, p.session.contexts.get? id = some c → c.attached + p.closed id = p.opened id) ∧
        ∀ id m, p.session.peers.get? id = some m → m.peer.isClosed = false →
          ∃ c, p.session.contexts.get? m.context = some c ∧ c.isClosed = false) ∧
    ∀ (machine : Machine) (actions : List (Action Nat Fleet)),
      let p := (Program.start { machine }).afterAll Fleet.engine actions
      (∀ a ∈ actions, a.Undisturbed) →
        (∀ n, handlesIn n p.session.state.journal < UInt64.size) → Accounted p := by
  refine ⟨fun engines s actions => ?_, fun machine actions hundisturbed hroom => ?_⟩
  · have ha := (Program.Accounts.start s).afterAll engines actions
    exact ⟨fun id c hc => ((ha.sound id).present c hc).attached, fun id m hm hopen =>
      ha.isOpen_context hm hopen⟩
  · have ha := (Program.Accounts.start ({ machine } : Fleet)).afterAll Fleet.engine actions
    have hb := (Balanced.start machine).afterAll (.start _) actions hundisturbed hroom
    exact accounted_of_balanced hb ha

/-- A program opens two peers on a context of which it holds two clones. -/
def sharedContext : List (Action Nat Fleet) := [
  .operation (.openContext 0 {}),
  .operation (.holdContext ⟨0⟩),
  .operation (.openPeer (some ⟨0⟩) (.sender { frameEncoding := .stereo 48000 })),
  .operation (.openPeer (some ⟨0⟩) (.receiver { frameEncoding := .stereo 48000 }))]

/-- Both clones are dropped, then the sender, which has been closed, and last the receiver. -/
def dropped : List (Action Nat Fleet) := [
  .operation (.releaseContext ⟨0⟩),
  .operation (.onPeer ⟨1⟩ .close),
  .world Fleet.settle,
  .operation (.releaseContext ⟨0⟩),
  .operation (.releasePeer ⟨1⟩),
  .operation (.releasePeer ⟨2⟩)]

/-- The context is busy at first, and in the end it has gone with the receiver. -/
theorem lifecycle_accounted_sharedContext :
    let machine : Machine := { host := .selfContained, random := fun _ => 0 }
    let p : Program Nat Fleet := .start { machine }
    let shared := p.afterAll Fleet.engine sharedContext
    let last := p.afterAll Fleet.engine (sharedContext ++ dropped)
    (shared.session.closeContext (journaled Fleet.engine) ⟨0⟩).map Prod.fst =
        some (.failed (.resourceBusy 2)) ∧
      last.session.state.journal.map (fun x => x.request.call) =
        [.contextOpen, .peerOpen, .peerOpen, .peerClose, .peerClose, .contextClose] ∧
      ∀ n, (last.session.state.inner.state n).contexts.size = 0 ∧
        (last.session.state.inner.state n).peers.size = 0 := by
  intro machine p shared last
  have hundisturbed : ∀ a ∈ sharedContext ++ dropped, a.Undisturbed := by
    simp [sharedContext, dropped, Action.Undisturbed]
  have hroom {journal : List (Exchange Nat)} (hlength : journal.length < UInt64.size) (n : Nat) :
      handlesIn n journal < UInt64.size :=
    Nat.lt_of_le_of_lt List.countP_le_length hlength
  have hbusy : (shared.session.contexts.get? ⟨0⟩).map Context.attached = some 2 := by decide +kernel
  have hcalls : last.session.state.journal.map (fun x => x.request.call) =
      [.contextOpen, .peerOpen, .peerOpen, .peerClose, .peerClose, .contextClose] := by
    decide +kernel
  have hcontexts : last.session.contexts.size = 0 := by decide +kernel
  have hpeers : last.session.peers.size = 0 := by decide +kernel
  have haccounts : last.Accounts := (Program.Accounts.start _).afterAll _ _
  have hshared : Accounted shared := lifecycle_accounted.2 machine sharedContext
    (fun a hmem => hundisturbed a (List.mem_append_left _ hmem)) (hroom (by decide +kernel))
  have hlast : Accounted last := lifecycle_accounted.2 machine (sharedContext ++ dropped)
    hundisturbed (hroom (by decide +kernel))
  -- Nothing more is computed.
  clear_value shared last
  obtain ⟨c, hc, hattached⟩ := Option.map_eq_some_iff.mp hbusy
  have hclose := hshared.close ⟨0⟩ c hc
  rw [hattached] at hclose
  have hclones (id : ContextId) : last.clones id = 0 :=
    ((haccounts.sound id).absent (Table.get?_of_size_eq_zero hcontexts id)).1
  refine ⟨hclose, hcalls, fun n => ?_⟩
  obtain ⟨hcontexts, hpeers, -⟩ := hlast.dropped hclones (Table.get?_of_size_eq_zero hpeers) n
  exact ⟨hcontexts, hpeers⟩

end Loopback
end AudioLink
