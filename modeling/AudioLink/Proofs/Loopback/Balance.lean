import AudioLink.Proofs.Loopback.Journal
import AudioLink.Proofs.Mirrors
import AudioLink.Proofs.Session.Accounting

/-
A program and its loopback engines have the same contexts and peers.

The contexts and peers that are open in a session mirror those of its engines. So an engine closes
whatever the session closes, and a context counts its open peers and no more. Each kind of change is
looked at once, on both sides.
-/
set_option autoImplicit false

namespace AudioLink

/-! ## What is open in a session -/

/-- A context that is open. -/
structure OpenContext where
  engine : Nat
  handle : ContextHandle
  attached : Nat

/-- A peer that is open. -/
structure OpenPeer where
  engine : Nat
  context : ContextId
  handle : PeerHandle

/-- A context as it is seen if it is open. -/
def Context.opened? (c : Context Nat) : Option OpenContext :=
  c.handle.map fun h => ⟨c.engine, h, c.attached⟩

/-- A peer as it is seen if it is open. -/
def Attachment.opened? (a : Attachment Nat) : Option OpenPeer :=
  a.handle.map fun h => ⟨a.engine, a.context, h⟩

namespace Session

variable {σ : Type}

def openContexts (w : Session Nat σ) : Table ContextId OpenContext :=
  w.contexts.filterMap Context.opened?

def openPeers (w : Session Nat σ) : Table PeerId OpenPeer :=
  w.attachments.filterMap Attachment.opened?

theorem openContexts_of_get? {w : Session Nat σ} {id : ContextId} {c : Context Nat}
    {h : ContextHandle} (hc : w.contexts.get? id = some c) (hh : c.handle = some h) :
    w.openContexts.get? id = some ⟨c.engine, h, c.attached⟩ := by
  rw [openContexts, Table.get?_filterMap, hc, Option.bind_some, Context.opened?, hh,
    Option.map_some]

theorem openPeers_of_get? {w : Session Nat σ} {id : PeerId} {a : Attachment Nat}
    {h : PeerHandle} (ha : w.attachments.get? id = some a) (hh : a.handle = some h) :
    w.openPeers.get? id = some ⟨a.engine, a.context, h⟩ := by
  rw [openPeers, Table.get?_filterMap, ha, Option.bind_some, Attachment.opened?, hh,
    Option.map_some]

theorem of_openContexts {w : Session Nat σ} {id : ContextId} {o : OpenContext}
    (ho : w.openContexts.get? id = some o) :
    ∃ c, w.contexts.get? id = some c ∧ c.handle = some o.handle ∧ c.engine = o.engine ∧
      c.attached = o.attached := by
  rw [openContexts, Table.get?_filterMap] at ho
  obtain ⟨c, hc, ho⟩ := Option.bind_eq_some_iff.mp ho
  obtain ⟨h, hh, rfl⟩ := Option.map_eq_some_iff.mp ho
  exact ⟨c, hc, hh, rfl, rfl⟩

end Session

namespace Loopback

/-! ## The invariant -/

/-- A session and its engines have the same contexts and peers. -/
structure Balanced (w : Session Nat (Journaled Nat Fleet)) : Prop where
  registered : Registered w.state
  /-- An engine keeps as many peers for a context as are attached to it. -/
  contexts : Mirrors (fun o n => n = o.attached) (fun o => (o.engine, o.handle))
    w.openContexts fun n => (w.state.inner.census n).contexts
  /-- The context of an open peer is open on both sides. -/
  peers : Mirrors
    (fun o owner => ∃ c, w.openContexts.get? o.context = some c ∧ c.engine = o.engine ∧
      c.handle = owner)
    (fun o => (o.engine, o.handle)) w.openPeers
    fun n => (w.state.inner.census n).peers
  /-- A context counts its open peers and no more. -/
  attached : ∀ id o, w.openContexts.get? id = some o →
    o.attached = w.openPeers.count fun peer => peer.context = id

namespace Balanced

variable {w w' : Session Nat (Journaled Nat Fleet)} {e : Nat}

/-- Nothing is changed by what does not show on either side. -/
theorem of_same (hb : Balanced w) (hregistered : Registered w'.state)
    (hcontexts : w'.openContexts = w.openContexts) (hpeers : w'.openPeers = w.openPeers)
    (hcensus : ∀ n, w'.state.inner.census n = w.state.inner.census n) : Balanced w' := by
  have hcensus : w'.state.inner.census = w.state.inner.census := funext hcensus
  refine ⟨hregistered, ?_, ?_, ?_⟩
  · rw [hcontexts, hcensus]
    exact hb.contexts
  · rw [hcontexts, hpeers, hcensus]
    exact hb.peers
  · rw [hcontexts, hpeers]
    exact hb.attached

theorem quiet (hb : Balanced w) (hquiet : Program.Quiet Fleet.engine w w')
    (hregistered : Registered w'.state) : Balanced w' := by
  refine hb.of_same hregistered ?_ ?_ fun n => ?_
  · rw [Session.openContexts, hquiet.contexts, Session.openContexts]
  · rw [Session.openPeers, hquiet.attachments, Session.openPeers]
  · rcases hquiet.state with hstate | ⟨e, r, hvoid, hstate⟩
    · rw [hstate]
    · rw [hstate]
      by_cases hn : n = e
      · rw [hn]
        exact (Fleet.census_step e r w.state.inner).of_isVoid hvoid
      · exact Fleet.census_of_ne r w.state.inner hn

/-- The next handle of an engine that gives one is not in use. -/
theorem fresh (hb : Balanced w) {r : Request} {a : r.Response}
    (hanswer : (Fleet.engine e r w.state.inner).1 = .ok a)
    (hgives : r.call = .contextOpen ∨ r.call = .peerOpen)
    (hroom : ∀ n, handlesIn n (journaled Fleet.engine e r w.state).2.journal < UInt64.size) :
    let c := w.state.inner.census e
    c.contexts.get? ⟨c.nextId⟩ = none ∧ c.peers.get? ⟨c.nextId⟩ = none := by
  refine (hb.registered.consistent e).fresh ?_
  have hgave : (w.state.entry Fleet.engine e r).gives = true := by
    rw [Journaled.entry, hanswer, Exchange.gives, Exchange.succeeds, Exchange.succeeds]
    rcases hgives with hcall | hcall
    · simp only [hcall]
      rfl
    · simp only [hcall]
      rfl
  have hroom := hroom e
  rw [handlesIn_journaled, if_pos rfl, hgave] at hroom
  exact hroom

section Calls

variable {id : ContextId} {peer : PeerId} {n : Nat}

/-- A call that leaves the peers of its engine alone leaves all peers alone. -/
theorem peers_of_asked {r : Request}
    (hstate : w'.state = (journaled Fleet.engine e r w.state).2)
    (hself : ((Fleet.engine e r w.state.inner).2.census e).peers = (w.state.inner.census e).peers) :
    (fun n => (w'.state.inner.census n).peers) = fun n => (w.state.inner.census n).peers := by
  funext n
  rw [hstate]
  by_cases hn : n = e
  · rw [hn]
    exact hself
  · exact congrArg Census.peers (Fleet.census_of_ne r w.state.inner hn)

/-- A context whose number of peers changes stays the context of its peers. -/
theorem get?_reattached {t : Table ContextId OpenContext} {h : ContextHandle}
    (ho : t.get? id = some ⟨e, h, n⟩) (m : Nat) {other : ContextId} {c : OpenContext}
    (hc : t.get? other = some c) :
    ∃ c', (t.insert id ⟨e, h, m⟩).get? other = some c' ∧ c'.engine = c.engine ∧
      c'.handle = c.handle := by
  by_cases hother : other = id
  · obtain rfl := Option.some.inj (ho.symm.trans (hother ▸ hc))
    rw [hother, Table.get?_insert_self]
    exact ⟨_, rfl, rfl, rfl⟩
  · rw [Table.get?_insert_of_ne _ _ hother]
    exact ⟨c, hc, rfl, rfl⟩

theorem contextOpened (hb : Balanced w) {config : ContextConfig} {h : ContextHandle}
    (hnew : w.openContexts.get? id = none)
    (hanswer : (Fleet.engine e (.contextOpen config) w.state.inner).1 = .ok h)
    (hroom : ∀ n, handlesIn n w'.state.journal < UInt64.size)
    (hcontexts : w'.openContexts = w.openContexts.insert id ⟨e, h, 0⟩)
    (hpeers : w'.openPeers = w.openPeers)
    (hstate : w'.state = (journaled Fleet.engine e (.contextOpen config) w.state).2) :
    Balanced w' := by
  rw [hstate] at hroom
  have hstep := Fleet.census_step e (.contextOpen config) w.state.inner
  rw [hanswer] at hstep
  obtain ⟨rfl, hcensus⟩ := hstep.of_contextOpened
  have hothers (n : Nat) (hn : n ≠ e) := Fleet.census_of_ne (.contextOpen config) w.state.inner hn
  -- What is there already is not the new context.
  have hkeep {other : ContextId} {o : OpenContext} (ho : w.openContexts.get? other = some o) :
      other ≠ id := by
    rintro rfl
    exact absurd (hnew.symm.trans ho) nofun
  have hsame := peers_of_asked hstate (by rw [hcensus])
  refine ⟨hstate ▸ hb.registered.asked e _ hroom, ?_, ?_, fun other o ho => ?_⟩
  · rw [hcontexts, hstate]
    exact hb.contexts.insert hnew rfl (hb.fresh hanswer (.inl rfl) hroom).1
      (congrArg Census.contexts hcensus) (fun n hn => congrArg Census.contexts (hothers n hn)) rfl
  · rw [hpeers, hsame]
    refine hb.peers.mono fun peer o owner _ howner => ?_
    obtain ⟨c, hc, hengine, hhandle⟩ := howner
    refine ⟨c, ?_, hengine, hhandle⟩
    rw [hcontexts, Table.get?_insert_of_ne _ _ (hkeep hc), hc]
  · rw [hcontexts] at ho
    rw [hpeers]
    rcases Table.get?_insert_cases ho with ⟨rfl, rfl⟩ | ⟨-, ho⟩
    · refine (Table.count_eq_zero fun peer o' ho' => decide_eq_false fun heq => ?_).symm
      obtain ⟨-, -, c, hc, -⟩ := hb.peers.found peer o' ho'
      exact hkeep hc heq
    · exact hb.attached other o ho

/-- A context without peers is closed on both sides. -/
theorem contextClosed (hb : Balanced w) {h : ContextHandle}
    (ho : w.openContexts.get? id = some ⟨e, h, 0⟩)
    (hroom : ∀ n, handlesIn n w'.state.journal < UInt64.size)
    (hcontexts : w'.openContexts = w.openContexts.erase id)
    (hpeers : w'.openPeers = w.openPeers)
    (hstate : w'.state = (journaled Fleet.engine e (.contextClose h) w.state).2) :
    Balanced w' := by
  rw [hstate] at hroom
  obtain ⟨n, hn, rfl⟩ := hb.contexts.found id _ ho
  have hstep := Fleet.census_step e (.contextClose h) w.state.inner
  rw [Fleet.contextClose_of_free hn] at hstep
  have hcensus := hstep.of_contextClosed
  have hothers (n : Nat) (hn : n ≠ e) := Fleet.census_of_ne (.contextClose h) w.state.inner hn
  have hsame := peers_of_asked hstate (by rw [hcensus])
  -- The context counts none of the peers that are left, so each of them has another one.
  have hfree {peer : PeerId} {o : OpenPeer} (hpeer : w.openPeers.get? peer = some o) :
      o.context ≠ id := by
    intro heq
    have hpos := Table.count_pos_of_get? (p := fun o => decide (o.context = id)) hpeer
      (decide_eq_true heq)
    rw [← hb.attached id _ ho] at hpos
    exact Nat.lt_irrefl 0 hpos
  refine ⟨hstate ▸ hb.registered.asked e _ hroom, ?_, ?_, fun other o hother => ?_⟩
  · rw [hcontexts, hstate]
    exact hb.contexts.erase ho rfl (congrArg Census.contexts hcensus)
      fun n hn => congrArg Census.contexts (hothers n hn)
  · rw [hpeers, hsame]
    refine hb.peers.mono fun peer o owner hpeer howner => ?_
    obtain ⟨c, hc, hengine, hhandle⟩ := howner
    refine ⟨c, ?_, hengine, hhandle⟩
    rw [hcontexts, Table.get?_erase_of_ne _ (hfree hpeer), hc]
  · rw [hcontexts] at hother
    rw [hpeers]
    exact hb.attached other o (Table.get?_of_get?_erase hother).2

theorem peerOpened (hb : Balanced w) {h : ContextHandle} {config : PeerConfig}
    {handle : PeerHandle} (ho : w.openContexts.get? id = some ⟨e, h, n⟩)
    (hnew : w.openPeers.get? peer = none)
    (hanswer : (Fleet.engine e (.peerOpen h config) w.state.inner).1 = .ok handle)
    (hroom : ∀ n, handlesIn n w'.state.journal < UInt64.size)
    (hcontexts : w'.openContexts = w.openContexts.insert id ⟨e, h, n + 1⟩)
    (hpeers : w'.openPeers = w.openPeers.insert peer ⟨e, id, handle⟩)
    (hstate : w'.state = (journaled Fleet.engine e (.peerOpen h config) w.state).2) :
    Balanced w' := by
  rw [hstate] at hroom
  have hstep := Fleet.census_step e (.peerOpen h config) w.state.inner
  rw [hanswer] at hstep
  obtain ⟨rfl, k, hk, hcensus⟩ := hstep.of_peerOpened
  obtain ⟨n', hn', rfl⟩ := hb.contexts.found id _ ho
  obtain rfl : k = n' := Option.some.inj (hk.symm.trans hn')
  have hothers (n : Nat) (hn : n ≠ e) := Fleet.census_of_ne (.peerOpen h config) w.state.inner hn
  refine ⟨hstate ▸ hb.registered.asked e _ hroom, ?_, ?_, fun other o hother => ?_⟩
  · rw [hcontexts, hstate]
    exact hb.contexts.replace ho rfl rfl (congrArg Census.contexts hcensus)
      (fun n hn => congrArg Census.contexts (hothers n hn)) rfl
  · rw [hpeers, hstate]
    refine Mirrors.insert (hb.peers.mono fun other o owner _ howner => ?_) hnew rfl
      (hb.fresh hanswer (.inr rfl) hroom).2 (congrArg Census.peers hcensus)
      (fun n hn => congrArg Census.peers (hothers n hn)) ?_
    · obtain ⟨c, hc, hengine, hhandle⟩ := howner
      obtain ⟨c', hc', hengine', hhandle'⟩ := get?_reattached ho (k + 1) hc
      exact ⟨c', hcontexts ▸ hc', hengine'.trans hengine, hhandle'.trans hhandle⟩
    · exact ⟨_, by rw [hcontexts, Table.get?_insert_self], rfl, rfl⟩
  · rw [hcontexts] at hother
    rw [hpeers, Table.count_insert_of_none hnew]
    -- The new peer counts for its own context and for no other.
    rcases Table.get?_insert_cases hother with ⟨rfl, rfl⟩ | ⟨hne, hother⟩
    · rw [if_pos (decide_eq_true rfl), ← hb.attached other _ ho]
    · rw [if_neg fun heq => hne (of_decide_eq_true heq).symm, Nat.add_zero]
      exact hb.attached other o hother

/-- A peer is closed on both sides. -/
theorem peerClosed (hb : Balanced w) {h : PeerHandle} {c : OpenContext}
    (ho : w.openPeers.get? peer = some ⟨e, id, h⟩) (hc : w.openContexts.get? id = some c)
    (hroom : ∀ n, handlesIn n w'.state.journal < UInt64.size)
    (hcontexts : w'.openContexts = w.openContexts.insert id { c with attached := c.attached - 1 })
    (hpeers : w'.openPeers = w.openPeers.erase peer)
    (hstate : w'.state = (journaled Fleet.engine e (.peerClose h) w.state).2) :
    Balanced w' := by
  rw [hstate] at hroom
  obtain ⟨owner, howner, c', hc', hengine, hhandle⟩ := hb.peers.found peer _ ho
  obtain rfl : c = c' := Option.some.inj (hc.symm.trans hc')
  obtain rfl : c.engine = e := hengine
  have hstep := Fleet.census_step c.engine (.peerClose h) w.state.inner
  rw [Fleet.peerClose_of_get? howner] at hstep
  obtain ⟨owner', howner', hcensus⟩ := hstep.of_peerClosed
  obtain rfl : owner = owner' := Option.some.inj (howner.symm.trans howner')
  have hothers (n : Nat) (hn : n ≠ c.engine) :=
    Fleet.census_of_ne (.peerClose h) w.state.inner hn
  obtain ⟨n, hn, rfl⟩ := hb.contexts.found id c hc
  rw [hhandle] at hn
  have hmodify : (w.state.inner.census c.engine).contexts.modify owner (· - 1) =
      (w.state.inner.census c.engine).contexts.insert owner (c.attached - 1) := by
    rw [Table.modify, hn]
  rw [hmodify] at hcensus
  have hcount (f : OpenPeer → Bool) := Table.count_erase_of_some ho f
  refine ⟨hstate ▸ hb.registered.asked c.engine _ hroom, ?_, ?_, fun other o hother => ?_⟩
  · rw [hcontexts, hstate]
    exact hb.contexts.replace hc (congrArg (c.engine, ·) hhandle) rfl
      (congrArg Census.contexts hcensus)
      (fun n hn => congrArg Census.contexts (hothers n hn)) rfl
  · rw [hpeers, hstate]
    refine Mirrors.erase (hb.peers.mono fun other o owner _ howner => ?_) ho rfl
      (congrArg Census.peers hcensus) (fun n hn => congrArg Census.peers (hothers n hn))
    obtain ⟨d, hd, hengine, hhandle⟩ := howner
    obtain ⟨d', hd', hengine', hhandle'⟩ := get?_reattached hc (c.attached - 1) hd
    exact ⟨d', hcontexts ▸ hd', hengine'.trans hengine, hhandle'.trans hhandle⟩
  · rw [hcontexts] at hother
    rw [hpeers]
    have hcount := hcount fun peer => peer.context = other
    rcases Table.get?_insert_cases hother with ⟨rfl, rfl⟩ | ⟨hne, hother⟩
    · rw [if_pos (decide_eq_true rfl), ← hb.attached other c hc] at hcount
      exact Nat.eq_sub_of_add_eq hcount |>.symm
    · rw [if_neg fun heq => hne (of_decide_eq_true heq).symm] at hcount
      exact (hb.attached other o hother).trans hcount.symm

end Calls

/-! ## Changes -/

section Changes

variable {p p' : Program Nat Fleet}

/-- When the last clone of a context is dropped, no peer is attached to it. -/
theorem attached_of_dropped (hb : Balanced p.session) (ha : p.Accounts) {id : ContextId}
    {c : Context Nat} {h : ContextHandle} (hc : p.session.contexts.get? id = some c)
    (hh : c.handle = some h) (hclones : 0 < p.clones id) (hholders : c.holders ≤ 1) :
    c.attached = 0 := by
  have hheld : c.holders = p.clones id + p.session.attachments.count (Attachment.isOf id) :=
    ((ha.sound id).present c hc).holders
  have hattached := hb.attached id _ (Session.openContexts_of_get? hc hh)
  -- A peer of the context would hold it beside the clone.
  refine hattached.trans (Table.count_eq_zero fun peer o ho => decide_eq_false fun heq => ?_)
  rw [Session.openPeers, Table.get?_filterMap] at ho
  obtain ⟨a, ha, ho⟩ := Option.bind_eq_some_iff.mp ho
  obtain ⟨handle, -, rfl⟩ := Option.map_eq_some_iff.mp ho
  have hof : a.isOf id = true := decide_eq_true heq
  have hpos := Table.count_pos_of_get? ha hof
  omega

theorem change (hb : Balanced p.session) (ha : p.Accounts)
    (hchange : Program.Change Fleet.engine p p')
    (hroom : ∀ n, handlesIn n p'.session.state.journal < UInt64.size) : Balanced p'.session := by
  cases hchange with
  | quiet w hquiet =>
    refine hb.quiet hquiet ?_
    rcases hquiet.state with hstate | ⟨e, r, -, hstate⟩
    · rw [hstate]
      exact hb.registered
    · have hroom : ∀ n, handlesIn n w.state.journal < UInt64.size := hroom
      rw [hstate] at hroom ⊢
      exact hb.registered.asked e r hroom
  | contextOpened e config h hanswer =>
    have hnone : p.session.contexts.get? ⟨p.session.next⟩ = none :=
      congrArg Account.context (ha.unused ⟨p.session.next⟩ (Nat.le_refl _))
    refine hb.contextOpened ?_ hanswer hroom (Table.filterMap_insert_of_some _ _ rfl) rfl rfl
    rw [Session.openContexts, Table.get?_filterMap, hnone, Option.bind_none]
  | cloned id c hc =>
    exact hb.of_same hb.registered (Table.filterMap_insert_of_eq hc rfl) rfl fun _ => rfl
  | cloneDropped id c hc hclones hholders =>
    exact hb.of_same hb.registered (Table.filterMap_insert_of_eq hc rfl) rfl fun _ => rfl
  | contextDropped id c state hc hclones hholders hstate hclosed =>
    have herase : (p.session.contexts.erase id).filterMap Context.opened? =
        p.session.openContexts.erase id := Table.filterMap_erase _ _ _
    cases hh : c.handle with
    | none =>
      obtain rfl := hclosed hh
      refine hb.of_same hb.registered (herase.trans (Table.erase_of_get? ?_)) rfl fun _ => rfl
      rw [Session.openContexts, Table.get?_filterMap, hc, Option.bind_some, Context.opened?, hh]
      rfl
    | some h =>
      have ho := Session.openContexts_of_get? hc hh
      rw [hb.attached_of_dropped ha hc hh hclones hholders] at ho
      exact hb.contextClosed ho hroom herase rfl (hstate h hh)
  | contextClosed id c h hc hh hfree hanswer =>
    have ho := Session.openContexts_of_get? hc hh
    rw [hfree] at ho
    exact hb.contextClosed ho hroom (Table.filterMap_insert_of_none _ _ rfl) rfl rfl
  | peerOpened id c h config peer w hc hh hanswer hcontexts hattachments hnext hstate =>
    have hnone := ha.unusedPeer ⟨p.session.next⟩ (Nat.le_refl _)
    have hnew : p.session.openPeers.get? ⟨p.session.next⟩ = none := by
      rw [Session.openPeers, Table.get?_filterMap, hnone, Option.bind_none]
    refine hb.peerOpened (Session.openContexts_of_get? hc hh) hnew hanswer hroom ?_ ?_ hstate
    · rw [Session.openContexts, hcontexts]
      refine Table.filterMap_insert_of_some _ _ ?_
      rw [Context.opened?, hh]
      rfl
    · rw [Session.openPeers, hattachments]
      exact Table.filterMap_insert_of_some _ _ rfl
  | peerClosed id a h w hattachment hh hanswer hcontexts hattachments hnext hstate =>
    have ho := Session.openPeers_of_get? hattachment hh
    obtain ⟨-, -, o, hopen, -⟩ := hb.peers.found id _ ho
    obtain ⟨c, hc, hhandle, hengine, hattached⟩ := Session.of_openContexts hopen
    refine hb.peerClosed ho hopen hroom ?_ ?_ hstate
    · rw [Session.openContexts, hcontexts, Table.modify, hc]
      refine Table.filterMap_insert_of_some _ _ ?_
      rw [Context.opened?, hhandle, ← hengine, ← hattached]
      rfl
    · rw [Session.openPeers, hattachments]
      exact Table.filterMap_insert_of_none _ _ rfl
  | peerDropped id a w hattachment hcontexts hattachments hnext hclosed hopen =>
    have hpeers : w.openPeers = p.session.openPeers.erase id := by
      rw [Session.openPeers, hattachments]
      exact Table.filterMap_erase _ _ _
    cases hh : a.handle with
    | none =>
      have hstate := hclosed hh
      refine hb.of_same (hstate ▸ hb.registered) ?_ ?_ fun n => ?_
      · show w.openContexts = _
        rw [Session.openContexts, hcontexts, Session.openContexts]
      · refine hpeers.trans (Table.erase_of_get? ?_)
        rw [Session.openPeers, Table.get?_filterMap, hattachment, Option.bind_some,
          Attachment.opened?, hh]
        rfl
      · show w.state.inner.census n = _
        rw [hstate]
    | some h =>
      -- A loopback engine does not refuse to close a peer that it has.
      obtain ⟨⟨code, hrefused⟩, -⟩ := hopen h hh
      obtain ⟨owner, howner, -⟩ := hb.peers.found id _ (Session.openPeers_of_get? hattachment hh)
      rw [Fleet.peerClose_of_get? howner] at hrefused
      cases hrefused

end Changes

end Balanced

end Loopback
end AudioLink
