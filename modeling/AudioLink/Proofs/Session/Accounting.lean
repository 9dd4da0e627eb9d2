import AudioLink.Proofs.Session.Changes

/-
The accounts of the contexts of a session.

Beside each context stands an `Account`, in which everything is counted from outside: clones, peers,
and calls that have succeeded. The accounts are sound when the two counters that a context keeps
agree with them. A change moves the account of one context only, so soundness is looked at one
account at a time. Nothing is assumed of the engines: handles may be given twice, and a peer may be
refused to be closed and be dropped all the same, which is why a context may count more peers than
are open.
-/
set_option autoImplicit false

namespace AudioLink

/-! ## Accounts -/

namespace Attachment

variable {ε : Type}

/-- Whether a peer belongs to a context. -/
def isOf (id : ContextId) (a : Attachment ε) : Bool := a.context = id

/-- Whether a peer belongs to a context and is open. -/
def isOpenOf (id : ContextId) (a : Attachment ε) : Bool := a.isOf id && a.handle.isSome

/-- A peer that is open in a context is of this context. -/
theorem isOf_of_isOpenOf {id : ContextId} {a : Attachment ε} (h : a.isOpenOf id = true) :
    a.isOf id = true :=
  (Bool.and_eq_true_iff.mp h).1

theorem isOf_self (a : Attachment ε) : a.isOf a.context = true := decide_eq_true rfl

theorem isOpenOf_self {a : Attachment ε} {h : PeerHandle} (hh : a.handle = some h) :
    a.isOpenOf a.context = true := by
  rw [isOpenOf, isOf_self, hh]
  rfl

end Attachment

/-- What is counted for a context. -/
@[ext]
structure Account (ε : Type) where
  /-- The context, while anybody holds it. -/
  context : Option (Context ε) := none
  clones : Nat := 0
  /-- Number of peers of the context that have not been dropped. -/
  peers : Nat := 0
  /-- Number of peers of the context that are open. -/
  openPeers : Nat := 0
  /-- Number of calls that have opened a peer of the context. -/
  opened : Nat := 0
  /-- Number of calls that have closed a peer of the context. -/
  closed : Nat := 0

/-- The counters of a context agree with its account. -/
structure Context.Balances {ε : Type} (c : Context ε) (a : Account ε) : Prop where
  /-- The context is held by its clones and by its peers. -/
  holders : c.holders = a.clones + a.peers
  held : 0 < c.holders
  attached : c.attached + a.closed = a.opened
  openPeers : a.openPeers ≤ c.attached
  /-- A context is closed only when no peer is attached. -/
  idle : c.handle = none → c.attached = 0

namespace Account

variable {ε : Type}

/-- A context that nobody holds has no clones and no peers. -/
structure Sound (a : Account ε) : Prop where
  present : ∀ c, a.context = some c → c.Balances a
  absent : a.context = none → a.clones = 0 ∧ a.peers = 0

theorem sound_empty : Sound ({} : Account ε) := ⟨nofun, fun _ => ⟨rfl, rfl⟩⟩

/-- The books of a context that is there. -/
theorem sound_of_balances {a : Account ε} {c : Context ε} (hc : a.context = some c)
    (hbalances : c.Balances a) : a.Sound where
  present c' hc' := by
    obtain rfl := Option.some.inj (hc.symm.trans hc')
    exact hbalances
  absent hnone := absurd (hc.symm.trans hnone) nofun

end Account

/-! ## The accounts of a program -/

namespace Program

variable {ε σ : Type} {engines : ε → Engine σ} {p p' : Program ε σ}

/-- The account of a context. -/
def account (p : Program ε σ) (id : ContextId) : Account ε where
  context := p.session.contexts.get? id
  clones := p.clones id
  peers := p.session.attachments.count (Attachment.isOf id)
  openPeers := p.session.attachments.count (Attachment.isOpenOf id)
  opened := p.opened id
  closed := p.closed id

/-- All accounts are sound, and nothing is counted yet for names that are still to be given. -/
structure Accounts (p : Program ε σ) : Prop where
  sound : ∀ id, (p.account id).Sound
  unused : ∀ id : ContextId, p.session.next ≤ id.index → p.account id = {}
  unusedPeer : ∀ id : PeerId, p.session.next ≤ id.index → p.session.attachments.get? id = none

/-- The name of a context that is held has been given. -/
theorem Accounts.index_lt (haccounts : p.Accounts) {id : ContextId} {c : Context ε}
    (hc : p.session.contexts.get? id = some c) : id.index < p.session.next := by
  refine Nat.lt_of_not_le fun hle => ?_
  have hnone : p.session.contexts.get? id = none :=
    congrArg Account.context (haccounts.unused id hle)
  exact absurd (hc.symm.trans hnone) nofun

/-- The context of a peer is held, by this peer at least. -/
theorem Accounts.isSome_context (haccounts : p.Accounts) {id : PeerId} {a : Attachment ε}
    (ha : p.session.attachments.get? id = some a) :
    (p.session.contexts.get? a.context).isSome = true := by
  refine Option.isSome_iff_ne_none.mpr fun hnone => ?_
  have hpeers := ((haccounts.sound a.context).absent hnone).2
  have hcounted := Table.count_erase_of_some ha (Attachment.isOf a.context)
  rw [if_pos a.isOf_self] at hcounted
  simp only [account] at hpeers
  omega

/-- A peer that is open has a context that is open. -/
theorem Accounts.isOpen_context (haccounts : p.Accounts) {id : PeerId} {m : Member ε}
    (hm : p.session.peers.get? id = some m) (hopen : m.peer.isClosed = false) :
    ∃ c, p.session.contexts.get? m.context = some c ∧ c.isClosed = false := by
  have hattachment := Session.attachments_of_get? hm
  obtain ⟨c, hc⟩ := Option.isSome_iff_exists.mp (haccounts.isSome_context hattachment)
  have hbalances := (haccounts.sound m.context).present c hc
  obtain ⟨h, hh⟩ : ∃ h, m.peer.handle = some h :=
    Option.isSome_iff_exists.mp (Option.isNone_eq_false_iff.mp hopen)
  have hisOpen : m.attachment.isOpenOf m.context = true := Attachment.isOpenOf_self hh
  have hpos := Table.count_pos_of_get? hattachment hisOpen
  refine ⟨c, hc, Option.isNone_eq_false_iff.mpr (Option.isSome_iff_ne_none.mpr fun hnone => ?_)⟩
  have hle : p.session.attachments.count (Attachment.isOpenOf m.context) ≤ c.attached :=
    hbalances.openPeers
  have hfree := hbalances.idle hnone
  omega

/-- Nobody holds a context of a program that has dropped everything. -/
theorem Accounts.context_of_dropped (haccounts : p.Accounts) (hclones : ∀ id, p.clones id = 0)
    (hpeers : ∀ id, p.session.peers.get? id = none) (id : ContextId) :
    p.session.contexts.get? id = none := by
  refine Option.eq_none_iff_forall_ne_some.mpr fun c hc => ?_
  have hbalances := (haccounts.sound id).present c hc
  have hholders : c.holders = p.clones id + p.session.attachments.count (Attachment.isOf id) :=
    hbalances.holders
  have hcount : p.session.attachments.count (Attachment.isOf id) = 0 := by
    refine Table.count_eq_zero fun peer a ha => absurd ha ?_
    rw [Session.get?_attachments, hpeers peer]
    nofun
  -- Somebody holds a context that is there, but there are neither clones nor peers to hold it.
  have hheld := hbalances.held
  have hnone := hclones id
  omega

/-- When the account of one context has moved, only this one is looked at. -/
theorem Accounts.of_moved (haccounts : p.Accounts) (id : ContextId)
    (hnext : p.session.next ≤ p'.session.next) (hid : id.index < p'.session.next)
    (hothers : ∀ other, other ≠ id → p'.account other = p.account other)
    (hpeers : ∀ peer : PeerId, p'.session.next ≤ peer.index →
      p'.session.attachments.get? peer = none)
    (hsound : (p'.account id).Sound) : p'.Accounts where
  sound other := by
    by_cases hother : other = id
    · exact hother ▸ hsound
    · exact hothers other hother ▸ haccounts.sound other
  unused other hunused := by
    have hother : other ≠ id := by
      rintro rfl
      omega
    rw [hothers other hother]
    exact haccounts.unused other (Nat.le_trans hnext hunused)
  unusedPeer := hpeers

/-! ### Changes -/

/-- The account of a context reads nothing but these amounts. -/
theorem account_eq_of {id : ContextId}
    (hcontext : p'.session.contexts.get? id = p.session.contexts.get? id)
    (hcount : ∀ f : Attachment ε → Bool, (∀ a, f a = true → a.context = id) →
      p'.session.attachments.count f = p.session.attachments.count f)
    (hclones : p'.clones id = p.clones id) (hopened : p'.opened id = p.opened id)
    (hclosed : p'.closed id = p.closed id) : p'.account id = p.account id := by
  have hpeers := hcount (Attachment.isOf id) fun a ha => of_decide_eq_true ha
  have hopen := hcount (Attachment.isOpenOf id) fun a ha =>
    of_decide_eq_true (Attachment.isOf_of_isOpenOf ha)
  exact Account.ext hcontext hclones hpeers hopen hopened hclosed

/-- What is quiet leaves all books as they are. -/
theorem Accounts.quiet (haccounts : p.Accounts) {w : Session ε (Journaled ε σ)}
    (hquiet : Quiet engines p.session w) : Accounts { p with session := w } := by
  have hsame (id : ContextId) : account { p with session := w } id = p.account id := by
    refine account_eq_of ?_ ?_ rfl rfl rfl
    · exact congrArg (Table.get? · id) hquiet.contexts
    · exact fun f _ => congrArg (Table.count · f) hquiet.attachments
  refine ⟨fun id => hsame id ▸ haccounts.sound id, fun id hid => ?_, fun id hid => ?_⟩
  · rw [hsame]
    exact haccounts.unused id (hquiet.next ▸ hid)
  · show w.attachments.get? id = none
    rw [hquiet.attachments]
    exact haccounts.unusedPeer id (hquiet.next ▸ hid)

/-- A new context has empty books. -/
theorem Accounts.contextOpened (haccounts : p.Accounts) (e : ε) (h : ContextHandle)
    (state : Journaled ε σ) :
    Accounts { p with
      session := { p.session with
        contexts := p.session.contexts.insert ⟨p.session.next⟩ { engine := e, handle := some h }
        next := p.session.next + 1
        state }
      clones := raise p.clones (some ⟨p.session.next⟩) 1 } := by
  refine haccounts.of_moved ⟨p.session.next⟩ (Nat.le_succ _) (Nat.lt_succ_self _) ?_ ?_ ?_
  · intro other hother
    exact account_eq_of (Table.get?_insert_of_ne _ _ hother) (fun _ _ => rfl)
      (raise_of_ne p.clones 1 hother) rfl rfl
  · exact fun peer hpeer => haccounts.unusedPeer peer (Nat.le_of_succ_le hpeer)
  · have hempty := haccounts.unused ⟨p.session.next⟩ (Nat.le_refl _)
    have hclones : p.clones ⟨p.session.next⟩ = 0 := congrArg Account.clones hempty
    have hpeers : (p.account ⟨p.session.next⟩).peers = 0 := congrArg Account.peers hempty
    have hholders : 1 = raise p.clones (some ⟨p.session.next⟩) 1 ⟨p.session.next⟩ +
        (p.account ⟨p.session.next⟩).peers := by
      rw [raise_self, hclones, hpeers]
    have hattached : 0 + (p.account ⟨p.session.next⟩).closed =
        (p.account ⟨p.session.next⟩).opened := by
      rw [hempty]
      rfl
    have hopen : (p.account ⟨p.session.next⟩).openPeers ≤ 0 :=
      Nat.le_of_eq (congrArg Account.openPeers hempty)
    exact Account.sound_of_balances (Table.get?_insert_self _ _ _)
      ⟨hholders, Nat.one_pos, hattached, hopen, nofun⟩

/-- The holders of one context change together with its clones. -/
theorem Accounts.reheld (haccounts : p.Accounts) {id : ContextId} {c : Context ε} {n : Nat}
    {clones : ContextId → Nat} (hc : p.session.contexts.get? id = some c) (hn : 0 < n)
    (hclones : clones id + c.holders = p.clones id + n)
    (hothers : ∀ other, other ≠ id → clones other = p.clones other) :
    Accounts { p with
      session := { p.session with contexts := p.session.contexts.insert id { c with holders := n } }
      clones } := by
  refine haccounts.of_moved id (Nat.le_refl _) (haccounts.index_lt hc) ?_ haccounts.unusedPeer ?_
  · intro other hother
    exact account_eq_of (Table.get?_insert_of_ne _ _ hother) (fun _ _ => rfl)
      (hothers other hother) rfl rfl
  · have hbalances := (haccounts.sound id).present c hc
    have hholders : c.holders = p.clones id + (p.account id).peers := hbalances.holders
    have hholders' : n = clones id + (p.account id).peers := by omega
    exact Account.sound_of_balances (Table.get?_insert_self _ _ _)
      ⟨hholders', hn, hbalances.attached, hbalances.openPeers, hbalances.idle⟩

/-- The last holder of a context takes its books away. -/
theorem Accounts.contextDropped (haccounts : p.Accounts) {id : ContextId} {c : Context ε}
    (state : Journaled ε σ) (hc : p.session.contexts.get? id = some c) (hclones : 0 < p.clones id)
    (hholders : c.holders ≤ 1) :
    Accounts { p with
      session := { p.session with contexts := p.session.contexts.erase id, state }
      clones := lower p.clones id 1 } := by
  refine haccounts.of_moved id (Nat.le_refl _) (haccounts.index_lt hc) ?_ haccounts.unusedPeer ?_
  · intro other hother
    exact account_eq_of (Table.get?_erase_of_ne _ hother) (fun _ _ => rfl)
      (lower_of_ne p.clones 1 hother) rfl rfl
  · have hnone : (p.session.contexts.erase id).get? id = none := Table.get?_erase_self _ _
    refine ⟨fun c' hc' => absurd (hnone.symm.trans hc') nofun, fun _ => ?_⟩
    have hheld : c.holders = p.clones id + (p.account id).peers :=
      ((haccounts.sound id).present c hc).holders
    -- The clone that is dropped is the only holder, so no peer holds the context.
    have hclones' : lower p.clones id 1 id = 0 := by
      rw [lower_self]
      omega
    have hpeers : (p.account id).peers = 0 := by omega
    exact ⟨hclones', hpeers⟩

/-- A context is closed when nothing is attached to it. -/
theorem Accounts.contextClosed (haccounts : p.Accounts) {id : ContextId} {c : Context ε}
    (state : Journaled ε σ) (hc : p.session.contexts.get? id = some c) (hfree : c.attached = 0) :
    Accounts { p with session := { p.session with
      contexts := p.session.contexts.insert id { c with handle := none }, state } } := by
  refine haccounts.of_moved id (Nat.le_refl _) (haccounts.index_lt hc) ?_ haccounts.unusedPeer ?_
  · intro other hother
    exact account_eq_of (Table.get?_insert_of_ne _ _ hother) (fun _ _ => rfl) rfl rfl rfl
  · have hbalances := (haccounts.sound id).present c hc
    exact Account.sound_of_balances (Table.get?_insert_self _ _ _)
      ⟨hbalances.holders, hbalances.held, hbalances.attached, hbalances.openPeers, fun _ => hfree⟩

/-! #### Peers -/

/-- A peer that is opened is one more that is attached, that holds, and that was opened. -/
theorem Accounts.peerOpened (haccounts : p.Accounts) {id : ContextId} {c : Context ε}
    {h : ContextHandle} {peer : PeerHandle} {w : Session ε (Journaled ε σ)}
    (hc : p.session.contexts.get? id = some c) (hh : c.handle = some h)
    (hcontexts : w.contexts = p.session.contexts.insert id
      { c with attached := c.attached + 1, holders := c.holders + 1 })
    (hattachments : w.attachments =
      p.session.attachments.insert ⟨p.session.next⟩ ⟨c.engine, id, some peer⟩)
    (hnext : w.next = p.session.next + 1) :
    Accounts { p with session := w, opened := raise p.opened (some id) 1 } := by
  have hindex := haccounts.index_lt hc
  have hunused := haccounts.unusedPeer ⟨p.session.next⟩ (Nat.le_refl _)
  have hle : p.session.next ≤ w.next := hnext ▸ Nat.le_succ _
  have hcount (f : Attachment ε → Bool) : w.attachments.count f =
      p.session.attachments.count f + if f ⟨c.engine, id, some peer⟩ = true then 1 else 0 := by
    rw [hattachments, Table.count_insert_of_none hunused _ f]
  -- Nothing moves at other contexts; at this one every amount goes up by one.
  refine haccounts.of_moved id hle (Nat.lt_of_lt_of_le hindex hle) ?_ ?_ ?_
  · intro other hother
    refine account_eq_of ?_ (fun f hf => ?_) rfl (raise_of_ne p.opened 1 hother) rfl
    · show w.contexts.get? other = _
      rw [hcontexts, Table.get?_insert_of_ne _ _ hother]
    · refine (hcount f).trans ?_
      rw [if_neg fun ha => hother (hf _ ha).symm, Nat.add_zero]
  · intro other hother
    have hother : w.next ≤ other.index := hother
    show w.attachments.get? other = none
    have hne : other ≠ ⟨p.session.next⟩ := by
      rintro rfl
      exact Nat.not_succ_le_self _ (hnext ▸ hother)
    rw [hattachments, Table.get?_insert_of_ne _ _ hne]
    exact haccounts.unusedPeer other (Nat.le_trans hle hother)
  · have hbalances := (haccounts.sound id).present c hc
    let a : Attachment ε := ⟨c.engine, id, some peer⟩
    have hisOf : a.isOf id = true := a.isOf_self
    have hisOpenOf : a.isOpenOf id = true := Attachment.isOpenOf_self rfl
    have hpeers : w.attachments.count (Attachment.isOf id) = (p.account id).peers + 1 := by
      rw [hcount, if_pos hisOf]
      rfl
    have hopen : w.attachments.count (Attachment.isOpenOf id) = (p.account id).openPeers + 1 := by
      rw [hcount, if_pos hisOpenOf]
      rfl
    have hholders : c.holders + 1 = p.clones id + w.attachments.count (Attachment.isOf id) := by
      rw [hpeers, hbalances.holders]
      rfl
    have hattached : c.attached + 1 + p.closed id = raise p.opened (some id) 1 id := by
      rw [raise_self, Nat.add_right_comm]
      exact congrArg (· + 1) hbalances.attached
    refine Account.sound_of_balances (c := { c with
      attached := c.attached + 1, holders := c.holders + 1 }) ?_
      ⟨hholders, Nat.succ_pos _, hattached, ?_, fun hclosed => ?_⟩
    · show w.contexts.get? id = _
      rw [hcontexts, Table.get?_insert_self]
    · exact Nat.le_trans (Nat.le_of_eq hopen) (Nat.succ_le_succ hbalances.openPeers)
    · exact absurd (hh.symm.trans hclosed) nofun

/-- A peer that is closed is one less that is attached and one more that was closed. -/
theorem Accounts.peerClosed (haccounts : p.Accounts) {id : PeerId} {a : Attachment ε}
    {h : PeerHandle} {w : Session ε (Journaled ε σ)}
    (ha : p.session.attachments.get? id = some a) (hh : a.handle = some h)
    (hcontexts : w.contexts =
      p.session.contexts.modify a.context fun c => { c with attached := c.attached - 1 })
    (hattachments : w.attachments = p.session.attachments.insert id { a with handle := none })
    (hnext : w.next = p.session.next) :
    Accounts { p with session := w, closed := raise p.closed (some a.context) 1 } := by
  obtain ⟨c, hc⟩ := Option.isSome_iff_exists.mp (haccounts.isSome_context ha)
  have hcount (f : Attachment ε → Bool) : w.attachments.count f + (if f a = true then 1 else 0) =
      p.session.attachments.count f + if f { a with handle := none } = true then 1 else 0 := by
    rw [hattachments, Table.count_insert_of_some ha _ f]
  rw [Table.modify, hc] at hcontexts
  refine haccounts.of_moved a.context (Nat.le_of_eq hnext.symm)
    (Nat.lt_of_lt_of_eq (haccounts.index_lt hc) hnext.symm) ?_ ?_ ?_
  · intro other hother
    refine account_eq_of ?_ (fun f hf => ?_) rfl rfl (raise_of_ne p.closed 1 hother)
    · show w.contexts.get? other = _
      rw [hcontexts, Table.get?_insert_of_ne _ _ hother]
    · have hold : ¬ f a = true := fun htrue => hother (hf _ htrue).symm
      have hnew : ¬ f { a with handle := none } = true := fun htrue => hother (hf _ htrue).symm
      have hcount := hcount f
      rw [if_neg hold, if_neg hnew] at hcount
      exact hcount
  · intro other hother
    have hother : p.session.next ≤ other.index := hnext ▸ hother
    have hnone := haccounts.unusedPeer other hother
    have hne : other ≠ id := by
      rintro rfl
      exact Option.some_ne_none _ (ha.symm.trans hnone)
    show w.attachments.get? other = none
    rw [hattachments, Table.get?_insert_of_ne _ _ hne, hnone]
  · have hbalances := (haccounts.sound a.context).present c hc
    have hpeers : w.attachments.count (Attachment.isOf a.context) =
        (p.account a.context).peers := by
      have hcount := hcount (Attachment.isOf a.context)
      have hnew : ({ a with handle := none } : Attachment ε).isOf a.context = true := a.isOf_self
      rw [if_pos a.isOf_self, if_pos hnew] at hcount
      exact Nat.add_right_cancel hcount
    have hopen : w.attachments.count (Attachment.isOpenOf a.context) + 1 =
        (p.account a.context).openPeers := by
      have hcount := hcount (Attachment.isOpenOf a.context)
      have hnew : ¬ ({ a with handle := none } : Attachment ε).isOpenOf a.context = true :=
        fun htrue => Bool.false_ne_true (Bool.and_eq_true_iff.mp htrue).2
      rw [if_pos (Attachment.isOpenOf_self hh), if_neg hnew] at hcount
      exact hcount
    -- The peer was open and so was counted: the counter does not go below zero.
    have hle : 0 < c.attached := Nat.lt_of_lt_of_le (hopen ▸ Nat.succ_pos _) hbalances.openPeers
    have hholders : c.holders =
        p.clones a.context + w.attachments.count (Attachment.isOf a.context) := by
      rw [hpeers]
      exact hbalances.holders
    have hattached : c.attached - 1 + raise p.closed (some a.context) 1 a.context =
        p.opened a.context := by
      have hattached : c.attached + p.closed a.context = p.opened a.context := hbalances.attached
      rw [raise_self]
      omega
    refine Account.sound_of_balances (c := { c with attached := c.attached - 1 }) ?_
      ⟨hholders, hbalances.held, hattached, ?_, fun hclosed => ?_⟩
    · show w.contexts.get? a.context = _
      rw [hcontexts, Table.get?_insert_self]
    · exact Nat.le_sub_of_add_le (Nat.le_trans (Nat.le_of_eq hopen) hbalances.openPeers)
    · rw [hbalances.idle hclosed]

/-- A peer that is dropped holds its context no more. -/
theorem Accounts.peerDropped (haccounts : p.Accounts) {id : PeerId} {a : Attachment ε}
    {w : Session ε (Journaled ε σ)} (ha : p.session.attachments.get? id = some a)
    (hcontexts : w.contexts = p.session.contexts)
    (hattachments : w.attachments = p.session.attachments.erase id)
    (hnext : w.next = p.session.next) :
    Accounts { p with session := w, clones := raise p.clones (some a.context) 1 } := by
  obtain ⟨c, hc⟩ := Option.isSome_iff_exists.mp (haccounts.isSome_context ha)
  have hcount (f : Attachment ε → Bool) : w.attachments.count f + (if f a = true then 1 else 0) =
      p.session.attachments.count f := by
    rw [hattachments, Table.count_erase_of_some ha f]
  -- The peer held its context; what it held becomes a clone of the program.
  refine haccounts.of_moved a.context (Nat.le_of_eq hnext.symm)
    (Nat.lt_of_lt_of_eq (haccounts.index_lt hc) hnext.symm) ?_ ?_ ?_
  · intro other hother
    refine account_eq_of (congrArg (Table.get? · other) hcontexts) (fun f hf => ?_)
      (raise_of_ne p.clones 1 hother) rfl rfl
    have hcount := hcount f
    rw [if_neg fun htrue => hother (hf _ htrue).symm] at hcount
    exact hcount
  · intro other hother
    have hother : p.session.next ≤ other.index := hnext ▸ hother
    show w.attachments.get? other = none
    rw [hattachments, Table.get?_erase, haccounts.unusedPeer other hother, ite_self]
  · have hbalances := (haccounts.sound a.context).present c hc
    have hpeers : w.attachments.count (Attachment.isOf a.context) + 1 =
        (p.account a.context).peers := by
      have hcount := hcount (Attachment.isOf a.context)
      rw [if_pos a.isOf_self] at hcount
      exact hcount
    have hopen : w.attachments.count (Attachment.isOpenOf a.context) ≤
        (p.account a.context).openPeers :=
      Nat.le_of_add_right_le (Nat.le_of_eq (hcount _))
    have hholders : c.holders = raise p.clones (some a.context) 1 a.context +
        w.attachments.count (Attachment.isOf a.context) := by
      rw [raise_self, Nat.add_assoc, Nat.add_comm 1, hpeers]
      exact hbalances.holders
    refine Account.sound_of_balances (c := c) ?_ ⟨hholders, hbalances.held, hbalances.attached,
      Nat.le_trans hopen hbalances.openPeers, hbalances.idle⟩
    show w.contexts.get? a.context = _
    rw [hcontexts, hc]

/-- The accounts stay sound in every change. -/
theorem Accounts.change (haccounts : p.Accounts) (hchange : Change engines p p') : p'.Accounts := by
  cases hchange with
  | quiet w hquiet => exact haccounts.quiet hquiet
  | contextOpened e config h hanswer => exact haccounts.contextOpened e h _
  | cloned id c hc =>
    refine haccounts.reheld hc (Nat.succ_pos _) ?_ fun other hother => raise_of_ne _ 1 hother
    rw [raise_self]
    omega
  | cloneDropped id c hc hclones hholders =>
    refine haccounts.reheld hc (by omega) ?_ fun other hother => lower_of_ne _ 1 hother
    rw [lower_self]
    omega
  | contextDropped id c state hc hclones hholders _ _ =>
    exact haccounts.contextDropped state hc hclones hholders
  | contextClosed id c h hc hh hfree hanswer => exact haccounts.contextClosed _ hc hfree
  | peerOpened id c h config peer w hc hh hanswer hcontexts hattachments hnext hstate =>
    exact haccounts.peerOpened hc hh hcontexts hattachments hnext
  | peerClosed id a h w ha hh hanswer hcontexts hattachments hnext hstate =>
    exact haccounts.peerClosed ha hh hcontexts hattachments hnext
  | peerDropped id a w ha hcontexts hattachments hnext _ _ =>
    exact haccounts.peerDropped ha hcontexts hattachments hnext

/-! ### Runs -/

/-- Entries of the journal stay where they are. -/
theorem Change.journal (hchange : Change engines p p') :
    p.session.state.journal <+: p'.session.state.journal := by
  have hsame {s : Journaled ε σ} (hs : s = p.session.state) :
      p.session.state.journal <+: s.journal :=
    hs ▸ List.prefix_rfl
  have hasked {s : Journaled ε σ} {e : ε} {r : Request}
      (hs : s = (journaled engines e r p.session.state).2) :
      p.session.state.journal <+: s.journal := by
    rw [hs]
    exact List.prefix_append _ [p.session.state.entry engines e r]
  -- Every kind of change makes one call or none.
  cases hchange with
  | quiet w hquiet =>
    rcases hquiet.state with hstate | ⟨e, r, -, hstate⟩
    · exact hsame hstate
    · exact hasked hstate
  | contextOpened e config h hanswer => exact hasked rfl
  | cloned id c hc => exact hsame rfl
  | cloneDropped id c hc hclones hholders => exact hsame rfl
  | contextDropped id c state hc hclones hholders hstate hclosed =>
    cases hh : c.handle with
    | none => exact hsame (hclosed hh)
    | some h => exact hasked (hstate h hh)
  | contextClosed id c h hc hh hfree hanswer => exact hasked rfl
  | peerOpened id c h config peer w hc hh hanswer hcontexts hattachments hnext hstate =>
    exact hasked hstate
  | peerClosed id a h w ha hh hanswer hcontexts hattachments hnext hstate => exact hasked hstate
  | peerDropped id a w ha hcontexts hattachments hnext hclosed hopen =>
    cases hh : a.handle with
    | none => exact hsame (hclosed hh)
    | some h => exact hasked (hopen h hh).2

/-- A chain of changes adds to the journal. -/
theorem journal_chain (hchain : Relation.ReflTransGen (Change engines) p p') :
    p.session.state.journal <+: p'.session.state.journal := by
  induction hchain with
  | refl => exact List.prefix_rfl
  | tail _ hchange ih => exact ih.trans hchange.journal

theorem Accounts.start (s : σ) : (start s : Program ε σ).Accounts where
  sound _ := Account.sound_empty
  unused _ _ := rfl
  unusedPeer _ _ := rfl

/-- Whatever a program does is a chain of changes. -/
theorem Accounts.chain (haccounts : p.Accounts) (engines : ε → Engine σ) (op : SessionOp ε) :
    Relation.ReflTransGen (Change engines) p (p.after engines (.operation op)) := by
  by_cases hpermits : p.permits op = true
  · cases op with
    | openContext e config => exact .single (change_openContext e config)
    | holdContext id =>
      obtain ⟨c, hc⟩ := Option.isSome_iff_exists.mp hpermits
      exact .single (change_holdContext hc)
    | releaseContext id =>
      have hclones : 0 < p.clones id := of_decide_eq_true hpermits
      cases hc : p.session.contexts.get? id with
      | none =>
        -- Of a context that is gone there are no clones.
        have hnone : p.clones id = 0 := ((haccounts.sound id).absent hc).1
        omega
      | some c => exact .single (change_dropContext hc hclones)
    | registerEncoding id encodingId encoding =>
      exact .single (change_registerEncoding id encodingId encoding)
    | closeContext id => exact .single (change_closeContext id)
    | openPeer id config => exact .single (change_openPeer id config)
    | onPeer id op => exact .single (change_onPeer id op)
    | releasePeer id =>
      cases hm : p.session.peers.get? id with
      | none =>
        refine .single (change_of_quiet rfl ?_ rfl)
        rw [Session.operate, Session.releasePeer, hm]
        exact .refl _
      | some m =>
        exact chain_dropPeer hm (haccounts.isSome_context (Session.attachments_of_get? hm))
  · rw [after, if_neg hpermits]

/-- A chain of changes keeps the books. -/
theorem Accounts.chained (haccounts : p.Accounts)
    (hchain : Relation.ReflTransGen (Change engines) p p') : p'.Accounts := by
  induction hchain with
  | refl => exact haccounts
  | tail _ hchange ih => exact ih.change hchange

/-- Every action keeps the books. -/
theorem Accounts.after (haccounts : p.Accounts) (engines : ε → Engine σ) (action : Action ε σ) :
    (p.after engines action).Accounts := by
  cases action with
  | operation op => exact haccounts.chained (haccounts.chain engines op)
  | world change => exact ⟨haccounts.sound, haccounts.unused, haccounts.unusedPeer⟩

/-- The accounts are sound after any run. -/
theorem Accounts.afterAll (haccounts : p.Accounts) (engines : ε → Engine σ)
    (actions : List (Action ε σ)) : (p.afterAll engines actions).Accounts := by
  induction actions generalizing p with
  | nil => exact haccounts
  | cons action actions ih => exact ih (haccounts.after engines action)

/-- Every action adds to the journal. -/
theorem journal_after (haccounts : p.Accounts) (engines : ε → Engine σ) (action : Action ε σ) :
    p.session.state.journal <+: (p.after engines action).session.state.journal := by
  cases action with
  | operation op => exact journal_chain (haccounts.chain engines op)
  | world change => exact List.prefix_rfl

/-- A run adds to the journal. -/
theorem journal_afterAll (haccounts : p.Accounts) (engines : ε → Engine σ)
    (actions : List (Action ε σ)) :
    p.session.state.journal <+: (p.afterAll engines actions).session.state.journal := by
  induction actions generalizing p with
  | nil => exact List.prefix_rfl
  | cons action actions ih =>
    exact (journal_after haccounts engines action).trans (ih (haccounts.after engines action))

end Program
end AudioLink
