import AudioLink.Proofs.Session.Retirement

/-
The fence around what is closed.

An object is closed as soon as closing it is answered with success. The operations of a closed peer and
of a closed context say that it is closed before they look at their arguments, closing it again
succeeds, and none of this asks an engine anything. What is closed is retired, so a run stays behind the
fence whatever else happens in it.
-/
set_option autoImplicit false

namespace AudioLink

/-! ## Operations of a closed peer -/

namespace Peer

section Closed

variable {σ : Type} {engine : Engine σ} {p : Peer} (hclosed : p.handle = none) (s : σ)
include hclosed

/-- The check that every operation of a peer but closing makes first. -/
theorem requireOpen_of_closed : p.requireOpen = .error .peerClosed := by
  rw [requireOpen, hclosed]

/-- A closed peer is not configured; the engine is not asked. -/
theorem configure_of_closed (slot : Slot) (i : Interface) (config : InterfaceConfig) :
    p.configure engine slot i config s = (.failed .peerClosed, p, s) := by
  have hadmit : p.admitConfigure slot i config = .error .peerClosed := by
    rw [admitConfigure, requireOpen_of_closed hclosed]
    rfl
  rw [configure, hadmit]

/-- No link of a closed peer is admitted, with an endpoint or without. -/
theorem admitLink_of_closed (slot : Slot) (i : Interface) (endpoint : Option Endpoint) :
    p.admitLink slot i endpoint = .error .peerClosed := by
  rw [admitLink, requireOpen_of_closed hclosed]
  rfl

/-- A closed peer is not bound; the engine is not asked. -/
theorem bind_of_closed (slot : Slot) (i : Interface) (endpoint : Option Endpoint) :
    p.bind engine slot i endpoint s = (.failed .peerClosed, p, s) := by
  rw [Peer.bind, admitLink_of_closed hclosed]

/-- A closed peer is not connected; the engine is not asked. -/
theorem connect_of_closed (slot : Slot) (i : Interface) (endpoint : Option Endpoint) :
    p.connect engine slot i endpoint s = (.failed .peerClosed, p, s) := by
  rw [connect, admitLink_of_closed hclosed]

/-- A closed peer is not unlinked; the engine is not asked. -/
theorem unlink_of_closed (slot : Slot) :
    p.unlink engine slot s = (.failed .peerClosed, p, s) := by
  have hadmit : p.admitUnlink slot = .error .peerClosed := by
    rw [admitUnlink, requireOpen_of_closed hclosed]
    rfl
  rw [unlink, hadmit]

/-- No frame of a closed peer is admitted. -/
theorem admitFrame_of_closed {α : Type} (frame : Option α) :
    p.admitFrame frame = .error .peerClosed := by
  rw [admitFrame, requireOpen_of_closed hclosed]
  rfl

/-- Nothing is read from a closed peer. -/
theorem readFrame_of_closed (length : Option Nat) :
    p.readFrame engine length s = (.failed .peerClosed, s) := by
  rw [readFrame, admitFrame_of_closed hclosed]

/-- Nothing is written to a closed peer. -/
theorem writeFrame_of_closed (frame : Option Frame) :
    p.writeFrame engine frame s = (.failed .peerClosed, s) := by
  rw [writeFrame, admitFrame_of_closed hclosed]

/-- Closing a closed peer succeeds and asks nothing. -/
theorem close_of_closed : p.close engine s = (.ok (), p, s) := by
  rw [close, hclosed]

end Closed

/-- A call that leaves a peer without a handle leaves it without slots. -/
theorem Step.slots_of_closed {h : PeerHandle} {p p' : Peer} {c : Call} (hstep : p.Step h c p')
    (hclosed : p'.handle = none) : p'.slots = .empty := by
  rcases hstep.handle with ⟨-, hopen⟩ | ⟨hcloses, -⟩
  · rw [hclosed] at hopen
    exact nomatch hopen
  · obtain ⟨r, failure⟩ := c
    obtain ⟨⟨h', rfl⟩, rfl⟩ := hcloses
    exact SlotTable.ledger_injective hstep.ledger

/-- A peer that was closed with success has no handle any more. -/
theorem handle_close_of_ok {σ : Type} {engine : Engine σ} {p : Peer} {s : σ}
    (hok : (p.close engine s).1 = .ok ()) : (p.close engine s).2.1.handle = none := by
  unfold close at hok ⊢
  split
  · next hclosed => exact hclosed
  · next h hopen =>
    rw [hopen] at hok
    dsimp only at hok ⊢
    -- Any other outcome is handed on as it is.
    split
    · rfl
    · next hfailed =>
      split at hok
      · next hanswer => exact absurd hanswer hfailed
      · exact absurd hok hfailed

end Peer

/-! ## Closing -/

namespace Session

variable {ε σ : Type} {engines : ε → Engine σ} {w w' : Session ε σ}

/-- Closes an object; `none` if there is no such object. -/
def close (engines : ε → Engine σ) (w : Session ε σ) : Caller → Option (Outcome Unit × Session ε σ)
  | .context id => w.closeContext engines id
  | .peer id => w.closePeer engines id

/-- The operation that closes an object. -/
def closing : Caller → SessionOp ε
  | .context id => .closeContext id
  | .peer id => .onPeer id .close

/-- An object is there and closed. -/
def IsClosed (w : Session ε σ) : Caller → Prop
  | .context id => ∃ c, w.contexts.get? id = some c ∧ c.isClosed = true
  | .peer id => ∃ m, w.peers.get? id = some m ∧ m.peer.isClosed = true

/-- A context whose closing has succeeded is closed. -/
theorem isClosed_of_closeContext {id : ContextId}
    (hok : w.closeContext engines id = some (.ok (), w')) : w'.IsClosed (.context id) := by
  cases hc : w.contexts.get? id with
  | none =>
    rw [closeContext, hc] at hok
    exact absurd hok (Option.some_ne_none _).symm
  | some c =>
    cases hh : c.handle with
    | none =>
      rw [closeContext_of_closed engines w hc hh] at hok
      obtain ⟨-, rfl⟩ := Prod.mk.inj (Option.some.inj hok)
      exact ⟨c, hc, by rw [Context.isClosed, hh, Option.isNone_none]⟩
    | some h =>
      rcases Nat.eq_zero_or_pos c.attached with hfree | hattached
      · cases hanswer : (engines c.engine (.contextClose h) w.state).1 with
        | ok u =>
          rw [closeContext_of_ok engines w hc hh hfree hanswer] at hok
          obtain ⟨-, rfl⟩ := Prod.mk.inj (Option.some.inj hok)
          exact ⟨_, Table.get?_insert_self _ _ _, rfl⟩
        | error code =>
          obtain ⟨outcome, hfailed, hclose⟩ := closeContext_of_error engines w hc hh hfree hanswer
          rw [hclose] at hok
          obtain ⟨rfl, -⟩ := Prod.mk.inj (Option.some.inj hok)
          exact absurd hfailed (Option.some_ne_none _)
      · rw [closeContext_of_attached engines w hc hh hattached] at hok
        obtain ⟨hbusy, -⟩ := Prod.mk.inj (Option.some.inj hok)
        cases hbusy

/-- A peer whose closing has succeeded is closed. -/
theorem isClosed_of_closePeer {id : PeerId} (hok : w.closePeer engines id = some (.ok (), w')) :
    w'.IsClosed (.peer id) := by
  rcases w.perform_cases engines none id (fun engine p s => p.close engine s) with
    hnone | ⟨m, -, -, hsome⟩
  · exact absurd (hok.symm.trans hnone) (Option.some_ne_none _)
  · obtain ⟨houtcome, hw'⟩ := Prod.mk.inj (Option.some.inj (hsome.symm.trans hok))
    refine ⟨{ m with peer := (m.peer.close (engines m.engine) w.state).2.1 }, ?_, ?_⟩
    · rw [← hw', peers_update, Table.get?_insert_self]
    · rw [Peer.isClosed, Peer.handle_close_of_ok houtcome, Option.isNone_none]

/-- An object of which closing is answered with success is closed, and this is what the operation makes
of the session. -/
theorem isClosed_of_close {o : Caller} (hok : w.close engines o = some (.ok (), w')) :
    w.operate engines (closing o) = w' ∧ w'.IsClosed o := by
  cases o with
  | context id =>
    refine ⟨?_, isClosed_of_closeContext hok⟩
    exact congrArg (fun x => (x.map Prod.snd).getD w) hok
  | peer id =>
    refine ⟨?_, isClosed_of_closePeer hok⟩
    exact congrArg (fun x => (x.map Prod.snd).getD w) hok

end Session

/-! ## Behind the fence -/

namespace Session

section Engines

variable {ε σ : Type} (engines : ε → Engine σ) {w : Session ε σ}

/-- An operation that leaves a peer and the engines as they are leaves the session as it is. -/
theorem perform_of_still {α : Type} {kind : Option PeerKind} {id : PeerId} {m : Member ε}
    {operation : Engine σ → Peer → σ → α × Peer × σ} {a : α} (hm : w.peers.get? id = some m)
    (hkind : ∀ k ∈ kind, m.peer.kind = k)
    (hstill : operation (engines m.engine) m.peer w.state = (a, m.peer, w.state)) :
    w.perform engines kind id operation = some (a, w) := by
  rw [perform_of_get? engines hm hkind, hstill, update_same hm]

/-- What is said of a peer that is closed, whatever the arguments of its operations are. -/
structure PeerFence (w : Session ε σ) (id : PeerId) (m : Member ε) : Prop where
  isClosed : m.peer.isClosed = true
  slots : m.peer.slots = .empty
  configure : ∀ slot i config,
    w.configure engines id slot i config = some (.failed .peerClosed, w)
  bind : m.peer.kind = .receiver → ∀ slot i endpoint,
    w.bind engines id slot i endpoint = some (.failed .peerClosed, w)
  connect : m.peer.kind = .sender → ∀ slot i endpoint,
    w.connect engines id slot i endpoint = some (.failed .peerClosed, w)
  unlink : ∀ slot, w.unlink engines id slot = some (.failed .peerClosed, w)
  readFrame : m.peer.kind = .receiver → ∀ length,
    w.readFrame engines id length = some (.failed .peerClosed, w)
  writeFrame : m.peer.kind = .sender → ∀ frame,
    w.writeFrame engines id frame = some (.failed .peerClosed, w)
  close : w.closePeer engines id = some (.ok (), w)

/-- What is said of a context that is closed. -/
structure ContextFence (w : Session ε σ) (id : ContextId) (c : Context ε) : Prop where
  isClosed : c.isClosed = true
  attached : c.attached = 0
  peers : ∀ peer m, w.peers.get? peer = some m → m.context = id → m.peer.isClosed = true
  registerEncoding : ∀ encodingId encoding,
    w.registerEncoding engines id encodingId encoding = some (.failed .contextClosed, w)
  openPeer : ∀ config, w.openPeer engines (some id) config = (.failed .contextClosed, w)
  close : w.closeContext engines id = some (.ok (), w)

/-- An object, if it is there at all, is behind the fence. -/
def Fenced (w : Session ε σ) : Caller → Prop
  | .context id => ∀ c, w.contexts.get? id = some c → w.ContextFence engines id c
  | .peer id => ∀ m, w.peers.get? id = some m → w.PeerFence engines id m

/-- Nothing is known of the slots of closed peers. -/
def Tidy (w : Session ε σ) : Prop :=
  ∀ id m, w.peers.get? id = some m → m.peer.handle = none → m.peer.slots = .empty

/-- A closed peer of a tidy session refuses all that may be asked of it. -/
theorem Tidy.peerFence (htidy : w.Tidy) {id : PeerId} {m : Member ε}
    (hm : w.peers.get? id = some m) (hclosed : m.peer.handle = none) :
    w.PeerFence engines id m where
  isClosed := by rw [Peer.isClosed, hclosed, Option.isNone_none]
  slots := htidy id m hm hclosed
  configure slot i config :=
    perform_of_still engines hm nofun (Peer.configure_of_closed hclosed _ slot i config)
  bind hkind slot i endpoint := by
    refine perform_of_still engines hm ?_ (Peer.bind_of_closed hclosed _ slot i endpoint)
    simpa using hkind
  connect hkind slot i endpoint := by
    refine perform_of_still engines hm ?_ (Peer.connect_of_closed hclosed _ slot i endpoint)
    simpa using hkind
  unlink slot := perform_of_still engines hm nofun (Peer.unlink_of_closed hclosed _ slot)
  readFrame hkind length := by
    refine perform_of_still engines hm ?_ ?_
    · simpa using hkind
    · rw [Peer.readFrame_of_closed hclosed]
  writeFrame hkind frame := by
    refine perform_of_still engines hm ?_ ?_
    · simpa using hkind
    · rw [Peer.writeFrame_of_closed hclosed]
  close := perform_of_still engines hm nofun (Peer.close_of_closed hclosed _)

/-- A peer that moves stays tidy, as only closing takes its handle. -/
theorem Tidy.moved {s s' : Session ε σ} (htidy : s.Tidy) {id : PeerId} {m : Member ε}
    {kind : Option PeerKind} {result : Peer × σ} (hm : s.peers.get? id = some m)
    (hmoves : m.peer.Moves (engines m.engine) kind s.state result)
    (hpeers : s'.peers = s.peers.insert id { m with peer := result.1 }) : s'.Tidy := by
  intro other m' hm' hclosed
  rw [hpeers] at hm'
  rcases Table.get?_insert_cases hm' with ⟨rfl, rfl⟩ | ⟨-, hm'⟩
  · rcases hmoves with rfl | ⟨h, r, -, -, hstep⟩
    · exact htidy other m hm hclosed
    · exact hstep.slots_of_closed hclosed
  · exact htidy other m' hm' hclosed

/-- Every operation keeps a session tidy. -/
theorem Tidy.operate (htidy : w.Tidy) (op : SessionOp ε) : (w.operate engines op).Tidy := by
  have hsame : (w.operate engines op).peers = w.peers → (w.operate engines op).Tidy := by
    intro hpeers id m hm
    rw [hpeers] at hm
    exact htidy id m hm
  cases w.effect_operate engines op with
  | still hpeers _ => exact hsame hpeers
  | asked e r hr hpeers _ => exact hsame hpeers
  | opened id context e c config h hanswer hpeers hstate =>
    intro other m hm hclosed
    rw [hpeers] at hm
    rcases Table.get?_insert_cases hm with ⟨rfl, rfl⟩ | ⟨-, hm⟩
    · -- A peer that has just been opened has a handle.
      exact nomatch hclosed
    · exact htidy other m hm hclosed
  | moved id m kind result hm hkind hmoves hpeers hstate => exact htidy.moved engines hm hmoves hpeers
  | released id m result hm hmoves hpeers hstate =>
    intro other m' hm' hclosed
    rw [hpeers] at hm'
    obtain ⟨hother, hm'⟩ := Table.get?_of_get?_erase hm'
    rw [Table.get?_insert_of_ne _ _ hother] at hm'
    exact htidy other m' hm' hclosed

end Engines

end Session

namespace Program

variable {ε σ : Type} {p : Program ε σ} {o : Caller}

/-- Every action keeps a session tidy. -/
theorem tidy_after (engines : ε → Engine σ) (htidy : p.session.Tidy) (action : Action ε σ) :
    (p.after engines action).session.Tidy := by
  cases action with
  | world change => exact htidy
  | operation op =>
    rw [after]
    split
    · exact htidy.operate (journaled engines) op
    · exact htidy

/-- A run keeps a session tidy. -/
theorem tidy_afterAll (engines : ε → Engine σ) (htidy : p.session.Tidy)
    (actions : List (Action ε σ)) : (p.afterAll engines actions).session.Tidy := by
  induction actions generalizing p with
  | nil => exact htidy
  | cons action actions ih => exact ih (tidy_after engines htidy action)

/-- No peer is attached to a context that is closed. -/
theorem Accounts.contextFence (haccounts : p.Accounts) (engines : ε → Engine σ) {id : ContextId}
    {c : Context ε} (hc : p.session.contexts.get? id = some c) (hclosed : c.handle = none) :
    p.session.ContextFence (journaled engines) id c where
  isClosed := by rw [Context.isClosed, hclosed, Option.isNone_none]
  attached := ((haccounts.sound id).present c hc).idle hclosed
  peers peer m hm hcontext := by
    -- An open peer keeps its context open.
    refine eq_true_of_ne_false fun hopen => ?_
    obtain ⟨c', hc', hopen'⟩ := haccounts.isOpen_context hm hopen
    rw [hcontext, hc] at hc'
    obtain rfl := Option.some.inj hc'
    rw [Context.isClosed, hclosed] at hopen'
    exact nomatch hopen'
  registerEncoding encodingId encoding := by
    rw [Session.registerEncoding, hc, Option.map_some, hclosed]
  openPeer config := by
    have hrequest : p.session.openRequest (some id) = .error .contextClosed := by
      simp only [Session.openRequest, hc, hclosed]
    rw [Session.openPeer, hrequest]
  close := Session.closeContext_of_closed (journaled engines) p.session hc hclosed

/-- What has retired is fenced off. -/
theorem Retired.fenced (hretired : p.Retired o) (haccounts : p.Accounts)
    (htidy : p.session.Tidy) (engines : ε → Engine σ) :
    p.session.Fenced (journaled engines) o := by
  cases o with
  | context id => exact fun c hc => haccounts.contextFence engines hc (hretired.isShut c hc)
  | peer id => exact fun m hm => htidy.peerFence (journaled engines) hm (hretired.isShut m hm)

/-- What is closed has retired, as its number was given. -/
theorem Accounts.retired_of_isClosed (haccounts : p.Accounts) (hclosed : p.session.IsClosed o) :
    p.Retired o := by
  cases o with
  | context id =>
    obtain ⟨c, hc, hisClosed⟩ := hclosed
    refine ⟨haccounts.index_lt hc, fun c' hc' => ?_⟩
    rw [hc] at hc'
    rw [← Option.some.inj hc']
    exact Option.isNone_iff_eq_none.mp hisClosed
  | peer id =>
    obtain ⟨m, hm, hisClosed⟩ := hclosed
    refine ⟨?_, fun m' hm' => ?_⟩
    · exact haccounts.index_lt_of_peer hm
    · rw [hm] at hm'
      rw [← Option.some.inj hm']
      exact Option.isNone_iff_eq_none.mp hisClosed

/-- Anybody may ask to close anything. -/
theorem permits_closing (p : Program ε σ) (o : Caller) : p.permits (Session.closing o) = true := by
  cases o with
  | context id => rfl
  | peer id => rfl

/-- A program that closes an object with success has closed it. -/
theorem isClosed_after_closing (engines : ε → Engine σ) {w' : Session ε (Journaled ε σ)}
    (hok : p.session.close (journaled engines) o = some (.ok (), w')) :
    (p.after engines (.operation (Session.closing o))).session.IsClosed o := by
  obtain ⟨hoperate, hclosed⟩ := Session.isClosed_of_close hok
  rw [after, if_pos (p.permits_closing o)]
  exact hoperate ▸ hclosed

/-- Every call of a run is put down to the object that has made it, which was open and whose handle
it carries. With any engines, an object closes itself by at most one successful call in a run,
whether it is closed or dropped. It is closed as soon as closing it is answered with success. Once it
has made that call, or is closed at all, it makes no call in anything that follows and is behind the
fence at every later moment. -/
theorem closed_for_good (engines : ε → Engine σ) (s : σ) (actions more : List (Action ε σ)) :
    let p := (start s).afterAll engines actions
    let past := (start s).deedsIn engines actions
    p.session.state.journal = past.map Deed.exchange ∧
      (∀ action, ∀ d ∈ p.deeds engines action, p.session.Made d) ∧
      ∀ o : Caller, past.countP (Deed.closes o) ≤ 1 ∧
        (∀ w', p.session.close (journaled engines) o = some (.ok (), w') →
          (p.after engines (.operation (Session.closing o))).session.IsClosed o) ∧
        ((∃ d ∈ past, d.closes o = true) ∨ p.session.IsClosed o →
          (∀ d ∈ p.deedsIn engines more, d.caller ≠ some o) ∧
            (p.afterAll engines more).session.Fenced (journaled engines) o) := by
  intro p past
  have hstart : (start s : Program ε σ).Accounts := .start s
  have haccounts : p.Accounts := hstart.afterAll engines actions
  have hempty : (start s : Program ε σ).session.Tidy := fun id m hm =>
    absurd ((Table.get?_empty id).symm.trans hm) nofun
  have htidy : (p.afterAll engines more).session.Tidy :=
    tidy_afterAll engines (tidy_afterAll engines hempty actions) more
  refine ⟨?_, fun action => (does_after engines p action).made, fun o => ?_⟩
  · have hjournal := journal_deedsIn engines (start s) actions
    exact hjournal.trans (List.nil_append _)
  · obtain ⟨hcount, hcloses⟩ := closes_once hstart engines actions o
    refine ⟨hcount, fun _ => isClosed_after_closing engines, fun hclosed => ?_⟩
    -- Closed in the past or closed now, the object is retired, and that lasts.
    have hretired : p.Retired o := by
      rcases hclosed with hdeed | hclosed
      · exact hcloses hdeed
      · exact haccounts.retired_of_isClosed hclosed
    refine ⟨hretired.caller_ne_run haccounts engines more, ?_⟩
    exact (hretired.afterAll haccounts engines more).fenced (haccounts.afterAll engines more) htidy
      engines

/-- An engine that gives all peers the same handle and closes a peer only when it is asked again. -/
def reluctant : Unit → Engine Bool := fun _ r asked =>
  match r with
  | .contextOpen _ => (.ok ⟨0⟩, asked)
  | .peerOpen _ _ => (.ok ⟨7⟩, asked)
  | .peerClose _ => (if asked then .ok () else .error .busy, true)
  | .bind _ _ _ endpoint => (.ok endpoint, asked)
  | .read _ length => (.ok (List.replicate length 0), asked)
  | .registerEncoding _ _ _ | .contextClose _ | .configure _ _ _ _ | .connect _ _ _ _ | .unlink _ _
  | .write _ _ => (.ok (), asked)

/-- A sender and a receiver are opened, and the sender is closed at the second attempt. -/
def secondAttempt : List (Action Unit Bool) := [
  .operation (.openContext () {}),
  .operation (.openPeer (some ⟨0⟩) (.sender { frameEncoding := .stereo 48000 })),
  .operation (.openPeer (some ⟨0⟩) (.receiver { frameEncoding := .stereo 48000 })),
  .operation (.onPeer ⟨1⟩ .close),
  .operation (.onPeer ⟨1⟩ .close)]

/-- Both peers are used and dropped, and then the context is closed and dropped. -/
def afterwards : List (Action Unit Bool) := [
  .operation (.onPeer ⟨1⟩ (.writeFrame none)),
  .operation (.onPeer ⟨2⟩ (.readFrame (some 4))),
  .operation (.onPeer ⟨1⟩ .close),
  .operation (.releasePeer ⟨1⟩),
  .operation (.releasePeer ⟨2⟩),
  .operation (.closeContext ⟨0⟩),
  .operation (.releaseContext ⟨0⟩)]

/-- The sender makes no call after it has been closed, although the handle that it had is in use, and
the context is closed when both peers are gone. -/
theorem closed_for_good_secondAttempt :
    let p : Program Unit Bool := (start false).afterAll reluctant secondAttempt
    let q : Program Unit Bool :=
      (start false).afterAll reluctant (secondAttempt ++ afterwards.take 5)
    (p.deedsIn reluctant afterwards).map (fun d => (d.caller, d.exchange.request.call)) =
        [(some (.peer ⟨2⟩), .frameRead), (some (.peer ⟨2⟩), .peerClose),
          (some (.context ⟨0⟩), .contextClose)] ∧
      (∀ d ∈ p.deedsIn reluctant afterwards, d.caller ≠ some (.peer ⟨1⟩)) ∧
      (p.afterAll reluctant (afterwards.take 3)).session.Fenced (journaled reluctant)
        (.peer ⟨1⟩) ∧
      (q.session.closeContext (journaled reluctant) ⟨0⟩).map Prod.fst = some (.ok ()) ∧
      (q.after reluctant (.operation (.closeContext ⟨0⟩))).session.IsClosed (.context ⟨0⟩) := by
  intro p q
  have hcloses : ((start false).deedsIn reluctant secondAttempt).any
      (Deed.closes (.peer ⟨1⟩)) = true := by decide +kernel
  have hcalls : (p.deedsIn reluctant afterwards).map
      (fun d => (d.caller, d.exchange.request.call)) =
        [(some (.peer ⟨2⟩), .frameRead), (some (.peer ⟨2⟩), .peerClose),
          (some (.context ⟨0⟩), .contextClose)] := by decide +kernel
  have hok : (q.session.closeContext (journaled reluctant) ⟨0⟩).map Prod.fst = some (.ok ()) := by
    decide +kernel
  have hdeed := List.any_eq_true.mp hcloses
  -- In turn: nothing is called by what is closed, it is fenced later on, and closing the context
  -- closes it.
  obtain ⟨-, -, hgood⟩ := closed_for_good reluctant false secondAttempt afterwards
  obtain ⟨-, -, hgood'⟩ := closed_for_good reluctant false secondAttempt (afterwards.take 3)
  obtain ⟨-, -, hgood''⟩ :=
    closed_for_good reluctant false (secondAttempt ++ afterwards.take 5) []
  obtain ⟨-, -, hsilent⟩ := hgood (.peer ⟨1⟩)
  obtain ⟨-, -, hfenced⟩ := hgood' (.peer ⟨1⟩)
  obtain ⟨-, hclosing, -⟩ := hgood'' (.context ⟨0⟩)
  obtain ⟨⟨outcome, w'⟩, hclose, rfl⟩ := Option.map_eq_some_iff.mp hok
  exact ⟨hcalls, (hsilent (.inl hdeed)).1, (hfenced (.inl hdeed)).2, hok, hclosing w' hclose⟩

end Program
end AudioLink
