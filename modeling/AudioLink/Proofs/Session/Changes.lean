import AudioLink.Proofs.Session.Program

/-
Every operation of a program is a chain of changes.

Most operations are a single change, which depends on the answer of the engine. Dropping a peer is
three: the peer is closed, it is taken from the session, and its part in its context is dropped.
-/
set_option autoImplicit false

namespace AudioLink

/-! ## Operations by the answer of the engine -/

namespace Session

variable {ε σ : Type} (engines : ε → Engine σ) (w : Session ε σ)

/-- A context that the engine opens is added, open and without peers. -/
theorem openContext_of_ok {e : ε} {config : ContextConfig} {h : ContextHandle}
    (hanswer : (engines e (.contextOpen config) w.state).1 = .ok h) :
    w.openContext engines e config = (.ok ⟨w.next⟩, { w with
      contexts := w.contexts.insert ⟨w.next⟩ { engine := e, handle := some h }
      next := w.next + 1
      state := (engines e (.contextOpen config) w.state).2 }) := by
  unfold openContext
  rw [← Prod.eta (engines e (.contextOpen config) w.state), hanswer]
  rfl

/-- A context that the engine does not open is not added. -/
theorem openContext_of_error {e : ε} {config : ContextConfig} {code : EngineCode}
    (hanswer : (engines e (.contextOpen config) w.state).1 = .error code) :
    ∃ outcome, outcome.value? = none ∧ w.openContext engines e config =
      (outcome, { w with state := (engines e (.contextOpen config) w.state).2 }) := by
  unfold openContext
  rw [← Prod.eta (engines e (.contextOpen config) w.state), hanswer]
  by_cases hcode : code.isNegative = true
  · simp only [openOutcome, Outcome.ofAnswer, if_pos hcode]
    exact ⟨_, rfl, rfl⟩
  · simp only [openOutcome, Outcome.ofAnswer, if_neg hcode]
    exact ⟨_, rfl, rfl⟩

section Context

variable {id : ContextId} {c : Context ε} {h : ContextHandle}

/-- Closing a closed context succeeds and asks nothing. -/
theorem closeContext_of_closed (hc : w.contexts.get? id = some c) (hh : c.handle = none) :
    w.closeContext engines id = some (.ok (), w) := by
  rw [closeContext, hc, Option.map_some, hh]

/-- While peers are attached to it, a context is not closed, and the engine is not asked. -/
theorem closeContext_of_attached (hc : w.contexts.get? id = some c) (hh : c.handle = some h)
    (hattached : 0 < c.attached) :
    w.closeContext engines id = some (.failed (.resourceBusy c.attached), w) := by
  simp only [closeContext, hc, Option.map_some, hh, if_pos hattached]

/-- A context that the engine closes loses its handle. -/
theorem closeContext_of_ok (hc : w.contexts.get? id = some c) (hh : c.handle = some h)
    (hfree : c.attached = 0) (hanswer : (engines c.engine (.contextClose h) w.state).1 = .ok ()) :
    w.closeContext engines id = some (.ok (), { w with
      contexts := w.contexts.insert id { c with handle := none }
      state := (engines c.engine (.contextClose h) w.state).2 }) := by
  simp only [closeContext, hc, Option.map_some, hh, hfree, Nat.lt_irrefl, if_false]
  rw [← Prod.eta (engines c.engine (.contextClose h) w.state), hanswer]
  rfl

/-- A context that the engine does not close stays as it is, and closing it has not succeeded. -/
theorem closeContext_of_error (hc : w.contexts.get? id = some c) (hh : c.handle = some h)
    (hfree : c.attached = 0) {code : EngineCode}
    (hanswer : (engines c.engine (.contextClose h) w.state).1 = .error code) :
    ∃ outcome, outcome.value? = none ∧ w.closeContext engines id =
      some (outcome, { w with state := (engines c.engine (.contextClose h) w.state).2 }) := by
  simp only [closeContext, hc, Option.map_some, hh, hfree, Nat.lt_irrefl, if_false]
  rw [← Prod.eta (engines c.engine (.contextClose h) w.state), hanswer]
  by_cases hbusy : code = .busy
  · simp only [closeOutcome, if_pos hbusy]
    exact ⟨_, rfl, rfl⟩
  · by_cases hcode : code.isNegative = true
    · simp only [closeOutcome, if_neg hbusy, Outcome.ofAnswer, if_pos hcode]
      exact ⟨_, rfl, rfl⟩
    · simp only [closeOutcome, if_neg hbusy, Outcome.ofAnswer, if_neg hcode]
      exact ⟨_, rfl, rfl⟩

/-- A peer is opened on a context that is open, or there is no such context. -/
theorem openRequest_cases (id : Option ContextId) :
    (∃ e, w.openRequest id = .error e) ∨
      ∃ id' c h, id = some id' ∧ w.contexts.get? id' = some c ∧ c.handle = some h ∧
        w.openRequest id = .ok (id', c, h) := by
  cases id with
  | none => exact .inl ⟨_, rfl⟩
  | some id =>
    cases hc : w.contexts.get? id with
    | none => exact .inl ⟨.contextMissing, by simp only [openRequest, hc]⟩
    | some c =>
      cases hh : c.handle with
      | none => exact .inl ⟨.contextClosed, by simp only [openRequest, hc, hh]⟩
      | some h => exact .inr ⟨id, c, h, rfl, hc, hh, by simp only [openRequest, hc, hh]⟩

variable {config : PeerConfig}

/-- A peer that the engine opens is added, and its context has one more. -/
theorem openPeer_of_ok (hrequest : w.openRequest (some id) = .ok (id, c, h)) {peer : PeerHandle}
    (hanswer : (engines c.engine (.peerOpen h config) w.state).1 = .ok peer) :
    (w.openPeer engines (some id) config).2 = { w with
      contexts := w.contexts.insert id
        { c with attached := c.attached + 1, holders := c.holders + 1 }
      peers := w.peers.insert ⟨w.next⟩ { engine := c.engine, context := id, peer := {
        kind := config.kind, handle := some peer } }
      next := w.next + 1
      state := (engines c.engine (.peerOpen h config) w.state).2 } := by
  simp only [openPeer, hrequest]
  rw [← Prod.eta (engines c.engine (.peerOpen h config) w.state), hanswer]
  rfl

/-- A peer that the engine does not open is not added. -/
theorem openPeer_of_error (hrequest : w.openRequest (some id) = .ok (id, c, h))
    {code : EngineCode}
    (hanswer : (engines c.engine (.peerOpen h config) w.state).1 = .error code) :
    (w.openPeer engines (some id) config).2 =
      { w with state := (engines c.engine (.peerOpen h config) w.state).2 } := by
  simp only [openPeer, hrequest]
  rw [← Prod.eta (engines c.engine (.peerOpen h config) w.state), hanswer]
  by_cases hcode : code.isNegative = true
  · simp only [Outcome.ofAnswer, if_pos hcode]
  · simp only [Outcome.ofAnswer, if_neg hcode]

end Context
end Session

namespace Peer

variable {σ : Type} {engine : Engine σ} (p : Peer) (s : σ) {h : PeerHandle}

/-- A closed peer is dropped without a request. -/
theorem dispose_of_closed (hh : p.handle = none) : p.dispose engine s = (p, s) := by
  rw [dispose, hh]

/-- A peer that the engine does not close is dropped with its handle. -/
theorem dispose_of_error (hh : p.handle = some h) {code : EngineCode}
    (hanswer : (engine (.peerClose h) s).1 = .error code) :
    p.dispose engine s = (p, (engine (.peerClose h) s).2) := by
  simp only [dispose, hh]
  rw [← Prod.eta (engine (.peerClose h) s), hanswer]

/-- A peer that the engine closes is dropped without a handle. -/
theorem handle_dispose_of_ok (hh : p.handle = some h)
    (hanswer : (engine (.peerClose h) s).1 = .ok ()) : (p.dispose engine s).1.handle = none := by
  simp only [dispose, hh]
  rw [← Prod.eta (engine (.peerClose h) s), hanswer]

end Peer

namespace Program

variable {ε σ : Type} {engines : ε → Engine σ} {p : Program ε σ}

/-! ## Operations as changes -/

theorem Quiet.refl (w : Session ε (Journaled ε σ)) : Quiet engines w w := ⟨rfl, rfl, rfl, .inl rfl⟩

/-- An engine is asked something by which nothing is opened or closed. -/
theorem Quiet.of_asked {w : Session ε (Journaled ε σ)} {e : ε} {r : Request}
    (hvoid : (w.state.entry engines e r).IsVoid) :
    Quiet engines w { w with state := (journaled engines e r w.state).2 } :=
  ⟨rfl, rfl, rfl, .inr ⟨e, r, hvoid, rfl⟩⟩

/-- The entry of a request that is refused is void. -/
theorem isVoid_entry_of_error {s : Journaled ε σ} {e : ε} {r : Request} {code : EngineCode}
    (hanswer : (engines e r s.inner).1 = .error code) : (s.entry engines e r).IsVoid := by
  rw [Journaled.entry, hanswer]
  exact Exchange.isVoid_of_error

/-- What is quiet adds no success of a request that opens or closes. -/
theorem Quiet.successes {w w' : Session ε (Journaled ε σ)} (hquiet : Quiet engines w w')
    {call : EngineCall} (hcall : call.opensOrCloses = true) :
    w'.state.successes call = w.state.successes call := by
  rcases hquiet.state with hsame | ⟨e, r, hvoid, hasked⟩
  · rw [hsame]
  · rw [hasked, successes_journaled, hvoid call hcall]
    rfl

/-- What is counted after an operation is determined by its session and by the clones. -/
theorem eq_after {q : Program ε σ} {op : SessionOp ε} (hpermits : p.permits op = true)
    (hsession : q.session = p.session.operate (journaled engines) op)
    (hclones : q.clones = p.clonesAfter engines op)
    (hopened : q.opened = raise p.opened (p.session.target op)
      (q.session.state.successes .peerOpen - p.session.state.successes .peerOpen))
    (hclosed : q.closed = raise p.closed (p.session.target op)
      (q.session.state.successes .peerClose - p.session.state.successes .peerClose)) :
    q = p.after engines (.operation op) := by
  rw [after, if_pos hpermits]
  rw [hsession] at hopened hclosed
  exact Program.ext hsession hclones hopened hclosed

theorem change_after {q : Program ε σ} {op : SessionOp ε} (hchange : Change engines p q)
    (hpermits : p.permits op = true)
    (hsession : q.session = p.session.operate (journaled engines) op)
    (hclones : q.clones = p.clonesAfter engines op)
    (hopened : q.opened = raise p.opened (p.session.target op)
      (q.session.state.successes .peerOpen - p.session.state.successes .peerOpen))
    (hclosed : q.closed = raise p.closed (p.session.target op)
      (q.session.state.successes .peerClose - p.session.state.successes .peerClose)) :
    Change engines p (p.after engines (.operation op)) :=
  eq_after hpermits hsession hclones hopened hclosed ▸ hchange

/-- An operation that is quiet, and clones nothing, is a change of the quiet kind. -/
theorem change_of_quiet {op : SessionOp ε} (hpermits : p.permits op = true)
    (hquiet : Quiet engines p.session (p.session.operate (journaled engines) op))
    (hclones : p.clonesAfter engines op = p.clones) :
    Change engines p (p.after engines (.operation op)) := by
  refine change_after (.quiet _ hquiet) hpermits rfl hclones.symm ?_ ?_
  · rw [hquiet.successes rfl, Nat.sub_self, raise_zero]
  · rw [hquiet.successes rfl, Nat.sub_self, raise_zero]

/-! ### Contexts -/

theorem change_openContext (e : ε) (config : ContextConfig) :
    Change engines p (p.after engines (.operation (.openContext e config))) := by
  have hjournaled := answer_journaled engines e (.contextOpen config) p.session.state
  cases hanswer : (engines e (.contextOpen config) p.session.state.inner).1 with
  | ok h =>
    have hopen := Session.openContext_of_ok (journaled engines) p.session (hjournaled.trans hanswer)
    refine change_after (.contextOpened e config h hanswer) rfl ?_ ?_ rfl rfl
    · rw [Session.operate, hopen]
    · rw [clonesAfter, hopen]
      rfl
  | error code =>
    obtain ⟨outcome, hvalue, hopen⟩ :=
      Session.openContext_of_error (journaled engines) p.session (hjournaled.trans hanswer)
    refine change_of_quiet rfl ?_ ?_
    · rw [Session.operate, hopen]
      exact .of_asked (isVoid_entry_of_error hanswer)
    · rw [clonesAfter, hopen, hvalue, raise_none]

theorem change_holdContext {id : ContextId} {c : Context ε}
    (hc : p.session.contexts.get? id = some c) :
    Change engines p (p.after engines (.operation (.holdContext id))) := by
  have hpermits : p.permits (.holdContext id) = true := by
    rw [permits, Table.contains, hc]
    rfl
  refine change_after (.cloned id c hc) hpermits ?_ rfl rfl rfl
  rw [Session.operate, Session.holdContext, Table.modify, hc]

variable (engines) in
/-- A clone is dropped, or what is like a clone because its peer has been dropped. -/
theorem change_releaseContext {id : ContextId} {c : Context ε}
    (hc : p.session.contexts.get? id = some c) (hclones : 0 < p.clones id) :
    Change engines p { p with
      session := p.session.releaseContext (journaled engines) id
      clones := lower p.clones id 1 } := by
  unfold Session.releaseContext
  simp only [hc]
  by_cases hholders : 1 < c.holders
  · rw [if_pos hholders]
    exact .cloneDropped id c hc hclones hholders
  · rw [if_neg hholders]
    cases hh : c.handle with
    | none =>
      refine .contextDropped id c _ hc hclones (Nat.le_of_not_lt hholders) ?_ fun _ => rfl
      rw [hh]
      nofun
    | some h =>
      refine .contextDropped id c _ hc hclones (Nat.le_of_not_lt hholders) ?_ ?_
      · intro h' hh'
        obtain rfl := Option.some.inj (hh.symm.trans hh')
        rfl
      · rw [hh]
        nofun

/-- Giving up a context can only close it. -/
theorem successes_releaseContext (id : ContextId) {call : EngineCall}
    (hcall : call ≠ .contextClose) :
    (p.session.releaseContext (journaled engines) id).state.successes call =
      p.session.state.successes call := by
  obtain ⟨-, hsame | ⟨c, h, -, -, -, hasked⟩⟩ :=
    p.session.releaseContext_cases (journaled engines) id
  · rw [hsame]
  · rw [hasked, successes_of_ne (Ne.symm hcall)]

theorem change_dropContext {id : ContextId} {c : Context ε}
    (hc : p.session.contexts.get? id = some c) (hclones : 0 < p.clones id) :
    Change engines p (p.after engines (.operation (.releaseContext id))) :=
  change_after (change_releaseContext engines hc hclones) (decide_eq_true hclones) rfl rfl rfl rfl

theorem change_registerEncoding (id : ContextId) (encodingId : Int32) (encoding : MediaEncoding) :
    Change engines p (p.after engines (.operation (.registerEncoding id encodingId encoding))) := by
  refine change_of_quiet rfl ?_ rfl
  rw [Session.operate, Session.registerEncoding]
  cases p.session.contexts.get? id with
  | none => exact .refl _
  | some c =>
    dsimp only [Option.map_some, Option.getD_some]
    cases c.handle with
    | none => exact .refl _
    | some h => exact .of_asked (Exchange.isVoid_of_call rfl)

theorem change_closeContext (id : ContextId) :
    Change engines p (p.after engines (.operation (.closeContext id))) := by
  -- All ways to end but one ask nothing, or are refused.
  have hquiet : ∀ (outcome : Option (Outcome Unit)) (w : Session ε (Journaled ε σ)),
      p.session.closeContext (journaled engines) id = outcome.map (·, w) →
        Quiet engines p.session w →
          Change engines p (p.after engines (.operation (.closeContext id))) := by
    intro outcome w hclose hquiet
    refine change_of_quiet rfl ?_ rfl
    rw [Session.operate, hclose]
    cases outcome with
    | none => exact .refl _
    | some o => exact hquiet
  cases hc : p.session.contexts.get? id with
  | none =>
    refine hquiet none p.session ?_ (.refl _)
    rw [Session.closeContext, hc]
    rfl
  | some c =>
    cases hh : c.handle with
    | none => exact hquiet (some _) _ (Session.closeContext_of_closed _ _ hc hh) (.refl _)
    | some h =>
      by_cases hattached : 0 < c.attached
      · exact hquiet (some _) _ (Session.closeContext_of_attached _ _ hc hh hattached) (.refl _)
      · have hfree : c.attached = 0 := Nat.eq_zero_of_not_pos hattached
        cases hanswer : (engines c.engine (.contextClose h) p.session.state.inner).1 with
        | ok u =>
          refine change_after (.contextClosed id c h hc hh hfree hanswer) rfl ?_ rfl rfl rfl
          rw [Session.operate, Session.closeContext_of_ok (journaled engines) _ hc hh hfree hanswer]
          rfl
        | error code =>
          obtain ⟨outcome, -, hclose⟩ :=
            Session.closeContext_of_error (journaled engines) p.session hc hh hfree hanswer
          exact hquiet (some outcome) _ hclose (.of_asked (isVoid_entry_of_error hanswer))

/-! ### Peers -/

theorem change_openPeer (id : Option ContextId) (config : PeerConfig) :
    Change engines p (p.after engines (.operation (.openPeer id config))) := by
  rcases p.session.openRequest_cases id with ⟨e, hrequest⟩ | ⟨id, c, h, rfl, hc, hh, hrequest⟩
  · refine change_of_quiet rfl ?_ rfl
    rw [Session.operate, Session.openPeer, hrequest]
    exact .refl _
  · cases hanswer : (engines c.engine (.peerOpen h config) p.session.state.inner).1 with
    | ok peer =>
      have hopen := Session.openPeer_of_ok (journaled engines) p.session hrequest hanswer
      let state := (journaled engines c.engine (.peerOpen h config) p.session.state).2
      have hopened : state.successes .peerOpen = p.session.state.successes .peerOpen + 1 :=
        successes_of_ok hanswer
      have hclosed : state.successes .peerClose = p.session.state.successes .peerClose :=
        successes_of_ne (show EngineCall.peerOpen ≠ .peerClose by decide)
      -- One opening was counted and no closing, which is what the change says.
      refine change_after (.peerOpened id c h config peer _ hc hh hanswer rfl ?_ rfl rfl) rfl
        hopen.symm rfl ?_ ?_
      · rw [Session.attachments, Table.image_insert]
        rfl
      · show raise p.opened (some id) 1 = raise p.opened (some id)
          (state.successes .peerOpen - p.session.state.successes .peerOpen)
        rw [hopened, Nat.add_sub_cancel_left]
      · show p.closed = raise p.closed (some id)
          (state.successes .peerClose - p.session.state.successes .peerClose)
        rw [hclosed, Nat.sub_self, raise_zero]
    | error code =>
      refine change_of_quiet rfl ?_ rfl
      rw [Session.operate, Session.openPeer_of_error (journaled engines) p.session hrequest hanswer]
      exact .of_asked (isVoid_entry_of_error hanswer)

/-- A peer that keeps its handle leaves every context alone. -/
theorem contexts_update_of_eq (w : Session ε σ) (id : PeerId) {m : Member ε} {peer : Peer} (s : σ)
    (hhandle : peer.handle = m.peer.handle) :
    (w.update id m peer s).contexts = w.contexts ∧ (w.update id m peer s).next = w.next := by
  have hstill : ¬ (m.peer.isClosed = false ∧ peer.isClosed = true) := by
    rw [Peer.isClosed, Peer.isClosed, hhandle]
    rintro ⟨hopen, hclosed⟩
    exact Bool.false_ne_true (hopen.symm.trans hclosed)
  unfold Session.update
  simp only [if_neg hstill]
  exact ⟨trivial, trivial⟩

/-- A peer that loses its handle is counted off at its context. -/
theorem contexts_update_of_closed (w : Session ε σ) (id : PeerId) {m : Member ε} {peer : Peer}
    (s : σ) {h : PeerHandle} (hopen : m.peer.handle = some h) (hclosed : peer.handle = none) :
    (w.update id m peer s).contexts =
        w.contexts.modify m.context (fun c => { c with attached := c.attached - 1 }) ∧
      (w.update id m peer s).next = w.next := by
  have hcloses : m.peer.isClosed = false ∧ peer.isClosed = true := by
    rw [Peer.isClosed, Peer.isClosed, hopen, hclosed]
    exact ⟨rfl, rfl⟩
  unfold Session.update
  simp only [if_pos hcloses]
  exact ⟨rfl, rfl⟩

/-- What an operation of a peer may change of its attachment is the handle. -/
theorem attachments_update (w : Session ε σ) (id : PeerId) (m : Member ε) (peer : Peer) (s : σ) :
    (w.update id m peer s).attachments =
      w.attachments.insert id { m.attachment with handle := peer.handle } := by
  rw [Session.attachments, Session.peers_update, Table.image_insert]
  rfl

/-- What becomes of the accounts when a peer performs an operation or is closed. -/
theorem change_update {id : PeerId} {m : Member ε} {kind : Option PeerKind}
    {result : Peer × Journaled ε σ} (hm : p.session.peers.get? id = some m)
    (hmoves : m.peer.Moves (journaled engines m.engine) kind p.session.state result) :
    let w := p.session.update id m result.1 result.2
    w.state.successes .peerOpen = p.session.state.successes .peerOpen ∧
      Change engines p { p with
        session := w
        closed := raise p.closed (some m.context)
          (w.state.successes .peerClose - p.session.state.successes .peerClose) } := by
  intro w
  have hstate : w.state = result.2 := p.session.state_update id m _ _
  have hattachment := Session.attachments_of_get? hm
  have hattachments := attachments_update p.session id m result.1 result.2
  -- Both ways to keep the handle are the quiet change.
  have hstill : result.1.handle = m.peer.handle →
      (result.2 = p.session.state ∨ ∃ e r, (p.session.state.entry engines e r).IsVoid ∧
        result.2 = (journaled engines e r p.session.state).2) →
      w.state.successes .peerOpen = p.session.state.successes .peerOpen ∧
        Change engines p { p with
          session := w
          closed := raise p.closed (some m.context)
            (w.state.successes .peerClose - p.session.state.successes .peerClose) } := by
    intro hhandle hasked
    obtain ⟨hcontexts, hnext⟩ := contexts_update_of_eq p.session id result.2 hhandle
    have hquiet : Quiet engines p.session w := by
      refine ⟨hcontexts, hattachments.trans ?_, hnext, hstate ▸ hasked⟩
      rw [hhandle]
      exact Table.insert_of_get? hattachment
    refine ⟨hquiet.successes rfl, ?_⟩
    rw [hquiet.successes rfl, Nat.sub_self, raise_zero]
    exact .quiet w hquiet
  rcases hmoves with rfl | ⟨h, r, -, hasked, hstep⟩
  · exact hstill rfl (.inl rfl)
  · rcases hstep.handle with ⟨hcloses, hsame⟩ | ⟨⟨⟨h', rfl⟩, hfailure⟩, hclosed⟩
    · exact hstill (hsame.trans hstep.isOpen.symm)
        (.inr ⟨m.engine, r, Exchange.isVoid_of_own hstep.own hcloses, hasked⟩)
    · -- The handle is lost, so this was a close that has succeeded.
      obtain rfl : h' = h := Option.some.inj hstep.own
      have hanswer : (engines m.engine (.peerClose h') p.session.state.inner).1 = .ok () := by
        cases hok : (engines m.engine (.peerClose h') p.session.state.inner).1 with
        | ok u => rfl
        | error code =>
          rw [answer_journaled, hok] at hfailure
          exact absurd hfailure nofun
      have hopened : w.state.successes .peerOpen = p.session.state.successes .peerOpen := by
        rw [hstate, hasked]
        exact successes_of_ne (show EngineCall.peerClose ≠ .peerOpen by decide)
      have hcount : w.state.successes .peerClose = p.session.state.successes .peerClose + 1 := by
        rw [hstate, hasked]
        exact successes_of_ok hanswer
      obtain ⟨hcontexts, hnext⟩ :=
        contexts_update_of_closed p.session id result.2 hstep.isOpen hclosed
      refine ⟨hopened, ?_⟩
      rw [hcount, Nat.add_sub_cancel_left]
      exact .peerClosed id m.attachment h' w hattachment hstep.isOpen hanswer hcontexts
        (hclosed ▸ hattachments) hnext (hstate.trans hasked)

/-- Every operation of a peer is quiet or closes this peer. -/
theorem change_onPeer (id : PeerId) (op : PeerOp) :
    Change engines p (p.after engines (.operation (.onPeer id op))) := by
  rcases p.session.onPeer_cases (journaled engines) id op with hsame | ⟨m, hm, -, hmoved⟩
  · refine change_of_quiet rfl ?_ rfl
    rw [Session.operate, hsame]
    exact .refl _
  · have htarget : p.session.target (.onPeer id op) = some m.context := by
      rw [Session.target, hm]
      rfl
    obtain ⟨hopened, hchange⟩ :=
      change_update hm (op.moves_run (journaled engines m.engine) m.peer p.session.state)
    refine change_after hchange rfl hmoved.symm rfl ?_ ?_
    · show p.opened = _
      rw [hopened, Nat.sub_self, raise_zero]
    · rw [htarget]

/-- An operation of a peer takes no context away. -/
theorem isSome_update (w : Session ε σ) (id : PeerId) (m : Member ε) (peer : Peer) (s : σ)
    (other : ContextId) : ((w.update id m peer s).contexts.get? other).isSome =
      (w.contexts.get? other).isSome := by
  unfold Session.update
  dsimp only
  split
  · rw [Session.detach, Table.modify]
    cases hc : w.contexts.get? m.context with
    | none => rfl
    | some c =>
      dsimp only
      rw [Table.get?_insert]
      by_cases hother : other = m.context
      · rw [if_pos hother, hother, hc]
        rfl
      · rw [if_neg hother]
  · rfl

variable (engines) in
/-- A peer is dropped that is closed, or that its engine refuses to close. -/
theorem change_dropped {id : PeerId} {m : Member ε} {s : Journaled ε σ}
    (hm : p.session.peers.get? id = some m) (hclosed : m.peer.handle = none → s = p.session.state)
    (hopen : ∀ h, m.peer.handle = some h →
      (∃ code, (engines m.engine (.peerClose h) p.session.state.inner).1 = .error code) ∧
        s = (journaled engines m.engine (.peerClose h) p.session.state).2) :
    let w := p.session.update id m m.peer s
    Change engines p { p with
      session := { w with peers := w.peers.erase id }
      clones := raise p.clones (some m.context) 1 } := by
  intro w
  have hattachment := Session.attachments_of_get? hm
  have hstate : w.state = s := p.session.state_update id m _ _
  obtain ⟨hcontexts, hnext⟩ := contexts_update_of_eq p.session id s (m := m) rfl
  have hsame : w.attachments = p.session.attachments :=
    (attachments_update p.session id m m.peer s).trans (Table.insert_of_get? hattachment)
  have herase : Session.attachments { w with peers := w.peers.erase id } = w.attachments.erase id :=
    Table.image_erase _ _ _
  exact .peerDropped id m.attachment _ hattachment hcontexts (hsame ▸ herase) hnext
    (hstate ▸ hclosed) (hstate ▸ hopen)

variable (engines) in
/-- A peer is closed, if it is open and its engine agrees, and taken from the peers of the session.
-/
theorem chain_dispose {id : PeerId} {m : Member ε} {result : Peer × Journaled ε σ}
    (hm : p.session.peers.get? id = some m)
    (hresult : m.peer.dispose (journaled engines m.engine) p.session.state = result) :
    let w := p.session.update id m result.1 result.2
    w.state.successes .peerOpen = p.session.state.successes .peerOpen ∧
      Relation.ReflTransGen (Change engines) p { p with
        session := { w with peers := w.peers.erase id }
        clones := raise p.clones (some m.context) 1
        closed := raise p.closed (some m.context)
          (w.state.successes .peerClose - p.session.state.successes .peerClose) } := by
  intro w
  have hstate : w.state = result.2 := p.session.state_update id m _ _
  cases hhandle : m.peer.handle with
  | none =>
    rw [Peer.dispose_of_closed _ _ hhandle] at hresult
    subst hresult
    have hchange := change_dropped engines hm (fun _ => rfl) (by rw [hhandle]; nofun)
    have hsame (call : EngineCall) : w.state.successes call = p.session.state.successes call := by
      rw [hstate]
    rw [hsame, hsame, Nat.sub_self, raise_zero]
    exact ⟨rfl, .single hchange⟩
  | some h =>
    have hjournaled := answer_journaled engines m.engine (.peerClose h) p.session.state
    cases hanswer : (engines m.engine (.peerClose h) p.session.state.inner).1 with
    | error code =>
      rw [Peer.dispose_of_error _ _ hhandle (hjournaled.trans hanswer)] at hresult
      subst hresult
      have hchange := change_dropped engines hm (by rw [hhandle]; nofun) fun h' hh' => by
        obtain rfl := Option.some.inj (hhandle.symm.trans hh')
        exact ⟨⟨code, hanswer⟩, rfl⟩
      have hsame (call : EngineCall) :
          w.state.successes call = p.session.state.successes call := by
        rw [hstate]
        exact successes_of_error hanswer call
      rw [hsame, hsame, Nat.sub_self, raise_zero]
      exact ⟨rfl, .single hchange⟩
    | ok u =>
      -- The peer is closed first, which is a change of its own.
      have hclosed : result.1.handle = none :=
        hresult ▸ Peer.handle_dispose_of_ok _ _ hhandle (hjournaled.trans hanswer)
      have hmoves := m.peer.moves_dispose (journaled engines m.engine) p.session.state
      rw [hresult] at hmoves
      obtain ⟨hopened, hchange⟩ := change_update hm hmoves
      refine ⟨hopened, .tail (.single hchange) ?_⟩
      refine .peerDropped id { m.attachment with handle := none } _ ?_ rfl (Table.image_erase _ _ _)
        rfl (fun _ => rfl) nofun
      show w.attachments.get? id = _
      rw [attachments_update, Table.get?_insert_self, hclosed]

/-- Dropping a peer closes it, if it is open and its engine agrees, and then drops its part in its
context. -/
theorem chain_dropPeer {id : PeerId} {m : Member ε} (hm : p.session.peers.get? id = some m)
    (hcontext : (p.session.contexts.get? m.context).isSome = true) :
    Relation.ReflTransGen (Change engines) p
      (p.after engines (.operation (.releasePeer id))) := by
  obtain ⟨result, hresult⟩ :
      ∃ result, m.peer.dispose (journaled engines m.engine) p.session.state = result := ⟨_, rfl⟩
  obtain ⟨hopened, hchain⟩ := chain_dispose engines hm hresult
  refine hchain.tail ?_
  let w := p.session.update id m result.1 result.2
  let q : Program ε σ := { p with
    session := { w with peers := w.peers.erase id }
    clones := raise p.clones (some m.context) 1
    closed := raise p.closed (some m.context)
      (w.state.successes .peerClose - p.session.state.successes .peerClose) }
  obtain ⟨c, hc⟩ : ∃ c, q.session.contexts.get? m.context = some c := by
    rw [← Option.isSome_iff_exists, ← hcontext]
    exact isSome_update p.session id m result.1 result.2 m.context
  -- What is left of the peer is one more clone, which is dropped now.
  have hclones : 0 < q.clones m.context := by
    show 0 < p.clones m.context + if some m.context = some m.context then 1 else 0
    rw [if_pos rfl]
    omega
  have hrelease := change_releaseContext engines hc hclones
  have hsuccesses (call : EngineCall) (hcall : call ≠ .contextClose) :
      (q.session.releaseContext (journaled engines) m.context).state.successes call =
        w.state.successes call :=
    successes_releaseContext m.context hcall
  have htarget : p.session.target (.releasePeer id) = some m.context := by
    rw [Session.target, hm]
    rfl
  have hafter : { q with
      session := q.session.releaseContext (journaled engines) m.context
      clones := lower q.clones m.context 1 } = p.after engines (.operation (.releasePeer id)) := by
    refine eq_after rfl ?_ (lower_raise p.clones m.context 1) ?_ ?_
    · rw [Session.operate, Session.releasePeer]
      simp only [hm, hresult]
      rfl
    · show p.opened = raise p.opened _ (_ - _)
      rw [hsuccesses .peerOpen nofun, hopened, Nat.sub_self, raise_zero]
    · show q.closed = raise p.closed _ (_ - _)
      rw [hsuccesses .peerClose nofun, htarget]
  exact hafter ▸ hrelease

end Program
end AudioLink
