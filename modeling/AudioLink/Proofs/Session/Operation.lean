import AudioLink.Proofs.Peer.Operation
import AudioLink.Proofs.Table
import AudioLink.Session.Basic

/-
What a program can do with a session.

A `SessionOp` is an operation of a program on its contexts and peers, with its arguments. All that is
said of the operations of a peer follows from what is said of them for a peer alone, since they act on
one member of the session and on the state of its engine.
-/
set_option autoImplicit false

namespace AudioLink

/-- An operation on a session with its arguments; `ε` names the engines. -/
inductive SessionOp (ε : Type) where
  | openContext (engine : ε) (config : ContextConfig)
  | holdContext (id : ContextId)
  | releaseContext (id : ContextId)
  | registerEncoding (id : ContextId) (encodingId : Int32) (encoding : MediaEncoding)
  | closeContext (id : ContextId)
  | openPeer (context : Option ContextId) (config : PeerConfig)
  | onPeer (id : PeerId) (op : PeerOp)
  | releasePeer (id : PeerId)

namespace Session

variable {ε σ : Type}

/-- Performs an operation of a peer. There is nothing to perform it on if there is no such peer, or
one of the other kind. -/
def onPeer (engines : ε → Engine σ) (w : Session ε σ) (id : PeerId) : PeerOp → Session ε σ
  | .configure slot i config => ((w.configure engines id slot i config).map Prod.snd).getD w
  | .bind slot i endpoint => ((w.bind engines id slot i endpoint).map Prod.snd).getD w
  | .connect slot i endpoint => ((w.connect engines id slot i endpoint).map Prod.snd).getD w
  | .unlink slot => ((w.unlink engines id slot).map Prod.snd).getD w
  | .readFrame length => ((w.readFrame engines id length).map Prod.snd).getD w
  | .writeFrame frame => ((w.writeFrame engines id frame).map Prod.snd).getD w
  | .close => ((w.closePeer engines id).map Prod.snd).getD w

/-- Performs an operation. -/
def operate (engines : ε → Engine σ) (w : Session ε σ) : SessionOp ε → Session ε σ
  | .openContext engine config => (w.openContext engines engine config).2
  | .holdContext id => w.holdContext id
  | .releaseContext id => w.releaseContext engines id
  | .registerEncoding id encodingId encoding =>
    ((w.registerEncoding engines id encodingId encoding).map Prod.snd).getD w
  | .closeContext id => ((w.closeContext engines id).map Prod.snd).getD w
  | .openPeer context config => (w.openPeer engines context config).2
  | .onPeer id op => w.onPeer engines id op
  | .releasePeer id => w.releasePeer engines id

/-! ## Operations of a peer -/

variable (engines : ε → Engine σ) (w : Session ε σ)

/-- Putting a member in the place of what it was changes nothing else of the peers. -/
theorem peers_update (id : PeerId) (m : Member ε) (p : Peer) (s : σ) :
    (w.update id m p s).peers = w.peers.insert id { m with peer := p } := by
  unfold update
  dsimp only
  split
  · rfl
  · rfl

theorem state_update (id : PeerId) (m : Member ε) (p : Peer) (s : σ) :
    (w.update id m p s).state = s := by
  unfold update
  dsimp only
  split
  · rfl
  · rfl

/-- A member that stays what it is leaves the session as it is, but for the state of the engines. -/
theorem update_same {w : Session ε σ} {id : PeerId} {m : Member ε}
    (hm : w.peers.get? id = some m) (s : σ) : w.update id m m.peer s = { w with state := s } := by
  have hpeers : w.peers.insert id m = w.peers := Table.insert_of_get? hm
  have hopen : ¬ (m.peer.isClosed = false ∧ m.peer.isClosed = true) := by
    rintro ⟨hopen, hclosed⟩
    rw [hopen] at hclosed
    exact Bool.false_ne_true hclosed
  rw [update, if_neg hopen, hpeers]

/-- An operation of a peer finds nothing to be performed on, or is performed on a member. -/
theorem perform_cases {α : Type} (kind : Option PeerKind) (id : PeerId)
    (operation : Engine σ → Peer → σ → α × Peer × σ) :
    w.perform engines kind id operation = none ∨
      ∃ m, w.peers.get? id = some m ∧ (∀ k ∈ kind, m.peer.kind = k) ∧
        w.perform engines kind id operation =
          some ((operation (engines m.engine) m.peer w.state).1,
            w.update id m (operation (engines m.engine) m.peer w.state).2.1
              (operation (engines m.engine) m.peer w.state).2.2) := by
  unfold perform
  cases hm : w.peers.get? id with
  | none => exact .inl rfl
  | some m =>
    dsimp only
    by_cases hkind : kind.all (· = m.peer.kind) = true
    · rw [if_pos hkind]
      refine .inr ⟨m, rfl, fun k hk => ?_, rfl⟩
      rw [Option.mem_def.mp hk] at hkind
      exact (of_decide_eq_true hkind).symm
    · rw [if_neg hkind]
      exact .inl rfl

/-- There is something to perform it on if the peer is there, and of the right kind. -/
theorem perform_of_get? {α : Type} {w : Session ε σ} {kind : Option PeerKind} {id : PeerId}
    {m : Member ε} (hm : w.peers.get? id = some m) (hkind : ∀ k ∈ kind, m.peer.kind = k)
    (operation : Engine σ → Peer → σ → α × Peer × σ) :
    w.perform engines kind id operation =
      some ((operation (engines m.engine) m.peer w.state).1,
        w.update id m (operation (engines m.engine) m.peer w.state).2.1
          (operation (engines m.engine) m.peer w.state).2.2) := by
  have hfits : kind.all (· = m.peer.kind) = true := by
    cases kind with
    | none => rfl
    | some k => exact decide_eq_true (hkind k rfl).symm
  rw [perform, hm]
  dsimp only
  rw [if_pos hfits]

theorem snd_perform {α : Type} (kind : Option PeerKind) (id : PeerId)
    (operation : Engine σ → Peer → σ → α × Peer × σ) :
    ((w.perform engines kind id operation).map Prod.snd).getD w = w ∨
      ∃ m, w.peers.get? id = some m ∧ (∀ k ∈ kind, m.peer.kind = k) ∧
        ((w.perform engines kind id operation).map Prod.snd).getD w =
          w.update id m (operation (engines m.engine) m.peer w.state).2.1
            (operation (engines m.engine) m.peer w.state).2.2 := by
  rcases w.perform_cases engines kind id operation with hnone | ⟨m, hm, hkind, hsome⟩
  · rw [hnone]
    exact .inl rfl
  · rw [hsome]
    exact .inr ⟨m, hm, hkind, rfl⟩

/-- An operation of a peer changes nothing, or its member and the state of the engine. -/
theorem onPeer_cases (id : PeerId) (op : PeerOp) :
    w.onPeer engines id op = w ∨
      ∃ m, w.peers.get? id = some m ∧ (∀ k ∈ op.kind?, m.peer.kind = k) ∧
        w.onPeer engines id op =
          w.update id m (op.run (engines m.engine) m.peer w.state).1
            (op.run (engines m.engine) m.peer w.state).2 := by
  cases op with
  | configure slot i config => exact w.snd_perform engines none id _
  | bind slot i endpoint => exact w.snd_perform engines (some .receiver) id _
  | connect slot i endpoint => exact w.snd_perform engines (some .sender) id _
  | unlink slot => exact w.snd_perform engines none id _
  | readFrame length => exact w.snd_perform engines (some .receiver) id _
  | writeFrame frame => exact w.snd_perform engines (some .sender) id _
  | close => exact w.snd_perform engines none id _

/-! ## All operations -/

/-- What an operation can do to the peers of a session and to the state of the engines. -/
inductive Effect (engines : ε → Engine σ) (w w' : Session ε σ) : Prop where
  | still (hpeers : w'.peers = w.peers) (hstate : w'.state = w.state)
  /-- An engine is asked something that is not about a peer. -/
  | asked (engine : ε) (r : Request) (hr : r.peer? = none) (hpeers : w'.peers = w.peers)
      (hstate : w'.state = (engines engine r w.state).2)
  /-- A peer is opened. -/
  | opened (id : PeerId) (context : ContextId) (engine : ε) (c : ContextHandle)
      (config : PeerConfig) (h : PeerHandle)
      (hanswer : (engines engine (.peerOpen c config) w.state).1 = .ok h)
      (hpeers : w'.peers = w.peers.insert id
        { engine, context, peer := { kind := config.kind, handle := some h } })
      (hstate : w'.state = (engines engine (.peerOpen c config) w.state).2)
  /-- A peer performs an operation. -/
  | moved (id : PeerId) (m : Member ε) (kind : Option PeerKind) (result : Peer × σ)
      (hm : w.peers.get? id = some m) (hkind : ∀ k ∈ kind, m.peer.kind = k)
      (hmoves : m.peer.Moves (engines m.engine) kind w.state result)
      (hpeers : w'.peers = w.peers.insert id { m with peer := result.1 })
      (hstate : w'.state = result.2)
  /-- A peer is let go, and then its context perhaps. -/
  | released (id : PeerId) (m : Member ε) (result : Peer × σ)
      (hm : w.peers.get? id = some m) (hmoves : m.peer.Moves (engines m.engine) none w.state result)
      (hpeers : w'.peers = (w.peers.insert id { m with peer := result.1 }).erase id)
      (hstate : w'.state = result.2 ∨
        ∃ engine h, w'.state = (engines engine (.contextClose h) result.2).2)

/-- Opening a context asks its engine, and that is all that an engine is asked. -/
theorem state_openContext (engine : ε) (config : ContextConfig) :
    (w.openContext engines engine config).2.state =
      (engines engine (.contextOpen config) w.state).2 := by
  unfold openContext
  dsimp only
  split <;> rfl

theorem effect_openContext (engine : ε) (config : ContextConfig) :
    Effect engines w (w.openContext engines engine config).2 := by
  refine .asked engine (.contextOpen config) rfl ?_ (w.state_openContext engines engine config)
  unfold openContext
  dsimp only
  split <;> rfl

/-- Releasing a context leaves the peers alone, and may close the context, which is taken from the
session then. -/
theorem releaseContext_cases (id : ContextId) :
    (w.releaseContext engines id).peers = w.peers ∧
      ((w.releaseContext engines id).state = w.state ∨
        ∃ c h, w.contexts.get? id = some c ∧ c.handle = some h ∧
          (w.releaseContext engines id).contexts = w.contexts.erase id ∧
          (w.releaseContext engines id).state =
            (engines c.engine (.contextClose h) w.state).2) := by
  unfold releaseContext
  cases hc : w.contexts.get? id with
  | none => exact ⟨rfl, .inl rfl⟩
  | some c =>
    dsimp only
    split
    · exact ⟨rfl, .inl rfl⟩
    · cases hhandle : c.handle with
      | none => exact ⟨rfl, .inl rfl⟩
      | some h => exact ⟨rfl, .inr ⟨c, h, rfl, hhandle, rfl, rfl⟩⟩

theorem effect_releaseContext (id : ContextId) :
    Effect engines w (w.releaseContext engines id) := by
  obtain ⟨hpeers, hstate | ⟨c, h, -, -, -, hstate⟩⟩ := w.releaseContext_cases engines id
  · exact .still hpeers hstate
  · exact .asked c.engine (.contextClose h) rfl hpeers hstate

theorem effect_registerEncoding (id : ContextId) (encodingId : Int32)
    (encoding : MediaEncoding) :
    Effect engines w
      (((w.registerEncoding engines id encodingId encoding).map Prod.snd).getD w) := by
  unfold registerEncoding
  cases w.contexts.get? id with
  | none => exact .still rfl rfl
  | some c =>
    dsimp only [Option.map_some, Option.getD_some]
    cases c.handle with
    | none => exact .still rfl rfl
    | some handle =>
      exact .asked c.engine (.registerEncoding handle encodingId encoding) rfl rfl rfl

theorem effect_closeContext (id : ContextId) :
    Effect engines w (((w.closeContext engines id).map Prod.snd).getD w) := by
  unfold closeContext
  cases w.contexts.get? id with
  | none => exact .still rfl rfl
  | some c =>
    dsimp only [Option.map_some, Option.getD_some]
    cases c.handle with
    | none => exact .still rfl rfl
    | some handle =>
      dsimp only
      split
      · exact .still rfl rfl
      · refine .asked c.engine (.contextClose handle) rfl ?_ ?_
        · split <;> rfl
        · split <;> rfl

theorem effect_openPeer (context : Option ContextId) (config : PeerConfig) :
    Effect engines w (w.openPeer engines context config).2 := by
  unfold openPeer
  cases w.openRequest context with
  | error e => exact .still rfl rfl
  | ok admitted =>
    obtain ⟨id, c, handle⟩ := admitted
    dsimp only
    cases hanswer : (engines c.engine (.peerOpen handle config) w.state).1 with
    | ok h => exact .opened ⟨w.next⟩ id c.engine handle config h hanswer rfl rfl
    | error code =>
      by_cases hcode : code.isNegative = true
      · simp only [Outcome.ofAnswer, if_pos hcode]
        exact .asked c.engine (.peerOpen handle config) rfl rfl rfl
      · simp only [Outcome.ofAnswer, if_neg hcode]
        exact .asked c.engine (.peerOpen handle config) rfl rfl rfl

theorem effect_onPeer (id : PeerId) (op : PeerOp) : Effect engines w (w.onPeer engines id op) := by
  rcases w.onPeer_cases engines id op with hsame | ⟨m, hm, hkind, hmoved⟩
  · rw [hsame]
    exact .still rfl rfl
  · rw [hmoved]
    exact .moved id m op.kind? _ hm hkind (op.moves_run (engines m.engine) m.peer w.state)
      (w.peers_update id m _ _) (w.state_update id m _ _)

theorem effect_releasePeer (id : PeerId) : Effect engines w (w.releasePeer engines id) := by
  unfold releasePeer
  cases hm : w.peers.get? id with
  | none => exact .still rfl rfl
  | some m =>
    dsimp only
    have hmoves := m.peer.moves_dispose (engines m.engine) w.state
    generalize m.peer.dispose (engines m.engine) w.state = result at hmoves ⊢
    have hstate : (w.update id m result.1 result.2).state = result.2 := w.state_update id m _ _
    obtain ⟨hpeers, hasked⟩ := releaseContext_cases engines
      { w.update id m result.1 result.2 with
        peers := (w.update id m result.1 result.2).peers.erase id } m.context
    refine .released id m result hm hmoves ?_ ?_
    · rw [hpeers, peers_update]
    · rcases hasked with hsame | ⟨c, h, -, -, -, hasked⟩
      · exact .inl (hsame.trans hstate)
      · rw [hstate] at hasked
        exact .inr ⟨c.engine, h, hasked⟩

/-- What any operation can do. -/
theorem effect_operate (op : SessionOp ε) : Effect engines w (w.operate engines op) := by
  cases op with
  | openContext engine config => exact w.effect_openContext engines engine config
  | holdContext id => exact .still rfl rfl
  | releaseContext id => exact w.effect_releaseContext engines id
  | registerEncoding id encodingId encoding =>
    exact w.effect_registerEncoding engines id encodingId encoding
  | closeContext id => exact w.effect_closeContext engines id
  | openPeer context config => exact w.effect_openPeer engines context config
  | onPeer id op => exact w.effect_onPeer engines id op
  | releasePeer id => exact w.effect_releasePeer engines id

end Session
end AudioLink
