import AudioLink.Peer.Basic

/-
Sessions: the contexts and peers of a program, and the engines behind them.

A context is shared by its clones and by the peers that were opened on it; it counts how many of
them hold it, and the last one to let go releases its handle. It also counts the peers that are
attached, and cannot be closed while there are any. Several engines may be in use, which share one
state; `ε` is the type of their names, and each context and peer remembers the name of its own.
-/
set_option autoImplicit false

namespace AudioLink

/-! ## Objects -/

/-- The name of a context within a session. -/
structure ContextId where
  index : Nat
  deriving DecidableEq, Repr

/-- The name of a peer within a session. -/
structure PeerId where
  index : Nat
  deriving DecidableEq, Repr

instance : Ranked ContextId where
  rank := ContextId.index
  rank_inj {a b} h := by cases a; cases b; simpa using h

instance : Ranked PeerId where
  rank := PeerId.index
  rank_inj {a b} h := by cases a; cases b; simpa using h

/-- A context. -/
structure Context (ε : Type) where
  engine : ε
  /-- The handle of the engine; none once the context is closed. -/
  handle : Option ContextHandle
  /-- Number of open peers. -/
  attached : Nat := 0
  /-- Number of clones and peers that hold the context. -/
  holders : Nat := 1
  deriving DecidableEq, Repr

namespace Context

variable {ε : Type}

/-- Whether the context is closed. -/
def isClosed (c : Context ε) : Bool := c.handle.isNone

/-- The form in which a context is shown for debugging. -/
def debugText (c : Context ε) : String :=
  let closed := if c.isClosed then "true" else "false"
  "Context \x7b closed: " ++ closed ++ ", attached: " ++ toString c.attached ++ " \x7d"

end Context

/-- A peer together with the context that it was opened on. -/
structure Member (ε : Type) where
  engine : ε
  context : ContextId
  peer : Peer

/-- The objects of a program and the state of the engines. -/
structure Session (ε σ : Type) where
  /-- Contexts that somebody holds. -/
  contexts : Table ContextId (Context ε) := .empty
  /-- Peers that somebody holds. -/
  peers : Table PeerId (Member ε) := .empty
  /-- Number of the next object. -/
  next : Nat := 0
  /-- State of the engines. -/
  state : σ

namespace Session

variable {ε σ : Type}

/-! ## Contexts -/

/-- The outcome of opening a context, in which a refusal is a fault of the configuration. -/
def openOutcome (answer : Answer ContextHandle) : Outcome ContextHandle :=
  match Outcome.ofAnswer .contextOpen answer with
  | .failed (.engine _ code) =>
    .failed (.invalidConfig
      ("engine rejected context config with code " ++ toString code.code.toInt))
  | outcome => outcome

/-- Opens a context on an engine. -/
def openContext (engines : ε → Engine σ) (w : Session ε σ) (engine : ε) (config : ContextConfig) :
    Outcome ContextId × Session ε σ :=
  let (answer, state) := engines engine (.contextOpen config) w.state
  let w := { w with state }
  match openOutcome answer with
  | .ok handle =>
    let id : ContextId := ⟨w.next⟩
    (.ok id, { w with
      contexts := w.contexts.insert id { engine, handle := some handle }, next := w.next + 1 })
  | .failed e => (.failed e, w)
  | .breach call code => (.breach call code, w)

/-- Adds a holder to a context. -/
def holdContext (w : Session ε σ) (id : ContextId) : Session ε σ :=
  { w with contexts := w.contexts.modify id fun c => { c with holders := c.holders + 1 } }

/-- Takes a holder from a context. The last one releases the handle, and a failure of that is passed
over. -/
def releaseContext (engines : ε → Engine σ) (w : Session ε σ) (id : ContextId) : Session ε σ :=
  match w.contexts.get? id with
  | none => w
  | some c =>
    if 1 < c.holders then
      { w with contexts := w.contexts.insert id { c with holders := c.holders - 1 } }
    else
      -- The context goes first: a refusal by the engine does not bring it back.
      let w := { w with contexts := w.contexts.erase id }
      match c.handle with
      | none => w
      | some handle => { w with state := (engines c.engine (.contextClose handle) w.state).2 }

/-- Registers a packet encoding on a context; `none` if there is no such context. -/
def registerEncoding (engines : ε → Engine σ) (w : Session ε σ) (id : ContextId) (encodingId : Int32)
    (encoding : MediaEncoding) : Option (Outcome Unit × Session ε σ) :=
  (w.contexts.get? id).map fun c =>
    match c.handle with
    | none => (.failed .contextClosed, w)
    | some handle =>
      let (answer, state) :=
        engines c.engine (.registerEncoding handle encodingId encoding) w.state
      (Outcome.ofAnswer .contextRegisterEncoding answer, { w with state })

/-- The outcome of closing a context on which `attached` peers are open. -/
def closeOutcome (attached : Nat) (answer : Answer Unit) : Outcome Unit :=
  match answer with
  | .error code =>
    if code = .busy then .failed (.resourceBusy attached)
    else Outcome.ofAnswer .contextClose answer
  | .ok () => .ok ()

/-- Closes a context, which is refused while peers are attached; closing it again does nothing.
`none` if there is no such context. -/
def closeContext (engines : ε → Engine σ) (w : Session ε σ) (id : ContextId) :
    Option (Outcome Unit × Session ε σ) :=
  (w.contexts.get? id).map fun c =>
    match c.handle with
    | none => (.ok (), w)
    | some handle =>
      -- The engine would refuse too, but is not asked while the count says so.
      if 0 < c.attached then (.failed (.resourceBusy c.attached), w)
      else
        let (answer, state) := engines c.engine (.contextClose handle) w.state
        let w := { w with state }
        match closeOutcome c.attached answer with
        | .ok () =>
          (.ok (), { w with contexts := w.contexts.insert id { c with handle := none } })
        | outcome => (outcome, w)

/-! ## Opening and closing peers -/

/-- The context and its handle for opening a peer. -/
def openRequest (w : Session ε σ) (id : Option ContextId) :
    Except Error (ContextId × Context ε × ContextHandle) :=
  match id with
  | none => .error .contextMissing
  | some id =>
    match w.contexts.get? id with
    | none => .error .contextMissing
    | some c =>
      match c.handle with
      | none => .error .contextClosed
      | some handle => .ok (id, c, handle)

/-- Opens a peer on a context and attaches it. -/
def openPeer (engines : ε → Engine σ) (w : Session ε σ) (id : Option ContextId)
    (config : PeerConfig) : Outcome PeerId × Session ε σ :=
  match w.openRequest id with
  | .error e => (.failed e, w)
  | .ok (id, c, handle) =>
    let (answer, state) := engines c.engine (.peerOpen handle config) w.state
    let w := { w with state }
    match Outcome.ofAnswer .peerOpen answer with
    | .ok handle =>
      let peer : PeerId := ⟨w.next⟩
      (.ok peer, { w with
        contexts := w.contexts.insert id
          { c with attached := c.attached + 1, holders := c.holders + 1 }
        peers := w.peers.insert peer
          { engine := c.engine, context := id, peer := { kind := config.kind, handle } }
        next := w.next + 1 })
    | .failed e => (.failed e, w)
    | .breach call code => (.breach call code, w)

/-- Notes that a peer of a context has been closed. -/
def detach (w : Session ε σ) (id : ContextId) : Session ε σ :=
  { w with contexts := w.contexts.modify id fun c => { c with attached := c.attached - 1 } }

/-- The session after a peer has gone over into another state. A peer that was open and is closed
now is detached from its context. -/
def update (w : Session ε σ) (id : PeerId) (m : Member ε) (peer : Peer) (state : σ) :
    Session ε σ :=
  let w := { w with peers := w.peers.insert id { m with peer }, state }
  if m.peer.isClosed = false ∧ peer.isClosed then w.detach m.context else w

/-- Lets go of a peer: closes it if it is open, and takes it from the holders of its context. -/
def releasePeer (engines : ε → Engine σ) (w : Session ε σ) (id : PeerId) : Session ε σ :=
  match w.peers.get? id with
  | none => w
  | some m =>
    let (peer, state) := m.peer.dispose (engines m.engine) w.state
    let w := w.update id m peer state
    -- The peer held its context until now, so this may close the context behind it.
    { w with peers := w.peers.erase id }.releaseContext engines m.context

/-! ## Operations of a peer -/

/-- Performs an operation of a peer; `none` if there is no such peer, or if the operation is one of
a kind of peer that this one is not. -/
def perform {α : Type} (engines : ε → Engine σ) (w : Session ε σ) (kind : Option PeerKind)
    (id : PeerId) (operation : Engine σ → Peer → σ → α × Peer × σ) : Option (α × Session ε σ) :=
  match w.peers.get? id with
  | none => none
  | some m =>
    if kind.all (· = m.peer.kind) then
      let (outcome, peer, state) := operation (engines m.engine) m.peer w.state
      some (outcome, w.update id m peer state)
    else none

/-- Sets the options of an interface of a peer. -/
def configure (engines : ε → Engine σ) (w : Session ε σ) (id : PeerId) (slot : Slot)
    (interface : Interface) (config : InterfaceConfig) : Option (Outcome Unit × Session ε σ) :=
  w.perform engines none id fun engine p s => p.configure engine slot interface config s

/-- Binds an interface of a receiver. -/
def bind (engines : ε → Engine σ) (w : Session ε σ) (id : PeerId) (slot : Slot)
    (interface : Interface) (endpoint : Option Endpoint) :
    Option (Outcome Endpoint × Session ε σ) :=
  w.perform engines (some .receiver) id fun engine p s => p.bind engine slot interface endpoint s

/-- Connects an interface of a sender. -/
def connect (engines : ε → Engine σ) (w : Session ε σ) (id : PeerId) (slot : Slot)
    (interface : Interface) (endpoint : Option Endpoint) : Option (Outcome Unit × Session ε σ) :=
  w.perform engines (some .sender) id fun engine p s => p.connect engine slot interface endpoint s

/-- Takes down a slot of a peer. -/
def unlink (engines : ε → Engine σ) (w : Session ε σ) (id : PeerId) (slot : Slot) :
    Option (Outcome Unit × Session ε σ) :=
  w.perform engines none id fun engine p s => p.unlink engine slot s

/-- Reads a frame of a receiver. -/
def readFrame (engines : ε → Engine σ) (w : Session ε σ) (id : PeerId) (length : Option Nat) :
    Option (Outcome Frame × Session ε σ) :=
  w.perform engines (some .receiver) id fun engine p s =>
    let (outcome, s) := p.readFrame engine length s
    (outcome, p, s)

/-- Writes a frame of a sender. -/
def writeFrame (engines : ε → Engine σ) (w : Session ε σ) (id : PeerId) (frame : Option Frame) :
    Option (Outcome Unit × Session ε σ) :=
  w.perform engines (some .sender) id fun engine p s =>
    let (outcome, s) := p.writeFrame engine frame s
    (outcome, p, s)

/-- Closes a peer. -/
def closePeer (engines : ε → Engine σ) (w : Session ε σ) (id : PeerId) :
    Option (Outcome Unit × Session ε σ) :=
  w.perform engines none id fun engine p s => p.close engine s

/-! ## What can be asked -/

/-- Number of peers that are attached to the context of a peer. -/
def attachedWith (w : Session ε σ) (m : Member ε) : Nat :=
  ((w.contexts.get? m.context).map Context.attached).getD 0

end Session
end AudioLink
