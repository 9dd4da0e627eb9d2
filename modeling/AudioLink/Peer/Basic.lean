import AudioLink.Endpoint.Uri
import AudioLink.Engine.Outcome
import AudioLink.Peer.SlotTable

/-
Peers: senders and receivers, as the session layer sees them.

A peer is a handle of an engine, until it is closed, and a table of its slots. Every operation goes
the same way: the peer has to be open, the arguments have to be there and well formed, the slot has
to be usable, and only then is the engine asked. What the engine answers is noted in the table; an
answer that breaks the contract of the engine is not noted at all.
-/
set_option autoImplicit false

namespace AudioLink

/-- A sender or a receiver. -/
structure Peer where
  /-- Which of the two it is. -/
  kind : PeerKind
  /-- The handle of the engine; none once the peer is closed. -/
  handle : Option PeerHandle
  /-- What has been done with its slots. -/
  slots : SlotTable := .empty

namespace Peer

/-- Whether the peer is closed. -/
def isClosed (p : Peer) : Bool := p.handle.isNone

/-! ## Before the engine is asked -/

/-- The handle of an open peer. -/
def requireOpen (p : Peer) : Except Error PeerHandle :=
  match p.handle with
  | some h => .ok h
  | none => .error .peerClosed

/-- The handle for setting the options of an interface. -/
def admitConfigure (p : Peer) (slot : Slot) (interface : Interface) (config : InterfaceConfig) :
    Except Error PeerHandle := do
  let handle ← p.requireOpen
  config.validate
  p.slots.checkUsable slot interface
  return handle

/-- The handle and the endpoint for binding or connecting an interface. The endpoint has to have a
URI. -/
def admitLink (p : Peer) (slot : Slot) (interface : Interface) (endpoint : Option Endpoint) :
    Except Error (PeerHandle × Endpoint) := do
  let handle ← p.requireOpen
  let endpoint ←
    match endpoint with
    | some e => pure e
    | none => throw .endpointMissing
  match endpoint.compose with
  | .ok _ => pure ()
  | .error fault => throw fault.toError
  p.slots.checkUsable slot interface
  return (handle, endpoint)

/-- The handle for unlinking a slot, which has to be in use. -/
def admitUnlink (p : Peer) (slot : Slot) : Except Error PeerHandle := do
  let handle ← p.requireOpen
  if p.slots.contains slot then return handle else throw (.unknownSlot slot)

/-- The handle and the frame for reading or writing. -/
def admitFrame {α : Type} (p : Peer) (frame : Option α) : Except Error (PeerHandle × α) := do
  let handle ← p.requireOpen
  match frame with
  | some f => return (handle, f)
  | none => throw .frameMissing

/-! ## After the engine has answered -/

/-- The peer after a call on an interface: the interface has reached a state, or the slot is broken,
or nothing has changed because the contract was. -/
def note {α : Type} (p : Peer) (slot : Slot) (interface : Interface) (state : InterfaceState) :
    Outcome α → Peer
  | .ok _ => { p with slots := p.slots.reach slot interface state }
  | .failed _ => { p with slots := p.slots.spoil slot }
  | .breach _ _ => p

/-! ## Operations -/

variable {σ : Type}

/-- Sets the options of an interface. -/
def configure (engine : Engine σ) (p : Peer) (slot : Slot) (interface : Interface)
    (config : InterfaceConfig) (s : σ) : Outcome Unit × Peer × σ :=
  match p.admitConfigure slot interface config with
  | .error e => (.failed e, p, s)
  | .ok handle =>
    let (answer, s) := engine (.configure handle slot interface config) s
    let outcome := Outcome.ofAnswer .peerConfigure answer
    (outcome, p.note slot interface .configured outcome, s)

/-- Binds an interface to a local endpoint. A success yields the endpoint with the port that was
bound. -/
def bind (engine : Engine σ) (p : Peer) (slot : Slot) (interface : Interface)
    (endpoint : Option Endpoint) (s : σ) : Outcome Endpoint × Peer × σ :=
  match p.admitLink slot interface endpoint with
  | .error e => (.failed e, p, s)
  | .ok (handle, endpoint) =>
    let (answer, s) := engine (.bind handle slot interface endpoint) s
    let outcome := Outcome.ofAnswer .peerBind answer
    (outcome.map fun bound => { endpoint with port := bound.port },
      p.note slot interface .linked outcome, s)

/-- Connects an interface to a remote endpoint. -/
def connect (engine : Engine σ) (p : Peer) (slot : Slot) (interface : Interface)
    (endpoint : Option Endpoint) (s : σ) : Outcome Unit × Peer × σ :=
  match p.admitLink slot interface endpoint with
  | .error e => (.failed e, p, s)
  | .ok (handle, endpoint) =>
    let (answer, s) := engine (.connect handle slot interface endpoint) s
    let outcome := Outcome.ofAnswer .peerConnect answer
    (outcome, p.note slot interface .linked outcome, s)

/-- Takes down every interface of a slot and frees the slot. -/
def unlink (engine : Engine σ) (p : Peer) (slot : Slot) (s : σ) : Outcome Unit × Peer × σ :=
  match p.admitUnlink slot with
  | .error e => (.failed e, p, s)
  | .ok handle =>
    let (answer, s) := engine (.unlink handle slot) s
    match Outcome.ofAnswer .peerUnlink answer with
    | .ok () => (.ok (), { p with slots := p.slots.erase slot }, s)
    | outcome => (outcome, p, s)

/-- Reads a frame of a given length. An empty frame is read without asking the engine. -/
def readFrame (engine : Engine σ) (p : Peer) (length : Option Nat) (s : σ) : Outcome Frame × σ :=
  match p.admitFrame length with
  | .error e => (.failed e, s)
  | .ok (handle, length) =>
    if length = 0 then (.ok [], s)
    -- What is asked for is never empty from here on.
    else
      let (answer, s) := engine (.read handle length) s
      (Outcome.ofAnswer .frameRead answer, s)

/-- Writes a frame. An empty frame is written without asking the engine. -/
def writeFrame (engine : Engine σ) (p : Peer) (frame : Option Frame) (s : σ) : Outcome Unit × σ :=
  match p.admitFrame frame with
  | .error e => (.failed e, s)
  | .ok (handle, frame) =>
    if frame = [] then (.ok (), s)
    else
      let (answer, s) := engine (.write handle frame) s
      (Outcome.ofAnswer .frameWrite answer, s)

/-- Closes the peer and forgets its slots; closing it again does nothing. -/
def close (engine : Engine σ) (p : Peer) (s : σ) : Outcome Unit × Peer × σ :=
  match p.handle with
  | none => (.ok (), p, s)
  | some handle =>
    let (answer, s) := engine (.peerClose handle) s
    match Outcome.ofAnswer .peerClose answer with
    | .ok () => (.ok (), { p with handle := none, slots := .empty }, s)
    | outcome => (outcome, p, s)

/-- Closes the peer when nobody holds it any more. A failure, of whatever code, is passed over. -/
def dispose (engine : Engine σ) (p : Peer) (s : σ) : Peer × σ :=
  match p.handle with
  | none => (p, s)
  | some handle =>
    -- A breach is passed over as well: nobody is left to be told of it.
    match engine (.peerClose handle) s with
    | (.ok (), s) => ({ p with handle := none, slots := .empty }, s)
    | (.error _, s) => (p, s)

/-! ## What is shown -/

/-- The form in which a peer is shown for debugging. -/
def debugText (p : Peer) : String :=
  let name := match p.kind with
    | .sender => "Sender"
    | .receiver => "Receiver"
  let closed := if p.isClosed then "true" else "false"
  let slots := ", ".intercalate (p.slots.keys.map fun slot =>
    "Slot(" ++ toString slot.index.toNat ++ ")")
  name ++ " \x7b core: PeerCore \x7b kind: " ++ Quoted.text (Labelled.label p.kind)
    ++ ", closed: " ++ closed ++ ", slots: [" ++ slots ++ "] \x7d \x7d"

end Peer
end AudioLink
