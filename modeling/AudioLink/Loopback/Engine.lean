import AudioLink.Loopback.Linking
import AudioLink.Loopback.Opening
import AudioLink.Loopback.Transfer

/-
The loopback engine: peers that exchange samples as datagrams.

A call on a handle that is not in use is refused before anything else is looked at, and a refused
call changes nothing but the slot that it was about: once an operation on a slot has failed the slot
is broken, and stays so until it is unlinked.
-/
set_option autoImplicit false

namespace AudioLink.Loopback

/-- The engine and the machine that it runs on. -/
structure Site where
  state : State := {}
  machine : Machine

namespace Site

/-- Answers with a refusal and changes nothing. -/
def refuse {α : Type} (site : Site) (code : EngineCode) : Answer α × Site := (.error code, site)

/-! ## Contexts -/

/-- Opens a context. -/
def openContext (site : Site) (config : ContextConfig) : Answer ContextHandle × Site :=
  if config.isValid = false then site.refuse .invalidArgument
  else
    let handle : ContextHandle := ⟨site.state.nextId⟩
    (.ok handle, { site with state := { site.state with
      nextId := site.state.nextId + 1
      contexts := site.state.contexts.insert handle { packetSize := config.packetSize } } })

/-- Registers a packet encoding on a context. -/
def registerEncoding (site : Site) (handle : ContextHandle) (id : Int32)
    (encoding : MediaEncoding) : Answer Unit × Site :=
  match site.state.contexts.get? handle with
  | none => site.refuse .notFound
  | some c =>
    if id < PacketEncoding.minId ∨ PacketEncoding.maxId < id ∨ encoding.isValid = false then
      site.refuse .invalidArgument
    else
      (.ok (), { site with state := { site.state with
        contexts := site.state.contexts.insert handle
          { c with encodings := c.encodings.insert id encoding } } })

/-- Closes a context that has no peers. -/
def closeContext (site : Site) (handle : ContextHandle) : Answer Unit × Site :=
  match site.state.contexts.get? handle with
  | none => site.refuse .notFound
  | some c =>
    if 0 < c.peers then site.refuse .busy
    else
      (.ok (), { site with state := { site.state with
        contexts := site.state.contexts.erase handle } })

/-! ## Peers -/

/-- Opens a peer on a context. -/
def openPeer (site : Site) (handle : ContextHandle) (config : PeerConfig) :
    Answer PeerHandle × Site :=
  match site.state.contexts.get? handle with
  | none => site.refuse .notFound
  | some c =>
    if config.frameEncoding.isValid = false then site.refuse .invalidArgument
    else
      -- The number is used up only if the peer is opened, whatever kind of peer it is.
      let (stream, machine) := site.machine.draw
      match flow? c stream config with
      | none => site.refuse .invalidArgument
      | some flow =>
        let peer : PeerHandle := ⟨site.state.nextId⟩
        (.ok peer, { machine, state := {
          nextId := site.state.nextId + 1
          contexts := site.state.contexts.insert handle { c with peers := c.peers + 1 }
          peers := site.state.peers.insert peer
            { context := handle, channels := config.frameEncoding.channelCount
              pacer := pacer? config, flow } } })

/-- Puts a peer in the place of what was there. -/
def setPeer (site : Site) (handle : PeerHandle) (p : PeerState) : Site :=
  { site with state := { site.state with peers := site.state.peers.insert handle p } }

/-- Closes a peer and its sockets, and detaches it from its context. -/
def closePeer (site : Site) (handle : PeerHandle) : Answer Unit × Site :=
  match site.state.peers.get? handle with
  | none => site.refuse .notFound
  | some p =>
    (.ok (), {
      machine := { site.machine with network := site.machine.network.closeAll p.sockets }
      state := { site.state with
        peers := site.state.peers.erase handle
        contexts := site.state.contexts.modify p.context fun c =>
          { c with peers := c.peers - 1 } } })

/-! ## Slots -/

/-- Puts a slot of a peer in the place of what was there. -/
def setSlot (site : Site) (handle : PeerHandle) (p : PeerState) (slot : Slot) (s : SlotState) :
    Site :=
  site.setPeer handle (p.setSlot slot s)

/-- Sets the options of an interface. -/
def configure (site : Site) (handle : PeerHandle) (slot : Slot) (interface : Interface)
    (config : InterfaceConfig) : Answer Unit × Site :=
  match site.state.peers.get? handle with
  | none => site.refuse .notFound
  | some p =>
    let s := p.slot slot
    -- A broken slot stays as it is: only unlinking mends it.
    if s.broken then site.refuse .invalidArgument
    else if (s.links.get? interface).isSome ∨ hasAddresses config = false then
      (.error .invalidArgument, site.setSlot handle p slot s.spoil)
    else
      (.ok (), site.setSlot handle p slot { s with configs := s.configs.set interface config })

/-- Binds an interface of a receiver. -/
def bind (site : Site) (handle : PeerHandle) (slot : Slot) (interface : Interface)
    (endpoint : Endpoint) : Answer Endpoint × Site :=
  match site.state.peers.get? handle with
  | none => site.refuse .notFound
  | some p =>
    match p.flow with
    | .sending _ _ _ => site.refuse .unsupported
    | .receiving _ =>
      let s := p.slot slot
      if s.broken then site.refuse .invalidArgument
      else
        match bindLink site.machine s interface endpoint with
        | .error code => (.error code, site.setSlot handle p slot s.spoil)
        | .ok ((bound, socket), machine) =>
          (.ok bound, { site with machine }.setSlot handle p slot
            { s with links := s.links.set interface (.bound socket) })

/-- Connects an interface of a sender. -/
def connect (site : Site) (handle : PeerHandle) (slot : Slot) (interface : Interface)
    (endpoint : Endpoint) : Answer Unit × Site :=
  match site.state.peers.get? handle with
  | none => site.refuse .notFound
  | some p =>
    match p.flow with
    | .receiving _ => site.refuse .unsupported
    | .sending fec _ _ =>
      let s := p.slot slot
      if s.broken then site.refuse .invalidArgument
      else
        match connectLink site.machine fec s interface endpoint with
        | .error code => (.error code, site.setSlot handle p slot s.spoil)
        | .ok (socket, machine) =>
          (.ok (), { site with machine }.setSlot handle p slot
            { s with links := s.links.set interface (.connected socket) })

/-- Takes down a slot with its sockets. What was sent to them before is received. -/
def unlink (site : Site) (handle : PeerHandle) (slot : Slot) : Answer Unit × Site :=
  match site.state.peers.get? handle with
  | none => site.refuse .notFound
  | some p =>
    match p.slots.get? slot with
    | none => site.refuse .notFound
    | some s =>
      -- A closed socket loses what waits for it, so the datagrams are taken first.
      let (flow, machine) := collectFlow site.machine p
      let machine := { machine with network := machine.network.closeAll s.sockets }
      (.ok (), { site with machine }.setPeer handle
        { p with slots := p.slots.erase slot, flow := flow.forget slot })

/-! ## Frames -/

/-- Reads a frame of a receiver. -/
def read (site : Site) (handle : PeerHandle) (length : Nat) : Answer Frame × Site :=
  match site.state.peers.get? handle with
  | none => site.refuse .notFound
  | some p =>
    if length % p.channels ≠ 0 then site.refuse .invalidArgument
    else
      match p.flow with
      | .sending _ _ _ => site.refuse .unsupported
      | .receiving playout =>
        let (pacer, machine) := pace site.machine p.pacer length
        let (playout, machine) := collect machine p playout
        let (frame, playout) := playout.fill length
        (.ok frame, { site with machine }.setPeer handle
          { p with pacer, flow := .receiving playout })

/-- Writes a frame of a sender. -/
def write (site : Site) (handle : PeerHandle) (frame : Frame) : Answer Unit × Site :=
  match site.state.peers.get? handle with
  | none => site.refuse .notFound
  | some p =>
    if frame.length % p.channels ≠ 0 then site.refuse .invalidArgument
    else
      match p.flow with
      | .receiving _ => site.refuse .unsupported
      | .sending fec stream packetizer =>
        let (pacer, machine) := pace site.machine p.pacer frame.length
        let (pieces, packetizer) := packetizer.push frame
        let machine := transmit machine (pieces.flatMap (datagramsOf p.slots fec stream))
        (.ok (), { site with machine }.setPeer handle
          { p with pacer, flow := .sending fec stream packetizer })

/-- Receives what was sent to a peer so far. -/
def settle (site : Site) (handle : PeerHandle) : Site :=
  match site.state.peers.get? handle with
  | none => site
  | some p =>
    let (flow, machine) := collectFlow site.machine p
    { site with machine }.setPeer handle { p with flow }

end Site

/-! ## The engine -/

/-- The loopback engine. -/
def engine : Engine Site := fun r site =>
  match r with
  | .contextOpen config => site.openContext config
  | .registerEncoding c id encoding => site.registerEncoding c id encoding
  | .contextClose c => site.closeContext c
  | .peerOpen c config => site.openPeer c config
  | .configure p slot interface config => site.configure p slot interface config
  | .bind p slot interface endpoint => site.bind p slot interface endpoint
  | .connect p slot interface endpoint => site.connect p slot interface endpoint
  | .unlink p slot => site.unlink p slot
  | .peerClose p => site.closePeer p
  | .read p length => site.read p length
  | .write p frame => site.write p frame

end AudioLink.Loopback
