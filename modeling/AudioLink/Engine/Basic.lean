import AudioLink.Config.Interface
import AudioLink.Config.Peer
import AudioLink.Endpoint.Basic
import AudioLink.Engine.Code
import AudioLink.Frame
import AudioLink.Table

/-
Engines: what does the audio work behind the session layer.

An engine is asked one request at a time and answers with a value or a failure code; the type of the
value depends on the request. It is a function on a state of its own, which the session layer never
looks into. Nothing is assumed about the answers of an engine, so whatever is proved of the session
layer over an arbitrary engine holds of every engine.
-/
set_option autoImplicit false

namespace AudioLink

/-! ## Handles -/

/-- A token for a context of an engine. -/
structure ContextHandle where
  /-- The number that the engine chose. -/
  raw : UInt64
  deriving DecidableEq, Repr

/-- A token for a peer of an engine. -/
structure PeerHandle where
  /-- The number that the engine chose. -/
  raw : UInt64
  deriving DecidableEq, Repr

instance : Ranked ContextHandle where
  rank h := h.raw.toNat
  rank_inj {a b} h := by
    cases a; cases b
    simpa using UInt64.toNat_inj.1 h

instance : Ranked PeerHandle where
  rank h := h.raw.toNat
  rank_inj {a b} h := by
    cases a; cases b
    simpa using UInt64.toNat_inj.1 h

/-! ## Requests -/

/-- What an engine can be asked to do. -/
inductive Request where
  | contextOpen (config : ContextConfig)
  | registerEncoding (context : ContextHandle) (id : Int32) (encoding : MediaEncoding)
  /-- Close a context; refused while peers are attached to it. -/
  | contextClose (context : ContextHandle)
  /-- Open a peer and attach it to a context. -/
  | peerOpen (context : ContextHandle) (config : PeerConfig)
  | configure (peer : PeerHandle) (slot : Slot) (interface : Interface) (config : InterfaceConfig)
  | bind (peer : PeerHandle) (slot : Slot) (interface : Interface) (endpoint : Endpoint)
  | connect (peer : PeerHandle) (slot : Slot) (interface : Interface) (endpoint : Endpoint)
  /-- Take down all interfaces of a slot. -/
  | unlink (peer : PeerHandle) (slot : Slot)
  /-- Close a peer and detach it from its context. -/
  | peerClose (peer : PeerHandle)
  /-- Fill a frame of a given length with received samples. -/
  | read (peer : PeerHandle) (length : Nat)
  /-- Take a frame of samples to send. -/
  | write (peer : PeerHandle) (frame : Frame)
  deriving DecidableEq

namespace Request

/-- The call that a request makes. -/
def call : Request → EngineCall
  | contextOpen _ => .contextOpen
  | registerEncoding _ _ _ => .contextRegisterEncoding
  | contextClose _ => .contextClose
  | peerOpen _ _ => .peerOpen
  | configure _ _ _ _ => .peerConfigure
  | bind _ _ _ _ => .peerBind
  | connect _ _ _ _ => .peerConnect
  | unlink _ _ => .peerUnlink
  | peerClose _ => .peerClose
  | read _ _ => .frameRead
  | write _ _ => .frameWrite

/-- What a successful answer to a request carries: a handle for what was opened, the endpoint that
was bound, the samples that were read, and nothing otherwise. -/
@[reducible] def Response : Request → Type
  | contextOpen _ => ContextHandle
  | peerOpen _ _ => PeerHandle
  | bind _ _ _ _ => Endpoint
  | read _ _ => Frame
  | _ => Unit

end Request

/-! ## Engines -/

/-- The answer of an engine: a value or a failure code. -/
abbrev Answer (α : Type) := Except EngineCode α

/-- An engine with a state of its own. -/
abbrev Engine (σ : Type) := (r : Request) → σ → Answer r.Response × σ

/-- An engine whose state is a part of a larger one. -/
def Engine.lift {σ τ : Type} (get : τ → σ) (put : σ → τ → τ) (engine : Engine σ) : Engine τ :=
  fun r t =>
    let (answer, s) := engine r (get t)
    (answer, put s t)

/-- The failure code of an answer, if it is one. -/
def Answer.failure? {α : Type} : Answer α → Option EngineCode
  | .ok _ => none
  | .error code => some code

end AudioLink
