/-
What crosses the engine boundary besides data: the names of the calls and the failure codes.

The contract of an engine is that a failure has a negative code. The codes named here are those
that the built-in engine uses; an engine may have others.
-/
set_option autoImplicit false

namespace AudioLink

/-- The calls that an engine answers. -/
inductive EngineCall where
  | contextOpen
  | contextRegisterEncoding
  | contextClose
  | peerOpen
  | peerConfigure
  | peerBind
  | peerConnect
  /-- Take down all interfaces of a slot. -/
  | peerUnlink
  | peerClose
  /-- Fill a frame with received samples. -/
  | frameRead
  /-- Take a frame of samples to send. -/
  | frameWrite
  deriving DecidableEq, Repr

namespace EngineCall

/-- Every call. -/
def all : List EngineCall :=
  [contextOpen, contextRegisterEncoding, contextClose, peerOpen, peerConfigure, peerBind,
    peerConnect, peerUnlink, peerClose, frameRead, frameWrite]

/-- The name of a call, as messages have it. -/
def name : EngineCall → String
  | contextOpen => "context_open"
  | contextRegisterEncoding => "context_register_encoding"
  | contextClose => "context_close"
  | peerOpen => "peer_open"
  | peerConfigure => "peer_configure"
  | peerBind => "peer_bind"
  | peerConnect => "peer_connect"
  | peerUnlink => "peer_unlink"
  | peerClose => "peer_close"
  | frameRead => "frame_read"
  | frameWrite => "frame_write"

/-- The call with the given name. -/
def ofName? (name : String) : Option EngineCall := all.find? (·.name = name)

end EngineCall

/-- Failure code of an engine call. -/
structure EngineCode where
  /-- The code as a number. -/
  code : Int32
  deriving DecidableEq, Repr

namespace EngineCode

/-- An argument was refused. -/
def invalidArgument : EngineCode := ⟨-1⟩

/-- The operation or the protocol is not provided. -/
def unsupported : EngineCode := ⟨-2⟩

/-- An address could not be resolved, bound or connected. -/
def addressUnavailable : EngineCode := ⟨-3⟩

/-- The resource is still in use. -/
def busy : EngineCode := ⟨-4⟩

/-- The handle or slot is not known. -/
def notFound : EngineCode := ⟨-5⟩

/-- Whether the code keeps the contract. -/
def isNegative (c : EngineCode) : Bool := c.code < 0

/-- The displayed form. -/
def text (c : EngineCode) : String := "engine code " ++ toString c.code.toInt

end EngineCode
end AudioLink
