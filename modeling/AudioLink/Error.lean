import AudioLink.Engine.Code
import AudioLink.Interface

/-
The errors that a caller of the session layer can see.

They are grouped the way callers handle them: misuse of an operation, closed objects, bookkeeping
of slots, refusals by the engine, and loading of configurations. A caller decides by the
constructor; `message` is only what is shown.
-/
set_option autoImplicit false

namespace AudioLink

/-- The texts that are handed on to an engine, or are read as a URI. -/
inductive TextField where
  | uri
  | host
  | resource
  | outgoingAddress
  | multicastGroup
  deriving DecidableEq, Repr

namespace TextField

/-- Every field. -/
def all : List TextField := [uri, host, resource, outgoingAddress, multicastGroup]

/-- The name of a field, as messages have it. -/
def name : TextField → String
  | uri => "uri"
  | host => "host"
  | resource => "resource"
  | outgoingAddress => "outgoing_address"
  | multicastGroup => "multicast_group"

/-- The field with the given name. -/
def ofName? (name : String) : Option TextField := all.find? (·.name = name)

end TextField

/-- Why a file operation failed. -/
inductive FileFault where
  | notFound
  | permissionDenied
  | alreadyExists
  /-- A directory is there. -/
  | isADirectory
  /-- A file stands where a directory is needed. -/
  | notADirectory
  /-- The contents are no text. -/
  | invalidData
  | other
  deriving DecidableEq, Repr

/-- The name of a reason. -/
def FileFault.name : FileFault → String
  | notFound => "NotFound"
  | permissionDenied => "PermissionDenied"
  | alreadyExists => "AlreadyExists"
  | isADirectory => "IsADirectory"
  | notADirectory => "NotADirectory"
  | invalidData => "InvalidData"
  | other => "Other"

/-- An error of the session layer. -/
inductive Error where
  | contextMissing
  | endpointMissing
  | frameMissing
  /-- A text is no URI of an endpoint, or an endpoint has no URI. -/
  | malformedUri (reason : String)
  /-- A text holds a zero byte, which would cut it short for an engine. -/
  | zeroByte (field : TextField)
  /-- A text has more bytes than an engine takes. -/
  | tooLong (field : TextField) (length limit : Nat)
  /-- A configuration was refused. -/
  | invalidConfig (reason : String)
  | contextClosed
  | peerClosed
  /-- Peers are still attached to the context. -/
  | resourceBusy (attached : Nat)
  /-- The slot has not been used since it was last unlinked. -/
  | unknownSlot (slot : Slot)
  /-- An earlier operation on the slot failed. -/
  | slotBroken (slot : Slot)
  /-- The interface of the slot is in use. -/
  | interfaceLinked (slot : Slot) (interface : Interface)
  /-- The slot is used by interfaces that exclude this one. -/
  | interfaceConflict (slot : Slot) (interface : Interface)
  /-- The engine refused a call. -/
  | engine (call : EngineCall) (code : EngineCode)
  /-- The configuration could not be found or applied. -/
  | config (reason : String)
  /-- A session text could not be read or written. -/
  | toml (reason : String)
  /-- A file operation failed. -/
  | file (fault : FileFault) (message : String)
  deriving DecidableEq, Repr

namespace Error

/-- The name of the kind of an error. -/
def kind : Error → String
  | contextMissing => "ContextNil"
  | endpointMissing => "EndpointNil"
  | frameMissing => "FrameNil"
  | malformedUri _ => "MalformedUri"
  | zeroByte _ => "InvalidString"
  | tooLong _ _ _ => "StringTooLong"
  | invalidConfig _ => "InvalidConfig"
  | contextClosed => "ContextClosed"
  | peerClosed => "PeerClosed"
  | resourceBusy _ => "ResourceBusy"
  | unknownSlot _ => "UnknownSlot"
  | slotBroken _ => "SlotBroken"
  | interfaceLinked _ _ => "InterfaceLinked"
  | interfaceConflict _ _ => "InterfaceConflict"
  | engine _ _ => "Engine"
  | config _ => "Config"
  | toml _ => "Toml"
  | file _ _ => "Io"

/-- What is shown for an error. -/
def message : Error → String
  | contextMissing => "context is nil"
  | endpointMissing => "endpoint is nil"
  | frameMissing => "frame is nil"
  | malformedUri reason => "malformed uri: " ++ reason
  | zeroByte field => "invalid " ++ field.name ++ ": unexpected zero byte in the string"
  | tooLong field length limit =>
    "invalid " ++ field.name ++ ": too long (" ++ toString length ++ " bytes, max "
      ++ toString limit ++ ")"
  | invalidConfig reason => "invalid configuration: " ++ reason
  | contextClosed => "context is closed"
  | peerClosed => "peer is closed"
  | resourceBusy attached =>
    "context is busy: " ++ toString attached ++ " peer(s) still attached"
  | unknownSlot slot => "unknown slot: " ++ slot.text
  | slotBroken slot => "slot " ++ slot.text ++ " is broken and must be unlinked before reuse"
  | interfaceLinked slot interface =>
    "interface " ++ interface.name ++ " of slot " ++ slot.text ++ " is already bound or connected"
  | interfaceConflict slot interface =>
    "interface " ++ interface.name ++ " conflicts with interfaces already used on slot "
      ++ slot.text
  | engine call code => call.name ++ " failed with code " ++ toString code.code.toInt
  | config reason => "configuration error: " ++ reason
  | toml reason => "toml error: " ++ reason
  | file _ message => "IO error: " ++ message

/-- Whether the error comes from using a closed object. -/
def isClosed : Error → Bool
  | contextClosed | peerClosed => true
  | _ => false

/-- The code of the engine, if the error is a refusal by it. -/
def engineCode? : Error → Option EngineCode
  | engine _ code => some code
  | _ => none

end Error
end AudioLink
