import AudioLink.Endpoint.Basic
import AudioLink.Error
import AudioLink.Text.Quoted
import AudioLink.Url.Parser

/-
Endpoints as URIs: `protocol://host[:port][/path][?query]`.

Reading a URI is strict. The text has to be a URL, and has to be the very text that this URL is
written as, so that nothing is repaired silently; then the URL has to name a known protocol and a
host, and has to have no user information and no fragment. Composing puts the fields together and
reads the result back: a URI is given only for an endpoint that it is read as.
-/
set_option autoImplicit false

namespace AudioLink

/-! ## Faults -/

/-- Why a text is no URI of an endpoint, or an endpoint has no URI. -/
inductive UriFault where
  /-- A text holds a zero byte. -/
  | zeroByte (field : TextField)
  | empty
  /-- The text is no URL. -/
  | url (fault : UrlFault)
  /-- The text is a URL that is written differently. -/
  | notCanonical (canonical : String)
  /-- No slash stands behind the scheme. -/
  | noSeparator
  | userInfo
  | fragment
  /-- The scheme is none of a protocol. -/
  | unknownScheme (scheme : String)
  | missingHost
  /-- The protocol has no usual port and none is given. -/
  | portRequired (protocol : Protocol)
  /-- The protocol has no resource and one is given. -/
  | resourceNotAllowed (protocol : Protocol)
  /-- The resource has no path, an empty or doubled query, or a broken escape. -/
  | invalidResource (resource : String)
  | protocolNotSet
  /-- The port is neither a port number nor the value for the usual port. -/
  | portOutOfRange (port : Int32)
  /-- The fields, put together, are read as other fields. -/
  | notRebuilt (uri : String)
  deriving DecidableEq, Repr

namespace UriFault

/-- The error of the session layer for a fault. -/
def toError : UriFault → Error
  | zeroByte field => .zeroByte field
  | empty => .malformedUri "empty uri"
  | url fault => .malformedUri fault.message
  | notCanonical canonical =>
    .malformedUri ("uri is not canonical, expected " ++ Quoted.text canonical)
  | noSeparator => .malformedUri "missing scheme separator"
  | userInfo => .malformedUri "user info is not allowed"
  | fragment => .malformedUri "fragment is not allowed"
  | unknownScheme scheme => .malformedUri ("unknown scheme " ++ Quoted.text scheme)
  | missingHost => .malformedUri "missing host"
  | portRequired protocol =>
    .malformedUri ("protocol " ++ protocol.scheme ++ " has no default port, port is required")
  | resourceNotAllowed protocol =>
    .malformedUri ("protocol " ++ protocol.scheme ++ " does not allow a resource")
  | invalidResource resource => .malformedUri ("invalid resource " ++ Quoted.text resource)
  | protocolNotSet => .malformedUri "protocol is not set"
  | portOutOfRange port => .malformedUri ("port " ++ toString port.toInt ++ " out of range")
  | notRebuilt uri =>
    .malformedUri ("endpoint does not compose to a canonical uri: " ++ Quoted.text uri)

end UriFault

/-- The protocol with the given scheme, or the fault that there is none. -/
def Protocol.parse (scheme : String) : Except UriFault Protocol :=
  match ofScheme? scheme with
  | some p => .ok p
  | none => .error (.unknownScheme scheme)

namespace Endpoint

/-- Whether a text holds a zero byte. -/
def hasZeroByte (text : List Char) : Bool := text.contains '\x00'

/-! ## Reading -/

/-- Whether a resource has a path that begins with a slash, at most one query, which is not empty,
and only complete escapes. -/
def isValidResource (resource : List Char) : Bool :=
  let (path, query) := resource.span (· ≠ '?')
  path.head? = some '/'
    && (match query with
      | [] => true
      | _ :: q => q != [] && !q.contains '?')
    && Percent.escapesComplete resource

/-- The endpoint of a URL that is written as it should be. -/
def ofUrl (url : Url) : Except UriFault Endpoint := do
  if url.cannotBeBase then throw .noSeparator
  if url.hasUserInfo then throw .userInfo
  if url.fragment.isSome then throw .fragment
  let protocol ← Protocol.parse (String.ofList url.scheme)
  -- Having no authority and having an empty host are the same fault.
  let host := url.host.getD []
  if host = [] then throw .missingHost
  let port ←
    match url.port with
    | some n => pure (Int32.ofNat n)
    | none =>
      if protocol.defaultPort?.isNone then throw (.portRequired protocol) else pure portUnspecified
  let resource := url.resource
  if resource ≠ [] then
    if protocol.supportsResource = false then throw (.resourceNotAllowed protocol)
    if isValidResource resource = false then throw (.invalidResource (String.ofList resource))
  return {
    protocol := some protocol, host := String.ofList host, port
    resource := String.ofList resource }

/-- Reads the URI of an endpoint. -/
def parse (uri : String) : Except UriFault Endpoint :=
  let text := uri.toList
  if hasZeroByte text then .error (.zeroByte .uri)
  else if text = [] then .error .empty
  else
    match Url.parse text with
    | .error fault => .error (.url fault)
    | .ok url =>
      if url.text ≠ text then .error (.notCanonical (String.ofList url.text)) else ofUrl url

/-! ## Writing -/

/-- The port as it stands in a URI. -/
def portText (protocol : Protocol) (port : Int32) : Except UriFault (List Char) :=
  if port = portUnspecified then
    if protocol.defaultPort?.isNone then .error (.portRequired protocol) else .ok []
  else if isPortNumber port then .ok (':' :: Digits.decimal port.toInt.toNat)
  else .error (.portOutOfRange port)

/-- The fields put together, if each of them may be used at all. -/
def assemble (e : Endpoint) : Except UriFault (List Char) := do
  let protocol ←
    match e.protocol with
    | some p => pure p
    | none => throw .protocolNotSet
  if hasZeroByte e.host.toList then throw (.zeroByte .host)
  if hasZeroByte e.resource.toList then throw (.zeroByte .resource)
  if e.host = "" then throw .missingHost
  let port ← portText protocol e.port
  if e.resource ≠ "" ∧ protocol.supportsResource = false then
    throw (.resourceNotAllowed protocol)
  return protocol.scheme.toList ++ "://".toList ++ e.host.toList ++ port ++ e.resource.toList

/-- The URI of an endpoint: the fields put together, provided that they are read back. -/
def compose (e : Endpoint) : Except UriFault String := do
  let uri := String.ofList (← assemble e)
  -- A host or a resource may hold delimiters; whether it does shows in what is read back.
  let back ← parse uri
  if back = e then return uri else throw (.notRebuilt uri)

/-- What is shown for an endpoint: its URI, or its fields if it has none. -/
def text (e : Endpoint) : String :=
  match e.compose with
  | .ok uri => uri
  | .error _ =>
    let protocol :=
      match e.protocol with
      | some p => "Some(" ++ p.debugName ++ ")"
      | none => "None"
    "<invalid endpoint " ++ protocol ++ " " ++ Quoted.text e.host ++ " "
      ++ toString e.port.toInt ++ " " ++ Quoted.text e.resource ++ ">"

end Endpoint
end AudioLink
