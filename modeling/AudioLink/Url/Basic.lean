import AudioLink.Text.Digits

/-
URLs as the URL standard has them: a record of encoded components, its text, and the reasons for
which a text is no URL.

The components are kept in their encoded form, as lists of characters, so the text of a URL is
nothing but the components with their delimiters between them. A URL without an authority has no
host; a URL with an empty authority has the empty host. In place of a path of segments a URL
without authority may have one opaque text that does not begin with a slash.
-/
set_option autoImplicit false

namespace AudioLink

/-- Why a text is no URL. -/
inductive UrlFault where
  /-- There is no scheme in front. -/
  | relative
  /-- An authority with user information or a port, or of a special scheme, has no host. -/
  | emptyHost
  /-- The port is no number below 65536. -/
  | invalidPort
  /-- The host is written in brackets and is no IPv6 address. -/
  | invalidIpv6
  /-- The host of a special scheme ends in a number and is no IPv4 address. -/
  | invalidIpv4
  /-- The host holds a character that no host may hold. -/
  | invalidDomainCharacter
  /-- The host of a special scheme is no domain name. -/
  | invalidDomain
  deriving DecidableEq, Repr

/-- The wording of a fault. -/
def UrlFault.message : UrlFault → String
  | relative => "relative URL without a base"
  | emptyHost => "empty host"
  | invalidPort => "invalid port number"
  | invalidIpv6 => "invalid IPv6 address"
  | invalidIpv4 => "invalid IPv4 address"
  | invalidDomainCharacter => "invalid domain character"
  | invalidDomain => "invalid international domain name"

/-! ## Schemes -/

/-- The kinds of schemes that the URL standard tells apart. -/
inductive SchemeKind where
  /-- A web scheme, with the port that its URLs leave out. -/
  | special (defaultPort : Nat)
  /-- The scheme of files. -/
  | file
  /-- Any other scheme. -/
  | other
  deriving DecidableEq, Repr

namespace SchemeKind

/-- The kind of a scheme, given in lower case. -/
def ofScheme (scheme : List Char) : SchemeKind :=
  if scheme = "http".toList ∨ scheme = "ws".toList then special 80
  else if scheme = "https".toList ∨ scheme = "wss".toList then special 443
  else if scheme = "ftp".toList then special 21
  else if scheme = "file".toList then file
  else other

/-- Whether a backslash counts as a slash, and an authority is always present. -/
def isSpecial : SchemeKind → Bool
  | other => false
  | _ => true

/-- The port that URLs of this kind leave out. -/
def defaultPort? : SchemeKind → Option Nat
  | special port => some port
  | _ => none

end SchemeKind

/-! ## URLs -/

/-- A URL, as its encoded components. -/
structure Url where
  /-- The scheme, in lower case. -/
  scheme : List Char
  /-- The user name, empty if there is none. -/
  user : List Char := []
  /-- The password, if there is one. -/
  password : Option (List Char) := none
  /-- The host, which is absent if there is no authority. -/
  host : Option (List Char) := none
  /-- The port, if it is written. -/
  port : Option Nat := none
  /-- The path with its slashes, or the opaque text in place of one. -/
  path : List Char := []
  /-- What stands behind the question mark. -/
  query : Option (List Char) := none
  /-- What stands behind the number sign. -/
  fragment : Option (List Char) := none
  deriving DecidableEq, Repr

namespace Url

/-- User name and password as they stand in front of the host. -/
def userInfoText (url : Url) : List Char :=
  match url.password with
  | some pw => url.user ++ ':' :: pw ++ ['@']
  | none => if url.user = [] then [] else url.user ++ ['@']

/-- The port as it stands behind the host. -/
def portText (url : Url) : List Char :=
  match url.port with
  | some n => ':' :: Digits.decimal n
  | none => []

/-- What stands between the scheme and the path. Without an authority, a path that begins with two
slashes is set off by `/.`, since the slashes would be taken for an authority otherwise. -/
def authorityText (url : Url) : List Char :=
  match url.host with
  | some host => ['/', '/'] ++ url.userInfoText ++ host ++ url.portText
  | none =>
    match url.path with
    | '/' :: '/' :: _ => ['/', '.']
    | _ => []

/-- A component with its delimiter in front, or nothing. -/
def optional (mark : Char) : Option (List Char) → List Char
  | some cs => mark :: cs
  | none => []

/-- The text of a URL. -/
def text (url : Url) : List Char :=
  url.scheme ++ ':' :: url.authorityText ++ url.path ++ optional '?' url.query
    ++ optional '#' url.fragment

/-- Whether the path is an opaque text, which nothing can be resolved against. -/
def cannotBeBase (url : Url) : Bool := url.host.isNone && url.path.head? != some '/'

/-- Whether a user name or a password is given. -/
def hasUserInfo (url : Url) : Bool := url.user != [] || url.password.isSome

/-- The path with its query: what a server is asked for. -/
def resource (url : Url) : List Char := url.path ++ optional '?' url.query

end Url
end AudioLink
