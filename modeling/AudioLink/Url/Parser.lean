import AudioLink.Url.Basic
import AudioLink.Url.Host
import AudioLink.Url.Path

/-
Reading a URL from a text, as the URL standard does without a base URL.

Controls and spaces around the text are left out, and so are tabs and line ends anywhere in it.
What remains is cut from the left: a scheme, an authority behind two slashes, a path, a query and a
fragment. Each component is encoded on its own, so the text of the result can differ from the text
that was read; the two are equal exactly if that text was already in canonical form.
-/
set_option autoImplicit false

namespace AudioLink.Url

/-! ## Scheme -/

/-- Leaves out the controls and spaces around a text. -/
def trim (cs : List Char) : List Char :=
  let blank : Char → Bool := fun c => c.toNat ≤ 32
  ((cs.dropWhile blank).reverse.dropWhile blank).reverse

/-- Whether `c` may stand in a scheme behind its first letter. -/
def isSchemeChar (c : Char) : Bool := c.isAlphanum || c = '+' || c = '-' || c = '.'

/-- The scheme in lower case, and what stands behind the colon. -/
def splitScheme? (cs : List Char) : Option (List Char × List Char) :=
  match cs.span isSchemeChar with
  | (scheme, ':' :: rest) =>
    if scheme.head?.any Char.isAlpha then some (scheme.map Char.toLower, rest) else none
  | _ => none

/-! ## Authority -/

/-- Whether `c` ends an authority. -/
def endsAuthority (special : Bool) (c : Char) : Bool :=
  c = '/' || c = '?' || c = '#' || (special && c = '\\')

/-- What stands before the last at sign of an authority, and what stands behind it. -/
def splitUserInfo? (special : Bool) (cs : List Char) : Option (List Char × List Char) :=
  let authority := cs.takeWhile fun c => !endsAuthority special c
  -- An earlier at sign belongs to the password, so the search runs from the end.
  match authority.reverse.dropWhile (· ≠ '@') with
  | _ :: before => some (before.reverse, cs.drop (before.length + 1))
  | [] => none

/-- User name and password, encoded; an empty password is left out. -/
def readUserInfo (cs : List Char) : List Char × Option (List Char) :=
  let encode := Percent.encode Percent.userInfo
  match cs.span (· ≠ ':') with
  | (name, _ :: c :: rest) => (encode name, some (encode (c :: rest)))
  | (name, _) => (encode name, none)

/-- The text of the host, which ends at a colon outside of brackets, and what stands behind it. -/
def splitHost (special : Bool) (bracketed : Bool) : List Char → List Char × List Char
  | [] => ([], [])
  | c :: cs =>
    if (c = ':' ∧ bracketed = false) ∨ endsAuthority special c then ([], c :: cs)
    else
      let (host, rest) := splitHost special ((bracketed || c = '[') && c ≠ ']') cs
      (c :: host, rest)

/-- The digits of a port and what stands behind them. -/
def readPort (kind : SchemeKind) (cs : List Char) : Except UrlFault (Option Nat × List Char) :=
  let (digits, rest) := cs.span Char.isDigit
  let number := Nat.ofDigitChars 10 digits 0
  if 65535 < number then .error .invalidPort
  else if rest.head?.any fun c => !(c = '/' || c = '\\' || c = '?' || c = '#') then
    .error .invalidPort
  -- A colon with nothing behind it counts as no port.
  else if digits = [] ∨ kind.defaultPort? = some number then .ok (none, rest)
  else .ok (some number, rest)

/-- What an authority consists of, apart from the text behind it. -/
structure Authority where
  /-- The encoded user name. -/
  user : List Char := []
  /-- The encoded password. -/
  password : Option (List Char) := none
  /-- The host in canonical form. -/
  host : List Char
  /-- The port, unless it is the usual one. -/
  port : Option Nat := none
  deriving DecidableEq, Repr

/-- Host and port, behind the user information if there is any. -/
def readHostAndPort (kind : SchemeKind) (user : List Char) (password : Option (List Char))
    (cs : List Char) : Except UrlFault (Authority × List Char) := do
  let (hostText, rest) := splitHost kind.isSpecial false cs
  let host ←
    if kind.isSpecial then
      if hostText = [] then .error .emptyHost else Host.readDomain hostText
    else Host.readOpaque hostText
  match rest with
  | ':' :: rest =>
    if host = [] then .error .emptyHost
    else
      let (port, rest) ← readPort kind rest
      return ({ user, password, host, port }, rest)
  | _ =>
    if host = [] ∧ (user ≠ [] ∨ password.isSome) then .error .emptyHost
    else return ({ user, password, host, port := none }, rest)

/-- The authority behind the two slashes, and what stands behind it. An at sign in front of
nothing is an authority without host; in front of a host it is left out. -/
def readAuthority (kind : SchemeKind) (cs : List Char) :
    Except UrlFault (Authority × List Char) :=
  match splitUserInfo? kind.isSpecial cs with
  | none => readHostAndPort kind [] none cs
  | some ([], rest) =>
    if rest.head?.any (endsAuthority kind.isSpecial) then .error .emptyHost
    else readHostAndPort kind [] none rest
  | some (info, rest) =>
    let (user, password) := readUserInfo info
    readHostAndPort kind user password rest

/-! ## Path, query and fragment -/

/-- Cuts a text at its first question mark or number sign. -/
def splitPath (cs : List Char) : List Char × List Char := cs.span fun c => c ≠ '?' ∧ c ≠ '#'

/-- Query and fragment of the text behind the path. -/
def readTail (kind : SchemeKind) (cs : List Char) : Option (List Char) × Option (List Char) :=
  let querySet := if kind.isSpecial then Percent.specialQuery else Percent.query
  match cs with
  | '?' :: rest =>
    let (query, behind) := rest.span (· ≠ '#')
    let fragment :=
      match behind with
      | _ :: f => some (Percent.encode Percent.fragment f)
      | [] => none
    (some (Percent.encode querySet query), fragment)
  | '#' :: f => (none, some (Percent.encode Percent.fragment f))
  | _ => (none, none)

/-- Whether `c` parts the segments of a path. -/
def isSlash (special : Bool) (c : Char) : Bool := c = '/' || (special && c = '\\')

/-- The path behind an authority: it is empty only if nothing stands there and the scheme is not
special, and it gets its first slash if it has none. -/
def readPath (special : Bool) (cs : List Char) : List Char :=
  match cs with
  | [] => if special then Path.read (isSlash special) [] else []
  | c :: rest =>
    if isSlash special c then Path.read (isSlash special) rest
    else Path.read (isSlash special) (c :: rest)

/-! ## URLs -/

/-- A URL with an authority, from the text behind the two slashes. -/
def readWithAuthority (scheme : List Char) (kind : SchemeKind) (cs : List Char) :
    Except UrlFault Url := do
  let (authority, rest) ← readAuthority kind cs
  let (pathText, tail) := splitPath rest
  let (query, fragment) := readTail kind tail
  return {
    scheme, user := authority.user, password := authority.password
    host := some authority.host, port := authority.port
    path := readPath kind.isSpecial pathText, query, fragment }

/-- A URL without an authority, from the text behind the colon. -/
def readWithoutAuthority (scheme : List Char) (cs : List Char) : Url :=
  let (pathText, tail) := splitPath cs
  let (query, fragment) := readTail .other tail
  let path :=
    match pathText with
    | '/' :: rest => Path.read (isSlash false) rest
    -- Without a slash in front there are no segments, and dots mean nothing.
    | _ => Percent.encode Percent.controls pathText
  { scheme, path, query, fragment }

/-- What stands behind a slash at the front of a text, tabs and line ends apart. -/
def afterSlash? (cs : List Char) : Option (List Char) :=
  match cs.dropWhile Path.isBreak with
  | c :: rest => if isSlash true c then some rest else none
  | [] => none

/-- The host of a file; the machine's own name is left out. -/
def readFileHost (cs : List Char) : Except UrlFault (List Char) :=
  if cs = [] then .ok []
  else (Host.readDomain cs).map fun host => if host = "localhost".toList then [] else host

/-- Host and path of a file, from the text behind the two slashes. A drive takes the place of a
host: one that stands there belongs to the path, and one behind a host puts it away. -/
def readFileLocation (cs : List Char) : Except UrlFault (List Char × List Char) := do
  let (hostText, behind) := cs.span fun c => !isSlash true c
  let hostText := Path.withoutBreaks hostText
  if Path.isDrive hostText then return ([], Path.readFile cs)
  else
    let host ← readFileHost hostText
    let body := behind.drop 1
    if host = [] then return ([], Path.readFileBehindSlash body)
    else if Path.beginsWithDrive body then return ([], Path.readFile body)
    else return (host, Path.readFile body)

/-- The URL of a file, from the text behind the colon, with the tabs and line ends in it. -/
def readFile (scheme : List Char) (cs : List Char) : Except UrlFault Url := do
  let (front, tail) := splitPath cs
  let (query, fragment) := readTail .file (Path.withoutBreaks tail)
  let (host, path) ←
    match afterSlash? front with
    | none => .ok ([], Path.readFile front)
    | some rest =>
      match afterSlash? rest with
      | none => .ok ([], Path.readFileBehindSlash rest)
      | some rest => readFileLocation rest
  return { scheme, host := some host, path, query, fragment }

/-- Reads a URL. -/
def parse (text : List Char) : Except UrlFault Url :=
  let text := trim text
  match splitScheme? (Path.withoutBreaks text) with
  | none => .error .relative
  | some (scheme, rest) =>
    match SchemeKind.ofScheme scheme with
    -- Only in the path of a file do tabs and line ends matter.
    | .file => readFile scheme ((text.dropWhile (· ≠ ':')).drop 1)
    | .special port =>
      readWithAuthority scheme (.special port) (rest.dropWhile (isSlash true))
    | .other =>
      match rest with
      | '/' :: '/' :: behind => readWithAuthority scheme .other behind
      | _ => .ok (readWithoutAuthority scheme rest)

end AudioLink.Url
