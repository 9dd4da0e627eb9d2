import AudioLink.Text.Percent
import AudioLink.Text.Segments

/-
Paths: a list of segments in which `.` and `..`, in any of their escaped spellings, have been
resolved.

A segment `..` takes back the segment before it, if there is one that is not the name of a drive,
and `.` stands for nothing; if either is the last segment, an empty one takes its place, so that the
path still ends in a slash.
-/
set_option autoImplicit false

namespace AudioLink.Url.Path

/-- A dot, plain or escaped, with what stands behind it. -/
def afterDot? : List Char → Option (List Char)
  | '.' :: rest => some rest
  | '%' :: '2' :: 'e' :: rest => some rest
  | '%' :: '2' :: 'E' :: rest => some rest
  | _ => none

/-- Whether a segment means the place where it stands. -/
def isSingleDot (segment : List Char) : Bool := afterDot? segment == some []

/-- Whether a segment means the place above it. -/
def isDoubleDot (segment : List Char) : Bool := (afterDot? segment).bind afterDot? == some []

/-! ## Drives -/

/-- A letter and a colon or a bar: the name of a drive. -/
def isDrive : List Char → Bool
  | [letter, mark] => letter.isAlpha && (mark = ':' || mark = '|')
  | _ => false

/-! ## Resolving dots -/

/-- The segments without the last one. The name of a drive is never taken back. -/
def stepUp (done : List (List Char)) : List (List Char) :=
  if done.getLast?.any isDrive then done else done.dropLast

/-- Puts a segment behind those that stand already; `isLast` tells that no slash follows it. -/
def put (isLast : Bool) (done : List (List Char)) (segment : List Char) : List (List Char) :=
  -- A path that ends in dots still ends in a slash.
  let ending := if isLast then [[]] else []
  if isDoubleDot segment then stepUp done ++ ending
  else if isSingleDot segment then done ++ ending
  else done ++ [segment]

/-- Puts the segments of a path behind those that stand already, in the way that `add` tells. -/
def fill (add : Bool → List (List Char) → List Char → List (List Char))
    (done : List (List Char)) : List (List Char) → List (List Char)
  | [] => done
  | [last] => add true done last
  | segment :: rest => fill add (add false done segment) rest

/-- The segments of a path with its dots resolved. -/
def resolve (segments : List (List Char)) : List (List Char) := fill put [] segments

/-- A path from its segments: each with a slash in front. -/
def ofSegments (segments : List (List Char)) : List Char := '/' :: Segments.join '/' segments

/-- The path behind its first slash, encoded and with its dots resolved; `slash` tells which
characters part the segments. -/
def read (slash : Char → Bool) (body : List Char) : List Char :=
  let segments := Segments.split '/' (body.map fun c => if slash c then '/' else c)
  -- Encoding touches no dot, so it does not matter that it comes before the resolving.
  ofSegments (resolve (segments.map (Percent.encode Percent.path)))

/-! ## Paths of files

A drive at the very front of the path of a file gets a colon for its bar. A tab or a line end, which
is left out elsewhere, parts the name of a drive from what stands behind it if nothing stands before
it; what it parts is not read any further.
-/

/-- Whether `c` is a tab or a line end. -/
def isBreak (c : Char) : Bool := c = '\t' || c = '\n' || c = '\r'

/-- A text without tabs and line ends. -/
def withoutBreaks (cs : List Char) : List Char := cs.filter fun c => !isBreak c

/-- The name of a drive with its colon, and what stands behind it in the same segment, if a tab or
a line end parts the two. -/
def brokenDrive? (segment : List Char) : Option (List Char × List Char) :=
  match segment.span (· ≠ ':') with
  | (before, _ :: c :: behind) =>
    match withoutBreaks before with
    | [letter] =>
      let rest := withoutBreaks behind
      if letter.isAlpha ∧ isBreak c ∧ rest ≠ [] then some ([letter, ':'], rest) else none
    | _ => none
  | _ => none

/-- Puts a segment of the path of a file behind those that stand already. -/
def putFile (isLast : Bool) (done : List (List Char)) (segment : List Char) :
    List (List Char) :=
  match if done = [] then brokenDrive? segment else none with
  | some (drive, rest) => [drive, Percent.encode Percent.path rest]
  | none => put isLast done (Percent.encode Percent.path (withoutBreaks segment))

/-- The name of a drive with a colon. -/
def withColon (segment : List Char) : List Char :=
  if isDrive (withoutBreaks segment) then (withoutBreaks segment).take 1 ++ [':'] else segment

/-- The segments of the path of a file. -/
def fileSegments (body : List Char) : List (List Char) :=
  Segments.split '/' (body.map fun c => if c = '\\' then '/' else c)

/-- Whether the first segment of the path of a file is a drive. -/
def beginsWithDrive (body : List Char) : Bool :=
  (fileSegments body).head?.any fun segment => isDrive (withoutBreaks segment)

/-- The path of a file from its segments. Empty segments at its front are left out. -/
def ofFileSegments (segments : List (List Char)) : List Char :=
  '/' :: (Segments.join '/' (fill putFile [] segments)).dropWhile (· = '/')

/-- The path of a file behind its first slash, in which no drive gets a colon. -/
def readFileBehindSlash (body : List Char) : List Char := ofFileSegments (fileSegments body)

/-- The path of a file from its very front. -/
def readFile (body : List Char) : List Char :=
  match fileSegments body with
  | segment :: rest => ofFileSegments (withColon segment :: rest)
  | [] => ofFileSegments []

end AudioLink.Url.Path
