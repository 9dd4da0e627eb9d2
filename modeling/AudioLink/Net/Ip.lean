import AudioLink.Text.Digits
import AudioLink.Text.Segments

/-
IP addresses and their text.

An IPv4 address is read from exactly four decimal parts without leading zeros. An IPv6 address is
read from groups of up to four hexadecimal digits, with at most one `::` for a run of zero groups
and with the last two groups optionally written as an IPv4 address; it is written in lower case
with the first longest run of at least two zero groups as `::`. Reading takes many spellings of an
address and writing chooses one, so a text is in canonical form exactly if it is the text of the
address that it is read as.
-/
set_option autoImplicit false

namespace AudioLink

/-! ## IPv4 -/

/-- An IPv4 address, as its four octets. -/
structure Ipv4 where
  /-- First octet, the most significant one. -/
  a : UInt8
  b : UInt8
  c : UInt8
  d : UInt8
  deriving DecidableEq, Repr

namespace Ipv4

/-- The address that binds to every interface. -/
def unspecified : Ipv4 := ⟨0, 0, 0, 0⟩

/-- The usual address of the machine itself. -/
def localhost : Ipv4 := ⟨127, 0, 0, 1⟩

/-- Whether the address is in the block of the machine itself. -/
def isLoopback (ip : Ipv4) : Bool := ip.a = 127

/-- Whether the address names a group of receivers. -/
def isMulticast (ip : Ipv4) : Bool := 224 ≤ ip.a && ip.a ≤ 239

/-- Four decimal numbers with dots between them. -/
def text (ip : Ipv4) : List Char :=
  Segments.join '.' ([ip.a, ip.b, ip.c, ip.d].map fun o => Digits.decimal o.toNat)

/-- A decimal number below 256 without leading zeros. -/
def octet? (cs : List Char) : Option UInt8 :=
  if cs.head? = some '0' ∧ cs ≠ ['0'] then none
  else
    match Digits.decimal? cs with
    | some n => if n < 256 then some (UInt8.ofNat n) else none
    | none => none

/-- Reads four decimal numbers with dots between them. -/
def ofText? (cs : List Char) : Option Ipv4 :=
  match (Segments.split '.' cs).mapM octet? with
  | some [a, b, c, d] => some ⟨a, b, c, d⟩
  | _ => none

/-- The two IPv6 groups that an IPv4 address takes at the end of an IPv6 address. -/
def groups (ip : Ipv4) : List UInt16 :=
  [UInt16.ofNat (ip.a.toNat * 256 + ip.b.toNat), UInt16.ofNat (ip.c.toNat * 256 + ip.d.toNat)]

end Ipv4

/-! ## IPv6 -/

/-- An IPv6 address, as its eight groups of sixteen bits. -/
structure Ipv6 where
  /-- The groups, the most significant one first. -/
  groups : List UInt16
  /-- There are eight of them. -/
  length_groups : groups.length = 8
  deriving DecidableEq, Repr

namespace Ipv6

/-- The address that binds to every interface. -/
def unspecified : Ipv6 := ⟨List.replicate 8 0, rfl⟩

/-- The address of the machine itself. -/
def localhost : Ipv6 := ⟨[0, 0, 0, 0, 0, 0, 0, 1], rfl⟩

/-- Whether the address names a group of receivers. -/
def isMulticast (ip : Ipv6) : Bool := ip.groups.head?.any fun g => 0xFF00 ≤ g

/-- Whether the address names a group that reaches no further than one link. -/
def isLinkMulticast (ip : Ipv6) : Bool :=
  ip.isMulticast && ip.groups.head?.any fun g => g &&& 0xF = 1 || g &&& 0xF = 2

/-- The IPv4 address that an IPv4-mapped address stands for. -/
def mapped? (ip : Ipv6) : Option Ipv4 :=
  match ip.groups with
  | [0, 0, 0, 0, 0, 0xFFFF, x, y] =>
    some ⟨(x >>> 8).toUInt8, x.toUInt8, (y >>> 8).toUInt8, y.toUInt8⟩
  | _ => none

/-! ### Writing -/

/-- Number of zero groups at the front. -/
def leadingZeros (gs : List UInt16) : Nat := (gs.takeWhile (· = 0)).length

/-- Start and length of the first longest run of zero groups, looking at starts below `n`. -/
def longestRun (gs : List UInt16) : Nat → Nat × Nat
  | 0 => (0, 0)
  | n + 1 =>
    let best := longestRun gs n
    let len := leadingZeros (gs.drop n)
    if best.2 < len then (n, len) else best

/-- Groups in hexadecimal with colons between them. -/
def joinGroups (gs : List UInt16) : List Char :=
  Segments.join ':' (gs.map fun g => Digits.hex g.toNat)

/-- The canonical text: the first longest run of at least two zero groups is left out. -/
def text (ip : Ipv6) : List Char :=
  let (start, len) := longestRun ip.groups 8
  if 2 ≤ len then
    joinGroups (ip.groups.take start) ++ [':', ':'] ++ joinGroups (ip.groups.drop (start + len))
  else joinGroups ip.groups

/-! ### Reading -/

/-- One to four hexadecimal digits. -/
def group? (cs : List Char) : Option UInt16 :=
  if cs = [] ∨ 4 < cs.length then none else (Digits.inRadix? 16 cs).map UInt16.ofNat

/-- Groups of which the last may be written as an IPv4 address. -/
def groupsWithTail? : List (List Char) → Option (List UInt16)
  | [] => some []
  | [last] =>
    match group? last with
    | some g => some [g]
    | none => (Ipv4.ofText? last).map Ipv4.groups
  | g :: rest => do
    let x ← group? g
    let xs ← groupsWithTail? rest
    some (x :: xs)

/-- The parts before and after the first `::`. -/
def splitElision : List Char → Option (List Char × List Char)
  | ':' :: ':' :: rest => some ([], rest)
  | c :: rest => (splitElision rest).map fun (l, r) => (c :: l, r)
  | [] => none

/-- The text between two colons of an address, cut at its colons; no groups if it is empty. -/
def pieces (cs : List Char) : List (List Char) := if cs = [] then [] else Segments.split ':' cs

/-- Eight groups as an address. -/
def ofGroups? (gs : List UInt16) : Option Ipv6 := if h : gs.length = 8 then some ⟨gs, h⟩ else none

/-- Reads an address; a `::` stands for at least one zero group. -/
def ofText? (cs : List Char) : Option Ipv6 :=
  match splitElision cs with
  | some (l, r) => do
    let head ← (pieces l).mapM group?
    let tail ← groupsWithTail? (pieces r)
    -- The `::` stands for a group at least, so eight written groups are too many.
    if head.length + tail.length ≤ 7 then
      ofGroups? (head ++ List.replicate (8 - (head.length + tail.length)) 0 ++ tail)
    else none
  | none => do
    let gs ← groupsWithTail? (Segments.split ':' cs)
    ofGroups? gs

end Ipv6

/-! ## Either kind -/

/-- An IP address of either kind. -/
inductive Ip where
  | v4 (ip : Ipv4)
  | v6 (ip : Ipv6)
  deriving DecidableEq, Repr

namespace Ip

/-- Whether the address is an IPv4 address. -/
def isV4 : Ip → Bool
  | v4 _ => true
  | v6 _ => false

/-- The address of the same kind that binds to every interface. -/
def unspecifiedLike : Ip → Ip
  | v4 _ => v4 .unspecified
  | v6 _ => v6 .unspecified

/-- Reads an address of either kind. -/
def ofText? (cs : List Char) : Option Ip :=
  match Ipv4.ofText? cs with
  | some ip => some (v4 ip)
  | none => (Ipv6.ofText? cs).map v6

end Ip
end AudioLink
