import AudioLink.Net.Ip
import AudioLink.Text.Percent
import AudioLink.Url.Basic
import AudioLink.Url.Domain

/-
Hosts of URLs.

The host of a scheme that is not special is opaque: an IPv6 address in brackets, which is written
in its canonical form, or any text without the characters that delimit a host, which is kept but
for the escapes. The host of a special scheme is a domain name, written in ASCII, or an IPv4
address in any of the old numeric spellings.
-/
set_option autoImplicit false

namespace AudioLink.Url.Host

/-! ## Both kinds -/

/-- The address between brackets, written canonically and in brackets again. -/
def readBracketed (cs : List Char) : Except UrlFault (List Char) :=
  if cs.getLast? = some ']' ∧ 2 ≤ cs.length then
    match Ipv6.ofText? (cs.drop 1).dropLast with
    | some ip => .ok ('[' :: ip.text ++ [']'])
    | none => .error .invalidIpv6
  else .error .invalidIpv6

/-! ## Opaque hosts -/

/-- The characters that no opaque host may hold. -/
def isForbidden (c : Char) : Bool :=
  ['\x00', '\t', '\n', '\r', ' ', '#', '/', ':', '<', '>', '?', '@', '[', '\\', ']', '^',
    '|'].contains c

/-- The host of a scheme that is not special. -/
def readOpaque (cs : List Char) : Except UrlFault (List Char) :=
  if cs.head? = some '[' then readBracketed cs
  else if cs.any isForbidden then .error .invalidDomainCharacter
  else .ok (Percent.encode Percent.controls cs)

/-! ## Domain names and IPv4 addresses -/

/-- A number in decimal, in octal behind a zero, or in hexadecimal behind `0x`. -/
def number? (cs : List Char) : Option Nat :=
  match cs with
  | [] => none
  | '0' :: 'x' :: rest => Digits.inRadix? 16 rest
  | '0' :: 'X' :: rest => Digits.inRadix? 16 rest
  | ['0'] => some 0
  | '0' :: rest => Digits.inRadix? 8 rest
  | _ => Digits.decimal? cs

/-- The parts of a name between its dots, without an empty part at the end. -/
def labels (cs : List Char) : List (List Char) :=
  let parts := Segments.split '.' cs
  if 2 ≤ parts.length ∧ parts.getLast? = some [] then parts.dropLast else parts

/-- Whether the last part of a name is a number, so that the name must be an address. -/
def endsInNumber (cs : List Char) : Bool :=
  match (labels cs).getLast? with
  | some last => (last != [] && last.all Char.isDigit) || (number? last).isSome
  | none => false

/-- The octets of `n`, as many as are left for the last part of an address. -/
def octetsOf (n : Nat) : Nat → List UInt8
  | 0 => []
  | k + 1 => UInt8.ofNat (n / Nat.pow 256 k % 256) :: octetsOf n k

/-- An address of one to four numbers, of which the last fills all octets that remain. -/
def readIpv4 (cs : List Char) : Except UrlFault Ipv4 :=
  match (labels cs).mapM number? with
  | none => .error .invalidIpv4
  | some numbers =>
    let front := numbers.dropLast
    -- The last number stands for all octets that the others leave.
    let last := numbers.getLast?.getD 0
    if 4 < numbers.length ∨ front.any (255 < ·) ∨ Nat.pow 256 (4 - front.length) ≤ last then
      .error .invalidIpv4
    else
      match front.map UInt8.ofNat ++ octetsOf last (4 - front.length) with
      | [a, b, c, d] => .ok ⟨a, b, c, d⟩
      | _ => .error .invalidIpv4

/-- The characters that no domain name may hold. -/
def isForbiddenInDomain (c : Char) : Bool :=
  isForbidden c || c.toNat < 32 || c.toNat = 127 || c = '%'

/-- The host of a special scheme: escapes are undone, and what they give is a domain name or an
address. -/
def readDomain (cs : List Char) : Except UrlFault (List Char) :=
  if cs.head? = some '[' then readBracketed cs
  else
    match Bytes.toText? (Percent.decode cs) with
    | none => .error .invalidDomain
    | some decoded =>
      match Domain.toAscii? decoded.toList with
      | none => .error .invalidDomain
      | some name =>
        if name = [] then .error .emptyHost
        else if name.any isForbiddenInDomain then .error .invalidDomain
        else if endsInNumber name then (readIpv4 name).map Ipv4.text
        else .ok name

end AudioLink.Url.Host
