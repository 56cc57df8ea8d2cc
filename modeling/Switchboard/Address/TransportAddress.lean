import Switchboard.Address.Ipv6

/-!
# Transport addresses

Where a connection comes from: a numeric address and a port. An address of sixteen bytes stands in
brackets, and may name the link that it is meant on by a number. Written again, an address has its
shortest form: no needless zeros, no link zero, and four decimal numbers where sixteen bytes stand
for four.
-/

namespace Switchboard.Address

inductive TransportAddress where
  | ipv4 (address : UInt32) (port : UInt16)
  /-- `link` is zero if no link is meant. -/
  | ipv6 (groups : List Nat) (link : UInt32) (port : UInt16)
deriving DecidableEq, Repr

namespace TransportAddress

def decimal? (limit : Nat) (cs : List Char) : Option Nat :=
  if cs.isEmpty then none else (digitsValue? 10 cs).filter (· < limit)

def port? (cs : List Char) : Option UInt16 := (decimal? 65536 cs).map UInt16.ofNat

/-- The link after an address: none is link zero. -/
def link? : List Char → Option UInt32
  | [] => some 0
  | '%' :: cs => (decimal? 4294967296 cs).map UInt32.ofNat
  | _ => none

/-- What follows the opening bracket of a long address. -/
def readBracketed? (cs : List Char) : Option TransportAddress :=
  let inside := cs.takeWhile (· ≠ ']')
  let address := inside.takeWhile (· ≠ '%')
  match cs.drop inside.length with
  | ']' :: ':' :: port =>
    match ipv6? address, link? (inside.drop address.length), port? port with
    | some groups, some link, some port => some (.ipv6 groups link port)
    | _, _, _ => none
  | _ => none

def read? (s : String) : Option TransportAddress :=
  match s.toList with
  | '[' :: cs => readBracketed? cs
  | cs =>
    let address := cs.takeWhile (· ≠ ':')
    match dottedQuad? address, cs.drop address.length with
    | some n, ':' :: port => (port? port).map (.ipv4 n)
    | _, _ => none

/-- The groups of an address. Those that stand for an address of four bytes end in that one. -/
def writeGroups : List Nat → String
  | [0, 0, 0, 0, 0, 0xffff, a, b] => "::ffff:" ++ writeIpv4 (UInt32.ofNat (65536 * a + b))
  | groups => writeIpv6 groups

def write : TransportAddress → String
  | ipv4 n port => writeIpv4 n ++ ":" ++ toString port.toNat
  | ipv6 groups link port =>
    let link := if link = 0 then "" else "%" ++ toString link.toNat
    "[" ++ writeGroups groups ++ link ++ "]:" ++ toString port.toNat

end TransportAddress

end Switchboard.Address
