import Switchboard.Json.Lexeme

/-!
# Numeric host addresses of four bytes

An address is written as up to four numbers with points between them. A number is decimal, octal
after a zero, or hexadecimal after `0x`. The last number fills all the bytes that are left.
-/

namespace Switchboard.Address

def splitAt (separator : Char) (cs : List Char) : List (List Char) :=
  cs.foldr (fun c parts =>
    if c = separator then [] :: parts
    else match parts with
      | [] => [[c]]
      | part :: rest => (c :: part) :: rest) [[]]

/-- The value of digits of the given base; of none it is zero. -/
def digitsValue? (base : Nat) (cs : List Char) : Option Nat :=
  cs.foldl (fun acc c =>
    match acc, Json.hexValue? c with
    | some n, some d => if d < base then some (base * n + d) else none
    | _, _ => none) (some 0)

def ipv4Number? : List Char → Option Nat
  | [] => none
  | '0' :: 'x' :: cs | '0' :: 'X' :: cs => digitsValue? 16 cs
  | '0' :: c :: cs => digitsValue? 8 (c :: cs)
  | cs => digitsValue? 10 cs

/-- The parts of a host between its points; a point at the end is no matter. -/
def hostParts (cs : List Char) : List (List Char) :=
  match (splitAt '.' cs).reverse with
  | [] :: p :: ps => (p :: ps).reverse
  | ps => ps.reverse

/-- Whether a host is meant as a number: its last part is one, or holds digits only. -/
def endsInNumber (cs : List Char) : Bool :=
  match (hostParts cs).getLast? with
  | none => false
  | some part =>
    (!part.isEmpty && part.all Char.isDigit) || (ipv4Number? part).isSome

/-- The number of addresses that share their first `count` bytes. -/
def ipv4Room (count : Nat) : Nat := Nat.pow 256 (4 - count)

def ipv4? (cs : List Char) : Option UInt32 :=
  match ((hostParts cs).mapM ipv4Number?).map List.reverse with
  | none | some [] => none
  | some (last :: front) =>
    let count := front.length
    if 3 < count || front.any (255 < ·) || ipv4Room count ≤ last then none
    else
      -- the last number may fill several bytes
      let high := front.reverse.foldl (fun n d => 256 * n + d) 0
      some (UInt32.ofNat (high * ipv4Room count + last))

def decimalByte? (cs : List Char) : Option Nat :=
  match cs with
  | [] => none
  | '0' :: _ :: _ => none
  | cs => (digitsValue? 10 cs).filter (· < 256)

/-- The address that is written as four decimal bytes, and in no shorter way. -/
def dottedQuad? (cs : List Char) : Option UInt32 :=
  match (splitAt '.' cs).mapM decimalByte? with
  | some [a, b, c, d] => some (UInt32.ofNat (256 * (256 * (256 * a + b) + c) + d))
  | _ => none

def writeIpv4 (n : UInt32) : String :=
  ".".intercalate ([1, 2, 3, 4].map fun count => toString (n.toNat / ipv4Room count % 256))

end Switchboard.Address
