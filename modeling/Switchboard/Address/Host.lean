import Switchboard.Address.Ipv4
import Switchboard.Address.Ipv6
import Switchboard.Address.Label
import Switchboard.Json.Lexeme

/-!
# Hosts

A host is a numeric address or a name. A name is written in ASCII and in small letters; a label
with other characters is written in its ASCII form.

A byte that may not stand in a part of an address is written as a percent sign and its two
hexadecimal digits. Which characters stand for themselves depends on the part.
-/

namespace Switchboard.Address

/-! ## Percent encoding -/

def percentByte (b : UInt8) : List Char :=
  let digit := fun n => (Nat.digitChar n).toUpper
  ['%', digit (b.toNat / 16), digit (b.toNat % 16)]

def percentChar (c : Char) : List Char := (String.utf8EncodeChar c).flatMap percentByte

/-- The characters between space and delete. All others are encoded in every part. -/
def isVisible (c : Char) : Bool := 0x20 < c.toNat && c.toNat < 0x7F

/-- Encode the characters that are not visible and those that `reserved` names. -/
def percentEncode (reserved : List Char) (cs : List Char) : List Char :=
  cs.flatMap fun c => if isVisible c && !reserved.contains c then [c] else percentChar c

/-- The bytes that a text stands for. A percent sign without two digits stands for itself. -/
def percentDecode : List Char → List UInt8
  | [] => []
  | '%' :: a :: b :: cs =>
    match Json.hexValue? a, Json.hexValue? b with
    | some x, some y => UInt8.ofNat (16 * x + y) :: percentDecode cs
    | _, _ => '%'.toUInt8 :: percentDecode (a :: b :: cs)
  | c :: cs => String.utf8EncodeChar c ++ percentDecode cs

def percentText? (cs : List Char) : Option String :=
  String.fromUTF8? (percentDecode cs).toByteArray

/-! ## Names and numbers -/

inductive AddressError where
  | emptyHost
  | badName
  | badPort
  | badIpv4
  | badIpv6
  /-- A host of an address that is not for the web. -/
  | badCharacter
  | noScheme
deriving DecidableEq, Repr

def AddressError.message : AddressError → String
  | emptyHost => "empty host"
  | badName => "invalid international domain name"
  | badPort => "invalid port number"
  | badIpv4 => "invalid IPv4 address"
  | badIpv6 => "invalid IPv6 address"
  | badCharacter => "invalid domain character"
  | noScheme => "relative URL without a base"

inductive Host where
  | name (labels : String)
  | ipv4 (address : UInt32)
  | ipv6 (groups : List Nat)
deriving DecidableEq, Repr

namespace Host

/-- The characters that have a meaning of their own in an address. -/
def delimiters : List Char :=
  [' ', '#', '/', ':', '<', '>', '?', '@', '[', '\\', ']', '^', '|']

def allowed (c : Char) : Bool :=
  128 ≤ c.toNat || (isVisible c && !delimiters.contains c && c ≠ '%')

/-- A letter in its small form. Beyond ASCII this knows the western European letters. -/
def small (c : Char) : Char :=
  let n := c.toNat
  if 0xC0 ≤ n && n ≤ 0xDE && n ≠ 0xD7 then Char.ofNat (n + 0x20) else c.toLower

def name? (cs : List Char) : Option (List Char) :=
  let cs := cs.map small
  if cs.all allowed then
    (Label.readAll? (splitAt '.' cs)).map fun labels => ['.'].intercalate (labels.map Label.write)
  else none

def readBracketed (cs : List Char) : Except AddressError Host :=
  match cs.getLast? with
  | some ']' =>
    match ipv6? cs.dropLast with
    | some groups => .ok (.ipv6 groups)
    | none => .error .badIpv6
  | _ => .error .badIpv6

def readName (cs : List Char) : Except AddressError Host :=
  match (percentText? cs).bind fun s => name? s.toList with
  | none => .error .badName
  | some [] => .error .emptyHost
  | some ascii =>
    if endsInNumber ascii then
      match ipv4? ascii with
      | some n => .ok (.ipv4 n)
      | none => .error .badIpv4
    else .ok (.name (String.ofList ascii))

def read : List Char → Except AddressError Host
  | [] => .error .emptyHost
  | '[' :: cs => readBracketed cs
  | cs => readName cs

def write : Host → String
  | name labels => labels
  | ipv4 n => writeIpv4 n
  | ipv6 groups => "[" ++ writeIpv6 groups ++ "]"

/-- A host that is not of the web is taken as it is; returns whether it is empty. -/
def readOpaque : List Char → Except AddressError Bool
  | '[' :: cs => (readBracketed cs).map fun _ => false
  | cs =>
    if cs.any fun c => c = '\x00' || delimiters.contains c then .error .badCharacter
    else .ok cs.isEmpty

end Host

end Switchboard.Address
