import Switchboard.Json.Lexeme
import Switchboard.Decimal.Shortest

/-!
# JSON numbers

A number without fraction and exponent that fits into 64 bits is an integer; every other number,
and minus zero, is a floating point number. Its digits are collected into a significand for as
long as that fits into 64 bits. Digits left over before the point each raise the exponent by one,
those after the point are dropped. The significand is then multiplied or divided once by the power
of ten.
-/

namespace Switchboard.Json

inductive Number where
  | integer (value : Int)
  | float (value : Float)

def Number.found : Number → Found
  | integer n => .integer n
  | float x => .decimal (Decimal.ofFloat x)

def digitValue (c : Char) : Nat := c.toNat - 0x30

def significandBound : Nat := 0x10000000000000000

/-- Append digits to a significand for as long as it stays below the bound; return it with the
digits left over. -/
def extendSignificand (m : Nat) : List Char → Nat × List Char
  | [] => (m, [])
  | d :: ds =>
    if m * 10 + digitValue d < significandBound then extendSignificand (m * 10 + digitValue d) ds
    else (m, d :: ds)

/-- Exponents of more than this size have no value of their own. -/
def exponentBound : Nat := 0x80000000

inductive Exponent where
  | value (e : Nat)
  /-- Beyond the bound; `left` follows the digit that went beyond it. -/
  | beyond (left : List Char)

/-- The value of an exponent, read on from `e`, with what follows its digits. -/
def readExponentDigits (e : Nat) : List Char → Exponent × List Char
  | [] => (.value e, [])
  | c :: cs =>
    if c.isDigit then
      if e * 10 + digitValue c < exponentBound then readExponentDigits (e * 10 + digitValue c) cs
      else (.beyond cs, cs.dropWhile Char.isDigit)
    else (.value e, c :: cs)

/-- `significand · 10 ^ e` rounded, or `none` beyond the largest number. Below `10 ^ -308` the
significand is divided in steps; three of them leave nothing of it. -/
def scaled? : Nat → Float → Int → Option Float
  | steps, m, e =>
    if e.natAbs ≤ 308 then
      let power := Float.ofScientific 1 false e.natAbs
      if e < 0 then some (m / power)
      else if (m * power).isInf then none
      else some (m * power)
    else if m == 0 then some m
    else if 0 ≤ e then none
    else match steps with
      | 0 => some 0
      | steps + 1 => scaled? steps (m / Float.ofScientific 1 false 308) (e + 308)

/-- The floating point number with the given parts; `rest` follows its text. -/
def Number.ofParts (negative : Bool) (m : Nat) (e : Int) (rest : List Char) :
    Except Failure (Number × List Char) :=
  match scaled? 3 (Float.ofNat m) e with
  | some x => .ok (.float (if negative then -x else x), rest)
  | none => .error (.here .numberOutOfRange rest)

/-- Read an exponent from after its letter; `m` and `e` are the parts read so far. -/
def readExponent (negative : Bool) (m : Nat) (e : Int) (cs : List Char) :
    Except Failure (Number × List Char) :=
  let (down, cs) := match cs with
    | '+' :: r => (false, r)
    | '-' :: r => (true, r)
    | r => (false, r)
  match cs with
  | [] => .error (.past .endInValue [])
  | c :: r =>
    if c.isDigit then
      match readExponentDigits (digitValue c) r with
      | (.value x, rest) => Number.ofParts negative m (if down then e - x else e + x) rest
      | (.beyond left, rest) =>
        if m ≠ 0 ∧ !down then .error (.here .numberOutOfRange left)
        else .ok (.float (if negative then -0 else 0), rest)
    else .error (.past .invalidNumber (c :: r))

/-- Read what may follow the digits of a number that is no integer. -/
def readTail (negative : Bool) (m : Nat) (e : Int) (cs : List Char) :
    Except Failure (Number × List Char) :=
  match cs with
  | 'e' :: r | 'E' :: r => readExponent negative m e r
  | r => Number.ofParts negative m e r

/-- Read a fraction from after its point. -/
def readFraction (negative : Bool) (m : Nat) (e : Int) (cs : List Char) :
    Except Failure (Number × List Char) :=
  match cs.span Char.isDigit with
  | ([], []) => .error (.past .endInValue [])
  | ([], r) => .error (.past .invalidNumber r)
  | (ds, r) =>
    let (m, left) := extendSignificand m ds
    readTail negative m (e - (ds.length - left.length : Nat)) r

/-- Read what follows the digits before the point, whose value `m` left out `left` of them. -/
def readWhole (negative : Bool) (m left : Nat) (cs : List Char) :
    Except Failure (Number × List Char) :=
  match cs with
  | '.' :: r => readFraction negative m left r
  | 'e' :: r | 'E' :: r => readExponent negative m left r
  | r =>
    if 0 < left then Number.ofParts negative m left r
    else if !negative then .ok (.integer m, r)
    -- minus zero is no integer, and neither is what lies below the least one
    else if 0 < m ∧ m ≤ 0x8000000000000000 then .ok (.integer (-m), r)
    else .ok (.float (-(Float.ofNat m)), r)

def readNumber (negative : Bool) (cs : List Char) : Except Failure (Number × List Char) :=
  match cs with
  | [] => .error (.past .endInValue [])
  | '0' :: [] => readWhole negative 0 0 []
  -- nothing but a point or an exponent may follow a zero
  | '0' :: c :: r =>
    if c.isDigit then .error (.past .invalidNumber (c :: r)) else readWhole negative 0 0 (c :: r)
  | c :: r =>
    if c.isDigit then
      let (ds, rest) := r.span Char.isDigit
      let (m, left) := extendSignificand (digitValue c) ds
      readWhole negative m left.length rest
    else .error (.past .invalidNumber (c :: r))

end Switchboard.Json
