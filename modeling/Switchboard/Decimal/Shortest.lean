/-!
# Shortest decimals

The decimal that is written for a binary floating point number has the fewest digits that still
read back as that number, and of those the nearest to it. All comparisons are between natural
numbers: a binary number `m · 2 ^ q` and the two ends of the interval that rounds to it are put
over one denominator.

`Layout` says when a decimal is written out in full and when with an exponent.
-/

namespace Switchboard.Decimal

/-- A positive binary number over a denominator, and the interval of reals that round to it. -/
structure Rounding where
  low : Nat
  value : Nat
  high : Nat
  denominator : Nat
  /-- Whether the two ends round to the number as well. -/
  closed : Bool
deriving Repr

/-- The interval of `m · 2 ^ q`; `atPower` says that the gap below is half the gap above. -/
def Rounding.ofBinary (m : Nat) (q : Int) (atPower : Bool) : Rounding :=
  let unit := Nat.pow 2 (q - 2).toNat
  { low := (4 * m - if atPower then 1 else 2) * unit
    value := 4 * m * unit
    high := (4 * m + 2) * unit
    denominator := Nat.pow 2 (2 - q).toNat
    closed := m % 2 == 0 }

def exponentWeight : Nat := 0x10000000000000

def signWeight : Nat := 0x8000000000000000

/-- The interval of a finite positive number of 64 bits, given by its bits. -/
def Rounding.ofBits (bits : Nat) : Rounding :=
  let field : Nat := bits / exponentWeight % 2048
  let fraction : Nat := bits % exponentWeight
  if field = 0 then .ofBinary fraction (-1074) false
  else .ofBinary (exponentWeight + fraction) (Int.ofNat field - 1075) (fraction == 0 && field != 1)

/-- The exponent `e` with `10 ^ (e - 1) ≤ num / den < 10 ^ e`. The first argument bounds how
often a fraction is multiplied by ten. -/
def magnitude : Nat → Nat → Nat → Int
  | 0, _, _ => 0
  | steps + 1, num, den =>
    if den ≤ num then (Nat.toDigits 10 (num / den)).length
    else if den ≤ num * 10 then 0
    else magnitude steps (num * 10) den - 1

/-- Whether `d · 10 ^ e` lies in the interval. -/
def Rounding.holds (r : Rounding) (d : Nat) (e : Int) : Bool :=
  let point := d * Nat.pow 10 e.toNat * r.denominator
  let scale := Nat.pow 10 (-e).toNat
  if r.closed then r.low * scale ≤ point && point ≤ r.high * scale
  else r.low * scale < point && point < r.high * scale

/-- How far `d · 10 ^ e` is from the number, over a denominator that depends on `e` alone. -/
def Rounding.distance (r : Rounding) (d : Nat) (e : Int) : Nat :=
  let point := d * Nat.pow 10 e.toNat * r.denominator
  let own := r.value * Nat.pow 10 (-e).toNat
  (point - own) + (own - point)

/-- The neighbour on the grid `10 ^ e` that reads back as the number, the nearer of two; of two
equally near the even one. -/
def Rounding.onGrid? (r : Rounding) (e : Int) : Option Nat :=
  let below := r.value * Nat.pow 10 (-e).toNat / (Nat.pow 10 e.toNat * r.denominator)
  match r.holds below e, r.holds (below + 1) e with
  | true, true =>
    -- both neighbours read back: the nearer one, then the even one
    let down := r.distance below e
    let up := r.distance (below + 1) e
    if down < up then some below
    else if up < down then some (below + 1)
    else some (if below % 2 == 0 then below else below + 1)
  | true, false => some below
  | false, true => some (below + 1)
  | false, false => none

/-- Digits and the place of the point: `0.d₁d₂… · 10 ^ point`. -/
structure Digits where
  digits : List Char
  point : Int
deriving Repr, DecidableEq

/-- The shortest decimal of the number, with no zero at its end. -/
def Rounding.shortest (r : Rounding) : Digits :=
  let e := magnitude 400 r.value r.denominator
  let grids : List Int := (List.range 17).map fun n => e - Int.ofNat (n + 1)
  match grids.findSome? fun grid => (r.onGrid? grid).map fun d => (d, grid) with
  | some (d, scale) =>
    let all := Nat.toDigits 10 d
    ⟨(all.reverse.dropWhile (· == '0')).reverse, scale + all.length⟩
  | none => ⟨['0'], 1⟩

/-- When a decimal is written out in full. -/
structure Layout where
  /-- The least place of the point that is written out in full. -/
  leastPoint : Int
  /-- The greatest place of the point that is written out in full. -/
  greatestPoint : Int

/-- Numbers from `0.00001` up and below `10 ^ 16` are written out in full, with at least one digit
after the point; all others with a signed exponent. -/
def Layout.message : Layout := ⟨-4, 16⟩

def Layout.render (l : Layout) (d : Digits) : List Char :=
  let count := d.digits.length
  if l.leastPoint ≤ d.point ∧ d.point ≤ l.greatestPoint then
    if d.point ≤ 0 then
      ['0', '.'] ++ List.replicate (-d.point).toNat '0' ++ d.digits
    else if count ≤ d.point.toNat then
      d.digits ++ List.replicate (d.point.toNat - count) '0' ++ ['.', '0']
    else
      d.digits.take d.point.toNat ++ '.' :: d.digits.drop d.point.toNat
  else
    let exponent := d.point - 1
    let mantissa := match d.digits with
      | [] => []
      | [only] => [only]
      | first :: more => first :: '.' :: more
    let sign := if exponent < 0 then '-' else '+'
    mantissa ++ 'e' :: sign :: Nat.toDigits 10 exponent.natAbs

def ofFloat (x : Float) : String :=
  let bits := x.toBits.toNat
  let magnitudeBits := bits % signWeight
  let body :=
    if magnitudeBits = 0 then ['0', '.', '0']
    else Layout.message.render (Rounding.ofBits magnitudeBits).shortest
  String.ofList (if signWeight ≤ bits then '-' :: body else body)

end Switchboard.Decimal
