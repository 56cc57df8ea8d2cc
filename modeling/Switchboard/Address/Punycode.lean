/-!
# Punycode

A label of a host name with characters beyond ASCII is written with its ASCII characters first, and
then with one number for each further character, in the order of code points. A number counts the
places that are passed over, so it says both which character comes next and where. The digits of a
number have a threshold that follows the sizes of the numbers before it.
-/

namespace Switchboard.Address.Punycode

def threshold (bias k : Nat) : Nat := min 26 (max 1 (k - bias))

/-- Divide until a number is small; returns it with the number of divisions times 36. -/
def shrink (delta k : Nat) : Nat × Nat :=
  if 455 < delta then shrink (delta / 35) (k + 36) else (delta, k)
termination_by delta
decreasing_by omega

/-- The bias after a number, given how many characters there are by then. -/
def adapt (delta count : Nat) (first : Bool) : Nat :=
  let delta := if first then delta / 700 else delta / 2
  let (delta, k) := shrink (delta + delta / count) 0
  k + 36 * delta / (delta + 38)

/-- A digit below 36: the letters come first. -/
def digit (d : Nat) : Char :=
  if d < 26 then Char.ofNat ('a'.toNat + d) else Char.ofNat ('0'.toNat + (d - 26))

def digitValue? (c : Char) : Option Nat :=
  if 'a' ≤ c ∧ c ≤ 'z' then some (c.toNat - 'a'.toNat)
  else if 'A' ≤ c ∧ c ≤ 'Z' then some (c.toNat - 'A'.toNat)
  else if c.isDigit then some (c.toNat - '0'.toNat + 26)
  else none

theorem threshold_bounds (bias k : Nat) : 1 ≤ threshold bias k ∧ threshold bias k ≤ 26 := by
  unfold threshold
  omega

def number (bias q k : Nat) : List Char :=
  let t := threshold bias k
  if q < t then [digit q]
  else digit (t + (q - t) % (36 - t)) :: number bias ((q - t) / (36 - t)) (k + 36)
termination_by q
decreasing_by
  have h := threshold_bounds bias k
  have := Nat.div_le_self (q - threshold bias k) (36 - threshold bias k)
  omega

structure Writing where
  written : List Char
  count : Nat
  bias : Nat := 72
  /-- The places passed over since the last number. -/
  delta : Nat := 0
  /-- Characters below this one are written. -/
  next : Nat := 128
  basic : Nat

def Writing.pass (w : Writing) (m : Nat) (c : Char) : Writing :=
  if c.toNat < m then { w with delta := w.delta + 1 }
  else if c.toNat = m then
    { w with
      written := w.written ++ number w.bias w.delta 36
      bias := adapt w.delta (w.count + 1) (w.count == w.basic)
      delta := 0
      count := w.count + 1 }
  else w

def Writing.writeAll (label : List Char) (w : Writing) (m : Nat) : Writing :=
  let w := { w with delta := w.delta + (m - w.next) * (w.count + 1) }
  let w := label.foldl (fun w c => w.pass m c) w
  { w with delta := w.delta + 1, next := m + 1 }

def encode (label : List Char) : List Char :=
  let basic := label.filter fun c => c.toNat < 128
  let others := (label.map Char.toNat).filter fun n => 128 ≤ n
  let order := (others.mergeSort (· ≤ ·)).eraseDups
  let start : Writing :=
    { written := if basic.isEmpty then [] else basic ++ ['-'], count := basic.length,
      basic := basic.length }
  (order.foldl (Writing.writeAll label) start).written

structure Reading where
  label : List Nat
  next : Nat := 128
  place : Nat := 0
  bias : Nat := 72
  /-- The part of the present number that is read. -/
  sum : Nat := 0
  weight : Nat := 1
  k : Nat := 36
  first : Bool := true

def Reading.take (r : Reading) (d : Nat) : Reading :=
  let sum := r.sum + d * r.weight
  let t := threshold r.bias r.k
  if d < t then
    let count := r.label.length + 1
    let place := r.place + sum
    let next := r.next + place / count
    { label := r.label.insertIdx (place % count) next, next, place := place % count + 1
      bias := adapt sum count r.first, first := false }
  else { r with sum, weight := r.weight * (36 - t), k := r.k + 36 }

/-- Read digits; `none` if they end within a number. -/
def Reading.run (r : Reading) : List Char → Option (List Nat)
  | [] => if r.k = 36 then some r.label else none
  | c :: cs =>
    match digitValue? c with
    | none => none
    | some d => (r.take d).run cs

/-- The code points of a label that is written in ASCII. The numbers stand behind the last hyphen,
which is there only if some character comes before it. -/
def decode? (cs : List Char) : Option (List Nat) :=
  let digits := (cs.reverse.takeWhile (· ≠ '-')).reverse
  let front := cs.take (cs.length - digits.length)
  let basic := front.dropLast
  if front = ['-'] || basic.any fun c => 128 ≤ c.toNat then none
  else ({ label := basic.map Char.toNat } : Reading).run digits

end Switchboard.Address.Punycode
