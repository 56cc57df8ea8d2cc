import Switchboard.Address.Ipv4

/-!
# Numeric host addresses of sixteen bytes

An address is written as eight groups of up to four hexadecimal digits with colons between them.
Two colons side by side stand for as many groups of zeros as are missing, one at least; the last
two groups may be written as four decimal numbers.
-/

namespace Switchboard.Address

inductive Ipv6Part where
  | group (n : Nat)
  /-- Two colons. -/
  | gap
deriving DecidableEq, Repr

def dottedGroups? (cs : List Char) : Option (List Ipv6Part) :=
  (dottedQuad? cs).map fun n => [.group (n.toNat / 65536), .group (n.toNat % 65536)]

/-- The parts of an address that has room for so many groups. -/
def ipv6Parts? : Nat → List Char → Option (List Ipv6Part)
  | _, [] => some []
  | 0, _ :: _ => none
  | room + 1, ':' :: cs => (ipv6Parts? room cs).map (.gap :: ·)
  | room + 1, c :: cs =>
    let digits := ((c :: cs).takeWhile fun c => (Json.hexValue? c).isSome).take 4
    match (c :: cs).drop digits.length with
    | [] => (digitsValue? 16 digits).map fun n => [.group n]
    -- four decimal numbers take the room of two groups
    | '.' :: _ => if digits.isEmpty || room = 0 then none else dottedGroups? (c :: cs)
    | ':' :: rest =>
      if rest.isEmpty then none
      else
        match digitsValue? 16 digits, ipv6Parts? room rest with
        | some n, some parts => some (.group n :: parts)
        | _, _ => none
    | _ => none

def fillGap (parts : List Ipv6Part) : Option (List Nat) :=
  let groups := fun (ps : List Ipv6Part) => ps.filterMap fun
    | .group n => some n
    | .gap => none
  let before := parts.takeWhile (· ≠ .gap)
  match parts.drop before.length with
  | [] => if before.length = 8 then some (groups before) else none
  | _ :: after =>
    if after.contains .gap || 7 < before.length + after.length then none
    else some (groups before ++ List.replicate (8 - before.length - after.length) 0 ++ groups after)

def ipv6? : List Char → Option (List Nat)
  | ':' :: ':' :: cs => ((ipv6Parts? 7 cs).map (.gap :: ·)).bind fillGap
  | ':' :: _ => none
  | cs => (ipv6Parts? 8 cs).bind fillGap

/-- The number of zeros at the front of each tail of a list. -/
def zeroRuns : List Nat → List Nat
  | [] => []
  | n :: ns =>
    let runs := zeroRuns ns
    (if n = 0 then runs.head?.getD 0 + 1 else 0) :: runs

/-- The groups of an address with colons between them, where the first of the longest runs of
zeros is left out. A single zero is written. -/
def writeIpv6 (groups : List Nat) : String :=
  let hex := fun ns => ":".intercalate (ns.map fun n => String.ofList (Nat.toDigits 16 n))
  let runs := zeroRuns groups
  let longest := runs.foldl max 0
  if longest < 2 then hex groups
  else
    let start := runs.findIdx (· = longest)
    hex (groups.take start) ++ "::" ++ hex (groups.drop (start + longest))

end Switchboard.Address
