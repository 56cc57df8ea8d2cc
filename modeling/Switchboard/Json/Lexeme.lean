import Switchboard.Json.Fault

/-!
# Blanks, words and digits

The smallest pieces of a JSON text that several readers share.
-/

namespace Switchboard.Json

/-- The four characters that may stand between the tokens of a JSON text. -/
def isSpace (c : Char) : Bool := c = ' ' || c = '\n' || c = '\t' || c = '\r'

/-- What follows the space in front of `cs`. -/
def skipSpace (cs : List Char) : List Char := cs.dropWhile isSpace

def hexValue? (c : Char) : Option Nat :=
  let n := c.toNat
  if 0x30 ≤ n ∧ n ≤ 0x39 then some (n - 0x30)
  else if 0x61 ≤ n ∧ n ≤ 0x66 then some (n - 0x61 + 10)
  else if 0x41 ≤ n ∧ n ≤ 0x46 then some (n - 0x41 + 10)
  else none

def readWord : List Char → List Char → Except Failure (List Char)
  | [], cs => .ok cs
  | _ :: _, [] => .error (.past .endInValue [])
  | w :: ws, c :: cs => if c = w then readWord ws cs else .error (.past .expectedWord (c :: cs))

/-! ### Small laws -/

@[simp]
theorem skipSpace_nil : skipSpace [] = [] := rfl

theorem skipSpace_cons (c : Char) (cs : List Char) :
    skipSpace (c :: cs) = if isSpace c then skipSpace cs else c :: cs := by
  rw [skipSpace, List.dropWhile_cons]
  rfl

@[simp]
theorem skipSpace_skipSpace (cs : List Char) : skipSpace (skipSpace cs) = skipSpace cs := by
  induction cs with
  | nil => rfl
  | cons c cs ih =>
    by_cases h : isSpace c
    · simpa [skipSpace_cons, h] using ih
    · simp [skipSpace_cons, h]

theorem length_skipSpace_le (cs : List Char) : (skipSpace cs).length ≤ cs.length :=
  (List.dropWhile_suffix isSpace).length_le

end Switchboard.Json
