/-!
# Blank text

A character is blank when Unicode gives it the property `White_Space`. `trim` cuts blank
characters off both ends of a text, `dropTrailing` any class of characters off its end, and
`byteCount` is the length of a text in UTF-8. Larger classes of characters are given as lists of
closed ranges of code points.
-/

namespace Switchboard.Text

def inRanges (ranges : List (Nat × Nat)) (c : Char) : Bool :=
  ranges.any fun r => r.1 ≤ c.toNat && c.toNat ≤ r.2

/-- The characters with the Unicode property `White_Space`. -/
def isBlank (c : Char) : Bool :=
  let n := c.toNat
  (9 ≤ n && n ≤ 13) || n == 0x20 || n == 0x85 || n == 0xA0 || n == 0x1680 ||
    (0x2000 ≤ n && n ≤ 0x200A) || n == 0x2028 || n == 0x2029 || n == 0x202F || n == 0x205F ||
    n == 0x3000

/-- Drop characters from the end of `cs` for as long as they satisfy `p`. -/
def dropTrailing (p : Char → Bool) (cs : List Char) : List Char :=
  (cs.reverse.dropWhile p).reverse

def trim (cs : List Char) : List Char :=
  dropTrailing isBlank (cs.dropWhile isBlank)

def isAllBlank (s : String) : Bool := s.toList.all isBlank

def byteCount (cs : List Char) : Nat := cs.foldl (fun n c => n + c.utf8Size) 0

/-! ### Small laws -/

@[simp]
theorem dropTrailing_nil (p : Char → Bool) : dropTrailing p [] = [] := rfl

@[simp]
theorem byteCount_nil : byteCount [] = 0 := rfl

theorem foldl_utf8Size (n : Nat) (cs : List Char) :
    cs.foldl (fun n c => n + c.utf8Size) n = n + byteCount cs := by
  induction cs generalizing n with
  | nil => rfl
  | cons c cs ih =>
    simp only [byteCount, List.foldl_cons]
    rw [ih, ih (0 + c.utf8Size)]
    omega

@[simp]
theorem byteCount_cons (c : Char) (cs : List Char) :
    byteCount (c :: cs) = c.utf8Size + byteCount cs := by
  rw [byteCount, List.foldl_cons, foldl_utf8Size, Nat.zero_add]

end Switchboard.Text
