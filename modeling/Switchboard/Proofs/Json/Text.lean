import Switchboard.Json.Reader

/-!
# Reading back what was written as a text

`readText` undoes `writeText`: whatever follows the closing quote, the text between the quotes is
read as the text that was written, escapes included (`readText_written`). The proof goes character
by character, because `readTextFrom` is between two characters of the text whenever it stands at
`plain`.
-/

namespace Switchboard.Json

/-! ## Hexadecimal digits -/

theorem hexValue?_hexDigit : ∀ n < 16, hexValue? (hexDigit n) = some n := by decide

theorem utf8Size_hexDigit : ∀ n < 16, (hexDigit n).utf8Size = 1 := by decide

/-- Control characters have two hexadecimal digits. -/
theorem toNat_lt_of_lt_space {c : Char} (h : c < ' ') : c.toNat < 0x20 := h

/-! ## One character -/

/-- The escape with which a control character is written stands for that character. -/
theorem readTextFrom_control {c : Char} (h : c < ' ') (taken rest : List Char) :
    readTextFrom .plain taken
        ('\\' :: 'u' :: '0' :: '0' :: hexDigit (c.toNat / 16) :: hexDigit (c.toNat % 16) :: rest) =
      readTextFrom .plain (c :: taken) rest := by
  have hc := toNat_lt_of_lt_space h
  have hhi := hexValue?_hexDigit (c.toNat / 16) (by omega)
  have hlo := hexValue?_hexDigit (c.toNat % 16) (by omega)
  have shi := utf8Size_hexDigit (c.toNat / 16) (by omega)
  have slo := utf8Size_hexDigit (c.toNat % 16) (by omega)
  have hzero : hexValue? '0' = some 0 := by decide
  have szero : ('0' : Char).utf8Size = 1 := by decide
  have hvalue : 16 * (c.toNat / 16) + c.toNat % 16 = c.toNat := by omega
  -- the value is far below the surrogates
  have htrail : isTrailing c.toNat = false := by simp [isTrailing]; omega
  have hlead : isLeading c.toNat = false := by simp [isLeading]; omega
  simp [readTextFrom, textStep, TextStep.unit, hhi, hlo, shi, slo, hzero, szero, hvalue, htrail,
    hlead]

/-- What is written for a character is read as that character. -/
theorem readTextFrom_writeChar (c : Char) (taken rest : List Char) :
    readTextFrom .plain taken (writeChar c ++ rest) = readTextFrom .plain (c :: taken) rest := by
  unfold writeChar
  split
  · next h => subst h; rfl
  split
  · next h => subst h; rfl
  split
  · next h => subst h; rfl
  split
  · next h => subst h; rfl
  split
  · next h => subst h; rfl
  split
  · next h => subst h; rfl
  split
  · next h => subst h; rfl
  split
  · next h => exact readTextFrom_control h taken rest
  · next hquote hslash _ _ _ _ _ hspace =>
      simp [readTextFrom, textStep, hquote, hslash, hspace]

/-! ## Whole texts -/

theorem readTextFrom_written (cs taken rest : List Char) :
    readTextFrom .plain taken (cs.flatMap writeChar ++ '"' :: rest) =
      .ok (taken.reverse ++ cs, rest) := by
  induction cs generalizing taken with
  | nil => simp [readTextFrom, textStep]
  | cons c cs ih =>
      rw [List.flatMap_cons, List.append_assoc, readTextFrom_writeChar, ih]
      simp

/-- **Texts are read back.** From after its opening quote, a written text is read as itself and
what follows its closing quote is left. -/
theorem readText_written (s : String) (rest : List Char) :
    readText (s.toList.flatMap writeChar ++ '"' :: rest) = .ok (s, rest) := by
  rw [readText, readTextFrom_written]
  simp

/-- A written text begins with its opening quote. -/
theorem writeText_append (s : String) (rest : List Char) :
    writeText s ++ rest = '"' :: (s.toList.flatMap writeChar ++ '"' :: rest) := by
  simp [writeText]

/-- A reader of texts reads a written text back. -/
theorem text_writeText (s : String) (rest : List Char) :
    text (writeText s ++ rest) = .ok (s, rest) := by
  rw [text, writeText_append, skipSpace_cons, if_neg (by decide)]
  exact readText_written s rest

end Switchboard.Json
