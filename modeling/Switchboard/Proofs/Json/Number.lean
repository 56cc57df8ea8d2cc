import Mathlib.Data.List.TakeDrop
import Switchboard.Json.Reader

/-!
# Reading back what was written as a number

A number below the bound of significands, written with its decimal digits, is read as itself when
it stands in an object (`readNumber_toDigits`). What follows has to be named because a number ends
only where something else begins.
-/

namespace Switchboard.Json

/-- `cs` goes on as an object does after a value: with a comma or its closing brace. -/
def EndsValue (cs : List Char) : Prop := ∃ c r, cs = c :: r ∧ (c = ',' ∨ c = '\x7d')

theorem EndsValue.comma (r : List Char) : EndsValue (',' :: r) := ⟨',', r, rfl, .inl rfl⟩

theorem EndsValue.brace (r : List Char) : EndsValue ('\x7d' :: r) := ⟨'\x7d', r, rfl, .inr rfl⟩

/-! ## Significands -/

/-- Digits only make a significand larger. -/
theorem le_ofDigitChars (m : Nat) (ds : List Char) : m ≤ Nat.ofDigitChars 10 ds m := by
  rw [Nat.ofDigitChars_eq_ofDigitChars_zero]
  have hpos : 1 ≤ 10 ^ ds.length := Nat.one_le_pow _ _ (by decide)
  calc m = 1 * m := (Nat.one_mul m).symm
    _ ≤ 10 ^ ds.length * m := Nat.mul_le_mul_right m hpos
    _ ≤ _ := Nat.le_add_right _ _

/-- No digit is left over from a significand that stays below the bound. -/
theorem extendSignificand_eq (m : Nat) (ds : List Char)
    (h : Nat.ofDigitChars 10 ds m < significandBound) :
    extendSignificand m ds = (Nat.ofDigitChars 10 ds m, []) := by
  induction ds generalizing m with
  | nil => simp [extendSignificand]
  | cons d ds ih =>
      have hcons : Nat.ofDigitChars 10 (d :: ds) m =
          Nat.ofDigitChars 10 ds (m * 10 + digitValue d) := by
        rw [Nat.ofDigitChars_cons, Nat.mul_comm 10 m]
        rfl
      rw [hcons] at h ⊢
      have hd : m * 10 + digitValue d < significandBound :=
        Nat.lt_of_le_of_lt (le_ofDigitChars _ ds) h
      rw [extendSignificand, if_pos hd]
      exact ih _ h

/-! ## Digits -/

/-- Only zero is written with a zero in front. -/
theorem head?_toDigits_ne_zero (n : Nat) (h : 0 < n) : (Nat.toDigits 10 n).head? ≠ some '0' := by
  induction n using Nat.strongRecOn with
  | _ n ih =>
      by_cases hn : n < 10
      · rw [Nat.toDigits_of_lt_base hn]
        have hdigit : ∀ k < 10, 0 < k → Nat.digitChar k ≠ '0' := by decide
        simpa using hdigit n hn h
      · rw [Nat.toDigits_of_base_le (by decide) (by omega), List.head?_append]
        have hfront := ih (n / 10) (by omega) (by omega)
        cases hd : (Nat.toDigits 10 (n / 10)).head? with
        | none => exact absurd (List.head?_eq_none_iff.mp hd) Nat.toDigits_ne_nil
        | some c =>
            rw [hd] at hfront
            simpa using hfront

/-- The digits in front of an end of value are all that is read as digits. -/
theorem span_digits {ds rest : List Char} (hd : ∀ c ∈ ds, c.isDigit) (hr : EndsValue rest) :
    (ds ++ rest).span Char.isDigit = (ds, rest) := by
  obtain ⟨c, r, rfl, hc⟩ := hr
  have hstop : c.isDigit = false := by rcases hc with rfl | rfl <;> rfl
  rw [List.span_eq_takeWhile_dropWhile, List.takeWhile_append_of_pos hd,
    List.dropWhile_append_of_pos hd]
  simp [hstop]

/-- Nothing of an integer is left to read at the end of a value. -/
theorem readWhole_end (m : Nat) {rest : List Char} (hr : EndsValue rest) :
    readWhole false m 0 rest = .ok (.integer m, rest) := by
  obtain ⟨c, r, rfl, rfl | rfl⟩ := hr <;> rfl

/-- **Numbers are read back.** -/
theorem readNumber_toDigits (n : Nat) (hn : n < significandBound) {rest : List Char}
    (hr : EndsValue rest) :
    readNumber false (Nat.toDigits 10 n ++ rest) = .ok (.integer n, rest) := by
  by_cases hz : n = 0
  · subst hz
    rw [Nat.toDigits_zero]
    obtain ⟨c, r, rfl, rfl | rfl⟩ := hr <;> rfl
  · have hall : ∀ c ∈ Nat.toDigits 10 n, c.isDigit := fun c hc =>
      Nat.isDigit_of_mem_toDigits (by decide) (by decide) hc
    have hvalue : Nat.ofDigitChars 10 (Nat.toDigits 10 n) 0 = n := Nat.ofDigitChars_ten_toDigits
    have hhead := head?_toDigits_ne_zero n (by omega)
    cases hds : Nat.toDigits 10 n with
    | nil => exact absurd hds Nat.toDigits_ne_nil
    | cons d ds =>
        rw [hds] at hall hvalue hhead
        have hd : d ≠ '0' := by simpa using hhead
        have hdigit : d.isDigit = true := hall d List.mem_cons_self
        have hspan := span_digits (fun c hc => hall c (List.mem_cons_of_mem d hc)) hr
        have hrest : Nat.ofDigitChars 10 ds (digitValue d) = n := by
          rw [Nat.ofDigitChars_cons, Nat.mul_zero, Nat.zero_add] at hvalue
          exact hvalue
        have hext := extendSignificand_eq (digitValue d) ds (by rw [hrest]; exact hn)
        rw [List.cons_append, readNumber.eq_def]
        split
        · next h => cases h
        · next h => exact absurd (List.cons.inj h).1 hd
        · next h => exact absurd (List.cons.inj h).1 hd
        · next h =>
            obtain ⟨rfl, rfl⟩ := List.cons.inj h
            rw [if_pos hdigit, hspan]
            simp only [hext, hrest, List.length_nil]
            exact readWhole_end n hr

theorem isSpace_of_isDigit {c : Char} (h : c.isDigit = true) : isSpace c = false := by
  cases hs : isSpace c with
  | false => rfl
  | true =>
      simp only [isSpace, Bool.or_eq_true, decide_eq_true_eq] at hs
      rcases hs with ((rfl | rfl) | rfl) | rfl <;> revert h <;> decide

/-! ## Words of 16 bits -/

/-- A written word is read back. -/
theorem word16_toDigits (w : UInt16) {rest : List Char} (hr : EndsValue rest) :
    word16 (Nat.toDigits 10 w.toNat ++ rest) = .ok (w, rest) := by
  have hw : w.toNat < 65536 := w.toNat_lt
  have hread := readNumber_toDigits w.toNat (by unfold significandBound; omega) hr
  cases hds : Nat.toDigits 10 w.toNat with
  | nil => exact absurd hds Nat.toDigits_ne_nil
  | cons d ds =>
      have hdigit : d.isDigit = true :=
        Nat.isDigit_of_mem_toDigits (n := w.toNat) (b := 10) (by decide) (by decide) (by simp [hds])
      have hspace := isSpace_of_isDigit hdigit
      have hminus : d ≠ '-' := by rintro rfl; revert hdigit; decide
      rw [hds] at hread
      rw [word16, List.cons_append, skipSpace_cons, if_neg (by simp [hspace])]
      rw [List.cons_append] at hread
      simp only [hminus, hdigit, if_false, if_true, hread]
      rw [if_pos (by omega)]
      simp

end Switchboard.Json
