import Switchboard.Proofs.Json.Object
import Switchboard.Proofs.Json.Spelling

/-!
# What is written is a value

Texts, numbers and objects are written as JSON values by the grammar, so that what is written can
stand wherever a value may stand: as a member of another object, and as a payload.
-/

namespace Switchboard.Json

/-- What is written between the quotes of a text spells that text. -/
theorem spells_written (s : String) : Spells (s.toList.flatMap writeChar) s.toList := by
  obtain ⟨body, hspells, heq⟩ := readText_eq_ok_iff.mp (readText_written s [])
  rw [List.append_cancel_right heq]
  exact hspells

theorem value_writeText (s : String) : Value (writeText s) := .text (spells_written s).textBody

theorem value_toDigits (n : Nat) : Value (Nat.toDigits 10 n) := by
  have hdigits : Digits (Nat.toDigits 10 n) :=
    ⟨Nat.toDigits_ne_nil, fun c hc => Nat.isDigit_of_mem_toDigits (by decide) (by decide) hc⟩
  have hwhole : WholePart (Nat.toDigits 10 n) := by
    -- only zero starts with a zero
    cases n with
    | zero => exact .zero
    | succ n =>
        have hhead := head?_toDigits_ne_zero (n + 1) n.succ_pos
        cases hds : Nat.toDigits 10 (n + 1) with
        | nil => exact absurd hds Nat.toDigits_ne_nil
        | cons d ds =>
            rw [hds] at hhead hdigits
            exact .digits (by simpa using hhead) hdigits
  have hnumber : NumberText ([] ++ (Nat.toDigits 10 n ++ ([] ++ []))) :=
    .mk (.inl rfl) hwhole .none .none
  rw [List.append_nil, List.append_nil, List.nil_append] at hnumber
  exact .number hnumber

/-- The written members of an object, by what stands between the quotes of their names. -/
theorem members_membersFrom (first : Bool) (ms : List (String × List Char)) :
    Members first (ms.map fun m => (m.1.toList.flatMap writeChar, m.2)) (membersFrom first ms) := by
  induction ms generalizing first with
  | nil =>
      cases first
      · exact .close .nil
      · exact .close .nil
  | cons m ms ih =>
      have hmember : Member (m.1.toList.flatMap writeChar, m.2)
          ([] ++ '"' :: (m.1.toList.flatMap writeChar ++ '"' :: ([] ++ ':' :: ([] ++ m.2)))) :=
        .mk .nil .nil .nil
      have hmore := ih false
      cases first with
      | true => simpa [membersFrom, writeText] using Enclosed.first hmember hmore
      | false => simpa [membersFrom, writeText] using Enclosed.next .nil hmember hmore

/-- **A written object is a value** if the values of its members are. -/
theorem value_writeObject {ms : List (String × List Char)} (h : ∀ m ∈ ms, Value m.2) :
    Value (writeObject ms) := by
  rw [writeObject_eq]
  refine .object (members_membersFrom true ms) ?_ ?_
  · rw [List.forall_mem_map]
    exact fun m _ => (spells_written m.1).textBody
  · rw [List.forall_mem_map]
    exact h

end Switchboard.Json
