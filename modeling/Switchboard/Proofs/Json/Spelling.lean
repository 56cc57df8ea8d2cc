import Mathlib
import Switchboard.Proofs.Json.Grammar
import Switchboard.Proofs.Json.Text

/-!
# Texts are read as what they spell

`readText` takes exactly the characters that spell some text, up to the closing quote, and returns
that text (`readText_eq_ok_iff`). The four digits of a code unit are put together first, in both
directions (`readTextFrom_codeUnit`, `exists_codeUnit`); after that a text is gone through one
character of its own at a time. A text that is only checked for its form may have lone surrogates,
which spell nothing, so `TextBody` would not do here.
-/

namespace Switchboard.Json

/-- What is left to read after one step, whose character was `c`. -/
def TextStep.leaves (taken : List Char) (c : Char) (cs : List Char) :
    TextStep → Except Failure (List Char × List Char)
  | .next stand => readTextFrom stand taken cs
  | .yield d => readTextFrom .plain (d :: taken) cs
  | .done => .ok (taken.reverse, cs)
  | .refuse cause skip => .error ⟨cause, Text.byteCount (c :: cs) - skip⟩

theorem readTextFrom_cons (stand : TextStand) (taken : List Char) (c : Char) (cs : List Char) :
    readTextFrom stand taken (c :: cs) = (textStep stand c).leaves taken c cs := by
  rw [readTextFrom]
  cases textStep stand c <;> rfl

/-! ## Code units -/

section CodeUnits

variable {taken cs : List Char} {lead : Option Nat} {r : List Char × List Char}

theorem readTextFrom_digit {n d need : Nat} {c : Char} (hd : hexValue? c = some d)
    (hneed : 1 < need) :
    readTextFrom (.hex need (some n) lead) taken (c :: cs) =
      readTextFrom (.hex (need - 1) (some (16 * n + d)) lead) taken cs := by
  have hsize : c.utf8Size = 1 := utf8Size_of_isSome (by rw [hd]; rfl)
  rw [readTextFrom_cons]
  simp [textStep, TextStep.leaves, hd, hsize, hneed]

theorem readTextFrom_lastDigit {n d : Nat} {c : Char} (hd : hexValue? c = some d) :
    readTextFrom (.hex 1 (some n) lead) taken (c :: cs) =
      (TextStep.unit (16 * n + d) 1 lead).leaves taken c cs := by
  have hsize : c.utf8Size = 1 := utf8Size_of_isSome (by rw [hd]; rfl)
  rw [readTextFrom_cons]
  simp [textStep, hd, hsize]

/-- The four digits of a code unit are read as its value. -/
theorem readTextFrom_codeUnit {h : List Char} {n : Nat} (hu : CodeUnit h n) (lead : Option Nat)
    (taken cs : List Char) :
    ∃ c, readTextFrom (.hex 4 (some 0) lead) taken (h ++ cs) =
      (TextStep.unit n 1 lead).leaves taken c cs := by
  obtain @⟨a, b, c, d, _, _, _, _, ha, hb, hc, hd⟩ := hu
  use d
  simp only [List.cons_append, List.nil_append]
  rw [readTextFrom_digit ha (by omega), readTextFrom_digit hb (by omega),
    readTextFrom_digit hc (by omega), readTextFrom_lastDigit hd]

/-! ### Code units that are cut short -/

/-- After something that is no digit nothing is read any more. -/
theorem readTextFrom_noDigit (need : Nat) :
    readTextFrom (.hex need none lead) taken cs ≠ .ok r := by
  induction cs generalizing need with
  | nil => simp [readTextFrom]
  | cons c cs ih =>
    rw [readTextFrom_cons]
    simp only [textStep]
    split
    · exact ih (need - c.utf8Size)
    · simp [TextStep.leaves]

/-- Where a digit is needed and reading goes on, there was one. -/
theorem exists_digit {n need : Nat}
    (h : readTextFrom (.hex need (some n) lead) taken cs = .ok r) :
    ∃ c d cs', cs = c :: cs' ∧ hexValue? c = some d := by
  cases cs with
  | nil => simp [readTextFrom] at h
  | cons c cs =>
    cases hd : hexValue? c with
    | some d => exact ⟨c, d, cs, rfl, hd⟩
    | none =>
      rw [readTextFrom_cons] at h
      simp only [textStep, hd] at h
      split at h
      · exact absurd h (readTextFrom_noDigit (need - c.utf8Size))
      · cases h

/-- Where a code unit is read, there is one. -/
theorem exists_codeUnit_of_readTextFrom
    (h : readTextFrom (.hex 4 (some 0) lead) taken cs = .ok r) :
    ∃ u n c cs', CodeUnit u n ∧ cs = u ++ cs' ∧
      (TextStep.unit n 1 lead).leaves taken c cs' = .ok r := by
  obtain ⟨a, i, cs, rfl, ha⟩ := exists_digit h
  rw [readTextFrom_digit ha (by omega)] at h
  obtain ⟨b, j, cs, rfl, hb⟩ := exists_digit h
  rw [readTextFrom_digit hb (by omega)] at h
  obtain ⟨c, k, cs, rfl, hc⟩ := exists_digit h
  rw [readTextFrom_digit hc (by omega)] at h
  obtain ⟨d, l, cs, rfl, hd⟩ := exists_digit h
  rw [readTextFrom_lastDigit hd] at h
  exact ⟨[a, b, c, d], _, d, cs, .mk ha hb hc hd, rfl, h⟩

end CodeUnits

/-! ## What is read was spelled -/

section

variable {taken cs rest out : List Char}

/-- The characters `cs` spell what comes after `taken` in `out`, up to a quote before `rest`. -/
def SpellsOn (taken cs out rest : List Char) : Prop :=
  ∃ body s, Spells body s ∧ cs = body ++ '"' :: rest ∧ out = taken.reverse ++ s

theorem SpellsOn.cons {c : Char} {u : List Char}
    (hu : ∀ body s, Spells body s → Spells (u ++ body) (c :: s))
    (h : SpellsOn (c :: taken) cs out rest) : SpellsOn taken (u ++ cs) out rest := by
  obtain ⟨body, s, hs, rfl, rfl⟩ := h
  exact ⟨u ++ body, c :: s, hu body s hs, by simp, by simp⟩

/-- The partner of a leading surrogate follows it. -/
theorem exists_trailing {m : Nat}
    (h : readTextFrom (.pairSlash m) taken cs = .ok (out, rest)) :
    ∃ u n cs', CodeUnit u n ∧ isTrailing n = true ∧ cs = '\\' :: 'u' :: (u ++ cs') ∧
      readTextFrom .plain
          (Char.ofNat (0x10000 + (m - 0xD800) * 0x400 + (n - 0xDC00)) :: taken) cs' =
        .ok (out, rest) := by
  -- the second half of a pair is spelled out like the first
  obtain ⟨cs, rfl, hletter⟩ : ∃ cs', cs = '\\' :: cs' ∧
      readTextFrom (.pairLetter m) taken cs' = .ok (out, rest) := by
    cases cs with
    | nil => simp [readTextFrom] at h
    | cons c cs =>
      rw [readTextFrom_cons] at h
      simp only [textStep] at h
      split at h
      · next hc => exact ⟨cs, by rw [hc], h⟩
      · cases h
  obtain ⟨cs, rfl, hhex⟩ : ∃ cs', cs = 'u' :: cs' ∧
      readTextFrom (.hex 4 (some 0) (some m)) taken cs' = .ok (out, rest) := by
    cases cs with
    | nil => simp [readTextFrom] at hletter
    | cons c cs =>
      rw [readTextFrom_cons] at hletter
      simp only [textStep] at hletter
      split at hletter
      · next hc => exact ⟨cs, by rw [hc], hletter⟩
      · cases hletter
  obtain ⟨u, n, c, cs', hu, rfl, hunit⟩ := exists_codeUnit_of_readTextFrom hhex
  simp only [TextStep.unit] at hunit
  split at hunit
  · next htrail => exact ⟨u, n, cs', hu, htrail, rfl, hunit⟩
  · cases hunit

/-! The texts after an escape are shorter, and are assumed to be spelled. -/

section Escapes

variable {bound : Nat}
  (ih : ∀ {taken cs}, cs.length < bound → readTextFrom .plain taken cs = .ok (out, rest) →
    SpellsOn taken cs out rest)

include ih

/-- A code unit is a character by itself, or a leading surrogate with its partner after it. -/
theorem spellsOn_codeUnit {u : List Char} {n : Nat} {c : Char} (hu : CodeUnit u n)
    (hlt : cs.length < bound) (h : (TextStep.unit n 1 none).leaves taken c cs = .ok (out, rest)) :
    SpellsOn taken ('\\' :: 'u' :: u ++ cs) out rest := by
  simp only [TextStep.unit] at h
  split at h
  · cases h
  next htrail =>
  split at h
  · -- a leading surrogate needs another unit after it
    next hlead =>
    obtain ⟨u', n', cs', hu', htrail', rfl, hread⟩ := exists_trailing h
    have hlt' : cs'.length < bound := by
      simp only [List.length_cons, List.length_append] at hlt
      omega
    have hpair : ∀ body s, Spells body s → Spells
        ('\\' :: 'u' :: (u ++ '\\' :: 'u' :: u') ++ body)
        (Char.ofNat (0x10000 + (n - 0xD800) * 0x400 + (n' - 0xDC00)) :: s) := by
      intro body s hs
      simpa using Spells.pair hu hlead hu' htrail' hs
    simpa using (ih hlt' hread).cons hpair
  · next hlead =>
    have hunit : ∀ body s, Spells body s →
        Spells ('\\' :: 'u' :: u ++ body) (Char.ofNat n :: s) := by
      intro body s hs
      exact .unit hu (by simpa using htrail) (by simpa using hlead) hs
    exact (ih hlt h).cons hunit

/-- What follows a backslash spells one character. -/
theorem spellsOn_escape (hlt : cs.length < bound)
    (h : readTextFrom .escape taken cs = .ok (out, rest)) :
    SpellsOn taken ('\\' :: cs) out rest := by
  cases cs with
  | nil => simp [readTextFrom] at h
  | cons e cs =>
    rw [readTextFrom_cons] at h
    simp only [textStep] at h
    split at h
    · next he =>
      subst he
      obtain ⟨u, n, c, cs', hu, rfl, hunit⟩ := exists_codeUnit_of_readTextFrom h
      have hlt' : cs'.length < bound := by
        simp only [List.length_cons, List.length_append] at hlt
        omega
      exact spellsOn_codeUnit ih hu hlt' hunit
    · split at h
      · next d hd =>
        have hlt' : cs.length < bound := by
          simp only [List.length_cons] at hlt
          omega
        have hletter : ∀ body s, Spells body s → Spells (['\\', e] ++ body) (d :: s) :=
          fun body s hs => .letter hd hs
        exact (ih hlt' h).cons hletter
      · cases h

end Escapes

/-- **What is read as a text spells that text.** -/
theorem spells_of_readTextFrom (h : readTextFrom .plain taken cs = .ok (out, rest)) :
    SpellsOn taken cs out rest := by
  -- a pair of surrogates is one character of the text, so the induction is on the length
  induction hlength : cs.length using Nat.strongRecOn generalizing taken cs with
  | _ k ih =>
    subst hlength
    cases cs with
    | nil => simp [readTextFrom] at h
    | cons c cs =>
      rw [readTextFrom_cons] at h
      simp only [textStep] at h
      split at h
      · next hc =>
        subst hc
        cases h
        exact ⟨[], [], .nil, rfl, by simp⟩
      split at h
      · next hc =>
        subst hc
        exact spellsOn_escape (fun hlt hread => ih _ hlt hread rfl) (by simp) h
      split at h
      · cases h
      · next hquote hslash hspace =>
        have hplain : ∀ body s, Spells body s → Spells ([c] ++ body) (c :: s) :=
          fun body s hs => .plain hquote hslash hspace hs
        exact (ih cs.length (by simp) h rfl).cons hplain

end

/-! ## What is spelled is read -/

/-- **What is spelled is read**, up to the closing quote. -/
theorem Spells.readTextFrom {body s : List Char} (h : Spells body s) (taken rest : List Char) :
    readTextFrom .plain taken (body ++ '"' :: rest) = .ok (taken.reverse ++ s, rest) := by
  induction h generalizing taken with
  | nil => simp [Json.readTextFrom, textStep]
  | @plain c body s hquote hslash hspace _ ih =>
    rw [List.cons_append, readTextFrom_cons]
    simp [textStep, TextStep.leaves, hquote, hslash, hspace, ih]
  | @letter e c body s he _ ih =>
    have hu : e ≠ 'u' := by
      rintro rfl
      cases he
    simp [Json.readTextFrom, textStep, hu, he, ih]
  | @unit h body s n hu htrail hlead _ ih =>
    obtain ⟨c, hread⟩ := readTextFrom_codeUnit hu none taken (body ++ '"' :: rest)
    simp [Json.readTextFrom, textStep, hread, TextStep.unit, TextStep.leaves, htrail, hlead, ih]
  | @pair h h' body s m n hu hlead hu' htrail _ ih =>
    -- no unit is both
    have hleading : isTrailing m = false := by
      simp only [isLeading, isTrailing, Bool.and_eq_true, decide_eq_true_eq] at hlead ⊢
      simp
      omega
    obtain ⟨c, hread⟩ := readTextFrom_codeUnit hu none taken
      ('\\' :: 'u' :: (h' ++ (body ++ '"' :: rest)))
    obtain ⟨c', hread'⟩ := readTextFrom_codeUnit hu' (some m) taken (body ++ '"' :: rest)
    simp [Json.readTextFrom, textStep, hread, hread', TextStep.unit, TextStep.leaves, htrail, hlead,
      hleading, ih]

/-- **Texts are read as what they spell**, and nothing else is read as a text. -/
theorem readText_eq_ok_iff {cs rest : List Char} {s : String} :
    readText cs = .ok (s, rest) ↔ ∃ body, Spells body s.toList ∧ cs = body ++ '"' :: rest := by
  constructor
  · intro h
    rw [readText] at h
    split at h
    · next taken rest' hread =>
      cases h
      obtain ⟨body, s, hs, rfl, rfl⟩ := spells_of_readTextFrom hread
      exact ⟨body, by simpa using hs, rfl⟩
    · cases h
  · rintro ⟨body, hs, rfl⟩
    rw [readText, hs.readTextFrom]
    simp

/-! ### One reading -/

/-- A text is spelled by its characters alone. -/
theorem Spells.functional {body s s' : List Char} (h : Spells body s) (h' : Spells body s') :
    s = s' := by
  have hread := h.readTextFrom [] []
  rw [h'.readTextFrom [] []] at hread
  simpa using hread.symm

/-- Characters that need no escape spell themselves. -/
theorem spells_self {cs : List Char} (h : ∀ c ∈ cs, c ≠ '"' ∧ c ≠ '\\' ∧ ¬c < ' ') :
    Spells cs cs := by
  induction cs with
  | nil => exact .nil
  | cons c cs ih =>
      obtain ⟨⟨hquote, hslash, hspace⟩, hcs⟩ := List.forall_mem_cons.mp h
      exact .plain hquote hslash hspace (ih hcs)

end Switchboard.Json
