import Switchboard.Proofs.Json.Acceptance
import Switchboard.Proofs.Json.Spelling

/-!
# What is read does not depend on what follows

A value is read in the same way wherever it stands: what follows it decides neither whether a reader
takes it nor what it is taken for, and not even what is wrong with it. `Settles` says this of a
reader and the characters that it has before it, and `Reader.Local` of a reader and all values. Only
the place of a fault is counted from the end of the text, so it is left out here (`unplaced`).

Values that a reader refuses are the larger part of this. A number may be out of range, a surrogate
may have no partner, and a value of another kind is read before it is complained about
(`Value.unexpected_cause`).
-/

namespace Switchboard.Json

variable {α β σ : Type}

/-! ## Results without the place of a fault -/

/-- The result of a reader but for the place of a fault. -/
def unplaced (result : Except Failure α) : Except Cause α := result.mapError Failure.cause

@[simp] theorem unplaced_ok (a : α) : unplaced (.ok a) = .ok a := rfl

@[simp] theorem unplaced_error (f : Failure) :
    unplaced (.error f : Except Failure α) = .error f.cause := rfl

theorem Reader.map_map {γ : Type} (read : Reader α) (f : α → β) (g : β → γ) :
    (read.map f).map g = read.map fun a => g (f a) := by
  funext cs
  simp only [Reader.map]
  cases read cs <;> rfl

@[simp] theorem unplaced_map (f : α → β) (read : Reader α) (cs : List Char) :
    unplaced (read.map f cs) = (unplaced (read cs)).map fun p => (f p.1, p.2) := by
  rw [Reader.map]
  cases read cs <;> rfl

/-- `read rest` is what is read when `rest` follows. Whatever follows in the sense of `After`, the
result is one and the same, and what follows is left. -/
def Settles (After : List Char → Prop) (read : Reader α) : Prop :=
  ∃ result : Except Cause α, ∀ rest, After rest → unplaced (read rest) = result.map (·, rest)

section Settles

variable {After : List Char → Prop} {read read' : Reader α}

/-! ### Readers that settle -/

/-- A reader that is always through settles. -/
theorem settles_of_ok {a : α} (h : ∀ rest, After rest → read rest = .ok (a, rest)) :
    Settles After read := by
  refine ⟨.ok a, fun rest hrest => ?_⟩
  rw [h rest hrest]
  rfl

/-- A reader that always fails for the same cause settles. -/
theorem settles_of_error {cause : Cause}
    (h : ∀ rest, After rest → ∃ left, read rest = .error ⟨cause, left⟩) : Settles After read := by
  refine ⟨.error cause, fun rest hrest => ?_⟩
  obtain ⟨left, hread⟩ := h rest hrest
  rw [hread]
  rfl

theorem Settles.map (h : Settles After read) (f : α → β) : Settles After (read.map f) := by
  obtain ⟨result, hread⟩ := h
  refine ⟨result.map f, fun rest hrest => ?_⟩
  rw [unplaced_map, hread rest hrest]
  cases result <;> rfl

theorem Settles.congr (h : Settles After read)
    (hsame : ∀ rest, After rest → read' rest = read rest) : Settles After read' := by
  obtain ⟨result, hread⟩ := h
  refine ⟨result, fun rest hrest => ?_⟩
  rw [hsame rest hrest, hread rest hrest]

theorem Settles.mono {After' : List Char → Prop} (h : Settles After read)
    (himp : ∀ rest, After' rest → After rest) : Settles After' read := by
  obtain ⟨result, hread⟩ := h
  exact ⟨result, fun rest hrest => hread rest (himp rest hrest)⟩

end Settles

theorem afterValue_nil : AfterValue [] := .inl rfl

/-! ## Numbers -/

def NoDigit (cs : List Char) : Prop := ∀ c r, cs = c :: r → c.isDigit = false

theorem noDigit_cons {c : Char} {r : List Char} (h : c.isDigit = false) : NoDigit (c :: r) := by
  intro c' r' heq
  obtain ⟨rfl, -⟩ := List.cons.inj heq
  exact h

/-- Nothing that may follow a value goes on a number. -/
theorem AfterValue.not_number {rest : List Char} (h : AfterValue rest) :
    rest = [] ∨ ∃ c r, rest = c :: r ∧ c.isDigit = false ∧ c ≠ '.' ∧ c ≠ 'e' ∧ c ≠ 'E' := by
  obtain rfl | ⟨c, r, rfl, hc⟩ := h
  · exact .inl rfl
  · refine .inr ⟨c, r, rfl, ?_⟩
    simp only [isSpace, Bool.or_eq_true, decide_eq_true_eq] at hc
    rcases hc with (((rfl | rfl) | rfl) | rfl) | rfl | rfl | rfl <;> decide

theorem AfterValue.noDigit {rest : List Char} (h : AfterValue rest) : NoDigit rest := by
  obtain rfl | ⟨c, r, rfl, hc, -⟩ := h.not_number
  · exact nofun
  · exact noDigit_cons hc

theorem span_digits_of_noDigit {ds rest : List Char} (hd : ∀ c ∈ ds, c.isDigit = true)
    (hr : NoDigit rest) : (ds ++ rest).span Char.isDigit = (ds, rest) := by
  rw [List.span_eq_takeWhile_dropWhile, List.takeWhile_append_of_pos hd,
    List.dropWhile_append_of_pos hd]
  cases rest with
  | nil => simp
  | cons c r => simp [hr c r rfl]

theorem settles_ofParts (negative : Bool) (m : Nat) (e : Int) :
    Settles AfterValue (Number.ofParts negative m e) := by
  rcases hscaled : scaled? 3 (Float.ofNat m) e with _ | x
  · apply settles_of_error
    intro rest _
    exact ⟨_, by simp only [Number.ofParts, hscaled]; rfl⟩
  · apply settles_of_ok
    intro rest _
    simp only [Number.ofParts, hscaled]
    rfl

/-! ### Exponents -/

/-- Whether an exponent goes beyond the bound is seen from its digits. -/
theorem readExponentDigits_cases (e : Nat) {ds : List Char} (hd : ∀ c ∈ ds, c.isDigit = true) :
    (∃ x, ∀ rest, NoDigit rest → readExponentDigits e (ds ++ rest) = (.value x, rest)) ∨
      ∀ rest, NoDigit rest → ∃ left, readExponentDigits e (ds ++ rest) = (.beyond left, rest) := by
  induction ds generalizing e with
  | nil =>
      refine .inl ⟨e, fun rest hrest => ?_⟩
      cases rest with
      | nil => rfl
      | cons c r => simp [readExponentDigits, hrest c r rfl]
  | cons d ds ih =>
      obtain ⟨hdigit, hds⟩ := List.forall_mem_cons.mp hd
      by_cases hbound : e * 10 + digitValue d < exponentBound
      · simp only [List.cons_append, readExponentDigits, hdigit, hbound, if_true]
        exact ih _ hds
      · refine .inr fun rest hrest => ⟨ds ++ rest, ?_⟩
        have hskip : (ds ++ rest).dropWhile Char.isDigit = rest := by
          have hspan := span_digits_of_noDigit hds hrest
          rw [List.span_eq_takeWhile_dropWhile] at hspan
          exact congrArg Prod.snd hspan
        simp only [List.cons_append, readExponentDigits, hdigit, hbound, if_true, if_false, hskip]

/-- The digits of an exponent, from after its sign. -/
theorem settles_exponentDigits (negative down : Bool) (m : Nat) (e : Int) {d : Char}
    {ds : List Char} (hds : ∀ c ∈ ds, c.isDigit = true) :
    Settles AfterValue fun rest =>
      match readExponentDigits (digitValue d) (ds ++ rest) with
      | (.value x, rest) => Number.ofParts negative m (if down then e - x else e + x) rest
      | (.beyond left, rest) =>
        if m ≠ 0 ∧ !down then .error (.here .numberOutOfRange left)
        else .ok (.float (if negative then -0 else 0), rest) := by
  obtain ⟨x, hvalue⟩ | hbeyond := readExponentDigits_cases (digitValue d) hds
  · apply (settles_ofParts negative m (if down then e - x else e + x)).congr
    intro rest hrest
    rw [hvalue rest hrest.noDigit]
  · by_cases hlarge : m ≠ 0 ∧ !down
    · apply settles_of_error
      intro rest hrest
      obtain ⟨left, hread⟩ := hbeyond rest hrest.noDigit
      rw [hread]
      exact ⟨_, if_pos hlarge⟩
    · apply settles_of_ok
      intro rest hrest
      obtain ⟨left, hread⟩ := hbeyond rest hrest.noDigit
      rw [hread]
      exact if_neg hlarge

theorem settles_readExponent (negative : Bool) (m : Nat) (e : Int) {sign ds : List Char}
    (hsign : sign = [] ∨ sign = ['+'] ∨ sign = ['-']) (hds : Digits ds) :
    Settles AfterValue fun rest => readExponent negative m e (sign ++ (ds ++ rest)) := by
  obtain ⟨d, ds, rfl, hd, hall⟩ := hds.uncons
  have hunsigned : d ≠ '+' ∧ d ≠ '-' := by
    constructor <;> (rintro rfl; revert hd; decide)
  rcases hsign with rfl | rfl | rfl
  · apply (settles_exponentDigits negative false m e hall).congr
    intro rest _
    simp [readExponent, hunsigned, hd]
    rfl
  · apply (settles_exponentDigits negative false m e hall).congr
    intro rest _
    simp only [List.cons_append, List.nil_append, readExponent, hd, if_true]
    rfl
  · apply (settles_exponentDigits negative true m e hall).congr
    intro rest _
    simp only [List.cons_append, List.nil_append, readExponent, hd, if_true]
    rfl

/-- An exponent, or none. -/
theorem settles_readTail (negative : Bool) (m : Nat) (e : Int) {es : List Char}
    (hes : ExponentPart es) : Settles AfterValue fun rest => readTail negative m e (es ++ rest) := by
  cases hes with
  | none =>
      apply (settles_ofParts negative m e).congr
      intro rest hrest
      obtain rfl | ⟨c, r, rfl, -, -, he, hE⟩ := hrest.not_number
      · rfl
      · simp [readTail, he, hE]
  | digits he hsign hds =>
      apply (settles_readExponent negative m e hsign hds).congr
      intro rest _
      rw [List.cons_append, List.append_assoc]
      rcases he with rfl | rfl <;> rfl

/-- What follows the digits of a fraction or of a whole part ends them. -/
theorem ExponentPart.noDigit {es : List Char} (hes : ExponentPart es) {rest : List Char}
    (hrest : AfterValue rest) : NoDigit (es ++ rest) := by
  cases hes with
  | none => exact hrest.noDigit
  | digits he _ _ => exact noDigit_cons (by rcases he with rfl | rfl <;> decide)

/-! ### Whole numbers and fractions -/

theorem settles_readFraction (negative : Bool) (m : Nat) (e : Int) {ds es : List Char}
    (hds : Digits ds) (hes : ExponentPart es) :
    Settles AfterValue fun rest => readFraction negative m e (ds ++ (es ++ rest)) := by
  apply (settles_readTail negative (extendSignificand m ds).1
    (e - (ds.length - (extendSignificand m ds).2.length : Nat)) hes).congr
  intro rest hrest
  obtain ⟨d, ds, rfl, -⟩ := hds.uncons
  rw [readFraction, span_digits_of_noDigit hds.2 (hes.noDigit hrest)]

theorem settles_readWhole (negative : Bool) (m left : Nat) {fs es : List Char}
    (hfs : FractionPart fs) (hes : ExponentPart es) :
    Settles AfterValue fun rest => readWhole negative m left (fs ++ (es ++ rest)) := by
  cases hfs with
  | digits hds => exact settles_readFraction negative m left hds hes
  | none =>
  cases hes with
  | digits he hsign hds =>
      apply (settles_readExponent negative m left hsign hds).congr
      intro rest _
      rw [List.nil_append, List.cons_append, List.append_assoc]
      rcases he with rfl | rfl <;> rfl
  | none =>
      -- the digits are all there is
      have hplain : ∀ rest, AfterValue rest → readWhole negative m left rest =
          if 0 < left then Number.ofParts negative m left rest
          else if !negative then .ok (.integer m, rest)
          else if 0 < m ∧ m ≤ 0x8000000000000000 then .ok (.integer (-m), rest)
          else .ok (.float (-(Float.ofNat m)), rest) := by
        intro rest hrest
        obtain rfl | ⟨c, r, rfl, -, hpoint, he, hE⟩ := hrest.not_number
        · rfl
        · simp [readWhole, hpoint, he, hE]
      by_cases hleft : 0 < left
      · apply (settles_ofParts negative m left).congr
        intro rest hrest
        exact (hplain rest hrest).trans (if_pos hleft)
      · simp only [hleft, if_false] at hplain
        split_ifs at hplain
        all_goals exact settles_of_ok hplain

/-- How a number is read does not depend on what follows. -/
theorem settles_readNumber (negative : Bool) {ws fs es : List Char} (hws : WholePart ws)
    (hfs : FractionPart fs) (hes : ExponentPart es) :
    Settles AfterValue fun rest => readNumber negative (ws ++ (fs ++ (es ++ rest))) := by
  have hend : ∀ rest, AfterValue rest → NoDigit (fs ++ (es ++ rest)) := by
    intro rest hrest
    cases hfs with
    | none => exact hes.noDigit hrest
    | digits _ => exact noDigit_cons (by decide)
  cases hws with
  | zero =>
      apply (settles_readWhole negative 0 0 hfs hes).congr
      intro rest hrest
      have hstop := hend rest hrest
      rw [List.cons_append, List.nil_append]
      generalize fs ++ (es ++ rest) = cs at hstop ⊢
      cases cs with
      | nil => rfl
      | cons c r => simp [readNumber, hstop c r rfl]
  | @digits d ds hd hds =>
      obtain ⟨hdigit, hall⟩ := List.forall_mem_cons.mp hds.2
      apply (settles_readWhole negative (extendSignificand (digitValue d) ds).1
        (extendSignificand (digitValue d) ds).2.length hfs hes).congr
      intro rest hrest
      have hspan := span_digits_of_noDigit hall (hend rest hrest)
      rw [List.cons_append, readNumber.eq_def]
      split
      · next h => cases h
      · next h => exact absurd (List.cons.inj h).1 hd
      · next h => exact absurd (List.cons.inj h).1 hd
      · next h =>
          obtain ⟨rfl, rfl⟩ := List.cons.inj h
          rw [if_pos hdigit, hspan]

/-! ## Texts -/

/-- A text ends with its quote, so that anything may follow it. -/
abbrev Anything : List Char → Prop := fun _ => True

/-- How a text is read on, from one of the places at which a character of it may begin. -/
def SettlesText (stand : TextStand) (body : List Char) : Prop :=
  ∀ taken, Settles Anything fun rest => readTextFrom stand taken (body ++ '"' :: rest)

/-! ### Steps in a text -/

theorem settles_refuse {stand : TextStand} {c : Char} {cause : Cause}
    (h : textStep stand c = .refuse cause 1) (body : List Char) : SettlesText stand (c :: body) := by
  intro taken
  apply settles_of_error
  intro rest _
  rw [List.cons_append, readTextFrom_cons, h]
  exact ⟨_, rfl⟩

theorem exists_escapeLetter {e : Char} (h : e ∈ ['"', '\\', '/', 'b', 'f', 'n', 'r', 't']) :
    e ≠ 'u' ∧ ∃ d, escapeLetter? e = some d := by
  simp only [List.mem_cons, List.not_mem_nil, or_false] at h
  rcases h with rfl | rfl | rfl | rfl | rfl | rfl | rfl | rfl <;> exact ⟨by decide, _, rfl⟩

/-- After the digits of a code unit it is seen whether a surrogate has its partner. -/
theorem settles_unit {u body : List Char} {n : Nat} (hu : CodeUnit u n) {lead : Option Nat}
    (hplain : SettlesText .plain body) (hpair : ∀ lead, SettlesText (.pairSlash lead) body) :
    SettlesText (.hex 4 (some 0) lead) (u ++ body) := by
  intro taken
  have hread : ∀ rest, ∃ c, readTextFrom (.hex 4 (some 0) lead) taken (u ++ body ++ '"' :: rest) =
      (TextStep.unit n 1 lead).leaves taken c (body ++ '"' :: rest) := by
    intro rest
    rw [List.append_assoc]
    exact readTextFrom_codeUnit hu lead taken _
  have hstep : (∃ d, TextStep.unit n 1 lead = .yield d) ∨
      (∃ lead', TextStep.unit n 1 lead = .next (.pairSlash lead')) ∨
      TextStep.unit n 1 lead = .refuse .loneSurrogate 1 := by
    unfold TextStep.unit
    split
    · split_ifs <;> simp
    · split_ifs <;> simp
  obtain ⟨d, hunit⟩ | ⟨lead', hunit⟩ | hunit := hstep <;> rw [hunit] at hread
  · apply (hplain (d :: taken)).congr
    intro rest _
    obtain ⟨c, hrest⟩ := hread rest
    exact hrest
  · apply (hpair lead' taken).congr
    intro rest _
    obtain ⟨c, hrest⟩ := hread rest
    exact hrest
  · apply settles_of_error
    intro rest _
    obtain ⟨c, hrest⟩ := hread rest
    exact ⟨_, hrest⟩

/-- The surrogates of a text may have no partner, and then it cannot be read; but this does not
depend on what follows the text. -/
theorem TextBody.settles {body : List Char} (h : TextBody body) :
    SettlesText .plain body ∧ ∀ lead, SettlesText (.pairSlash lead) body := by
  induction h with
  | nil =>
      refine ⟨fun taken => settles_of_ok fun rest _ => rfl, fun lead taken => ?_⟩
      exact settles_of_error fun rest _ => ⟨_, rfl⟩
  | @plain c body hquote hslash hspace _ ih =>
      refine ⟨fun taken => ?_, fun lead => ?_⟩
      · apply (ih.1 (c :: taken)).congr
        intro rest _
        rw [List.cons_append, readTextFrom_cons]
        simp [textStep, TextStep.leaves, hquote, hslash, hspace]
      · have hrefuse : textStep (.pairSlash lead) c = .refuse .unpairedSurrogate 1 := by
          simp [textStep, hslash]
        exact settles_refuse hrefuse body
  | @letter e body he _ ih =>
      obtain ⟨hu, d, hd⟩ := exists_escapeLetter he
      refine ⟨fun taken => ?_, fun lead taken => ?_⟩
      · apply (ih.1 (d :: taken)).congr
        intro rest _
        rw [List.cons_append, List.cons_append, readTextFrom_cons]
        simp [textStep, TextStep.leaves, readTextFrom_cons, hu, hd]
      · have hrefuse : textStep (.pairLetter lead) e = .refuse .unpairedSurrogate 1 := by
          simp [textStep, hu]
        apply (settles_refuse hrefuse body taken).congr
        intro rest _
        rw [List.cons_append, readTextFrom_cons]
        rfl
  | @unit u body n hu _ ih =>
      refine ⟨fun taken => ?_, fun lead taken => ?_⟩
      · have hsingle : SettlesText (.hex 4 (some 0) none) (u ++ body) := settles_unit hu ih.1 ih.2
        apply (hsingle taken).congr
        intro rest _
        rfl
      · have hsecond : SettlesText (.hex 4 (some 0) (some lead)) (u ++ body) :=
          settles_unit hu ih.1 ih.2
        apply (hsecond taken).congr
        intro rest _
        rfl

/-- A text is read in the same way wherever it stands. -/
theorem TextBody.settles_readText {body : List Char} (h : TextBody body) :
    Settles Anything fun rest => readText (body ++ '"' :: rest) := by
  apply ((h.settles.1 []).map String.ofList).congr
  intro rest _
  rw [readText, Reader.map]
  cases readTextFrom .plain [] (body ++ '"' :: rest) <;> rfl

/-! ## Values that are not what is wanted -/

def complaint (found : α → Cause) (result : Except Failure (α × List Char)) : Failure :=
  match result with
  | .ok (a, rest) => .here (found a) rest
  | .error f => f

/-- A complaint about what was found does not depend on what follows. -/
theorem Settles.complaint_cause {After : List Char → Prop} {read : Reader α}
    (h : Settles After read) (found : α → Cause) {rest rest' : List Char} (hrest : After rest)
    (hrest' : After rest') :
    (complaint found (read rest)).cause = (complaint found (read rest')).cause := by
  have hcause : ∀ result, (complaint found result).cause =
      match unplaced result with
      | .ok p => found p.1
      | .error cause => cause := by
    intro result
    cases result <;> rfl
  obtain ⟨result, hread⟩ := h
  rw [hcause, hcause, hread rest hrest, hread rest' hrest']
  cases result <;> rfl

/-! ### What was found instead -/

theorem unexpected_quote (expected : String) (cs : List Char) :
    unexpected expected ('"' :: cs) =
      complaint (fun s => .unexpected (.text s) expected) (readText cs) := by
  simp only [unexpected]
  cases readText cs <;> rfl

theorem unexpected_minus (expected : String) (cs : List Char) :
    unexpected expected ('-' :: cs) =
      complaint (fun n => .unexpected n.found expected) (readNumber true cs) := by
  simp only [unexpected]
  cases readNumber true cs <;> rfl

theorem unexpected_digit (expected : String) {c : Char} (hc : c.isDigit = true) (cs : List Char) :
    unexpected expected (c :: cs) =
      complaint (fun n => .unexpected n.found expected) (readNumber false (c :: cs)) := by
  simp only [unexpected]
  -- a digit is none of the characters that are looked for first
  split <;> rename_i heq <;> cases heq
  case h_8 =>
    rw [if_pos hc]
    cases readNumber false (c :: cs) <;> rfl
  all_goals exact absurd hc (by decide)

/-- The complaint about a value depends on the value alone. -/
theorem Value.unexpected_cause {v : List Char} (h : Value v) (expected : String)
    {rest : List Char} (hrest : AfterValue rest) :
    (unexpected expected (v ++ rest)).cause = (unexpected expected v).cause := by
  cases h with
  | word hw =>
      simp only [List.mem_cons, List.not_mem_nil, or_false] at hw
      rcases hw with rfl | rfl | rfl <;> rfl
  | number hn =>
      obtain ⟨hsign, hws, hfs, hes⟩ := hn
      have hnumber := fun negative => (settles_readNumber negative hws hfs hes).complaint_cause
        (fun n => .unexpected n.found expected) hrest afterValue_nil
      rcases hsign with rfl | rfl
      · obtain ⟨d, ds, rfl, hd⟩ := hws.head
        have hsame := hnumber false
        simp only [List.append_nil, List.cons_append, List.append_assoc, List.nil_append] at hsame ⊢
        rw [unexpected_digit expected hd, unexpected_digit expected hd]
        exact hsame
      · have hsame := hnumber true
        simp only [List.append_nil, List.cons_append, List.append_assoc, List.nil_append] at hsame ⊢
        rw [unexpected_minus, unexpected_minus]
        exact hsame
  | @text body hb =>
      have hany : ∀ cs, Anything cs := fun _ => trivial
      have hsame := hb.settles_readText.complaint_cause
        (fun s => .unexpected (.text s) expected) (hany rest) (hany [])
      rw [List.cons_append, List.append_assoc, unexpected_quote, unexpected_quote]
      exact hsame
  | list _ _ => rfl
  | object _ _ _ => rfl

/-! ## Readers of values -/

/-- `read` reads a value in the same way wherever it stands. -/
def Reader.Local (read : Reader α) : Prop :=
  ∀ {sp v rest : List Char}, Blank sp → Value v → AfterValue rest →
    unplaced (read (sp ++ (v ++ rest))) = (unplaced (read v)).map fun p => (p.1, rest)

/-- A reader is local that settles on every value. -/
theorem Reader.local_of_settles {read : Reader α} (hskip : ∀ cs, read (skipSpace cs) = read cs)
    (h : ∀ v, Value v → Settles AfterValue fun rest => read (v ++ rest)) : read.Local := by
  intro sp v rest hsp hv hrest
  have hspace : read (sp ++ (v ++ rest)) = read (v ++ rest) := by
    rw [← hskip, hv.skipSpace_append hsp]
  obtain ⟨result, hread⟩ := h v hv
  have halone : unplaced (read v) = result.map (·, []) := by
    simpa only [List.append_nil] using hread [] afterValue_nil
  rw [hspace, hread rest hrest, halone]
  cases result <;> rfl

theorem Reader.Local.settles {read : Reader α} (h : read.Local) {v : List Char} (hv : Value v) :
    Settles AfterValue fun rest => read (v ++ rest) := by
  refine ⟨(unplaced (read v)).map Prod.fst, fun rest hrest => ?_⟩
  have hread := h .nil hv hrest
  rw [List.nil_append] at hread
  rw [hread]
  cases unplaced (read v) <;> rfl

theorem Reader.Local.map {read : Reader α} (h : read.Local) (f : α → β) : (read.map f).Local := by
  intro sp v rest hsp hv hrest
  rw [unplaced_map, unplaced_map, h hsp hv hrest]
  cases unplaced (read v) <;> rfl

/-- A value of another kind is complained about. -/
theorem settles_unexpected {read : Reader α} {v : List Char} (hv : Value v) (expected : String)
    (h : ∀ rest, read (v ++ rest) = .error (unexpected expected (v ++ rest))) :
    Settles AfterValue fun rest => read (v ++ rest) := by
  refine ⟨.error (unexpected expected v).cause, fun rest hrest => ?_⟩
  show unplaced (read (v ++ rest)) = _
  rw [h rest, unplaced_error, hv.unexpected_cause expected hrest]
  rfl

/-! ### The readers in use -/

theorem text_cons {c : Char} (hspace : isSpace c = false) (hquote : c ≠ '"') (cs : List Char) :
    text (c :: cs) = .error (unexpected "a string" (c :: cs)) := by
  rw [text, skipSpace_cons, if_neg (by simp [hspace])]
  split
  · next heq => cases heq
  · next heq => exact absurd (List.cons.inj heq).1 hquote
  · rfl

/-- Only a text begins with a quote. -/
theorem Value.exists_body {r : List Char} (h : Value ('"' :: r)) :
    ∃ body, TextBody body ∧ r = body ++ ['"'] := by
  generalize heq : '"' :: r = v at h
  cases h with
  | word hw =>
      subst heq
      simp at hw
  | number hn =>
      obtain ⟨hsign, hws, -, -⟩ := hn
      obtain ⟨d, ds, rfl, hd⟩ := hws.head
      rcases hsign with rfl | rfl
      · obtain ⟨rfl, -⟩ := List.cons.inj heq
        exact absurd hd (by decide)
      · exact absurd (List.cons.inj heq).1 (by decide)
  | text hb => exact ⟨_, hb, (List.cons.inj heq).2⟩
  | list _ _ => exact absurd (List.cons.inj heq).1 (by decide)
  | object _ _ _ => exact absurd (List.cons.inj heq).1 (by decide)

/-- Reading a text is local. -/
theorem local_text : text.Local := by
  apply Reader.local_of_settles
  · intro cs
    rw [text, text, skipSpace_skipSpace]
  intro v hv
  obtain ⟨c, r, rfl, hspace, -⟩ := hv.head
  by_cases hquote : c = '"'
  · subst hquote
    obtain ⟨body, hb, rfl⟩ := hv.exists_body
    apply (hb.settles_readText.mono fun _ _ => trivial).congr
    intro rest _
    rw [List.cons_append, List.append_assoc]
    rfl
  · exact settles_unexpected hv "a string" fun rest => text_cons hspace hquote (r ++ rest)

/-- What may be null is read locally, if it is when it is not. -/
theorem local_optional {read : Reader α} (h : read.Local) : (optional read).Local := by
  apply Reader.local_of_settles
  · intro cs
    rw [optional, optional, skipSpace_skipSpace]
  intro v hv
  obtain ⟨c, r, rfl, hspace, -, hnull⟩ := hv.head
  by_cases hn : c = 'n'
  · rw [hnull hn]
    exact settles_of_ok fun rest _ => rfl
  · apply ((h.settles hv).map some).congr
    intro rest _
    rw [List.cons_append, optional, skipSpace_cons, if_neg (by simp [hspace])]
    split
    · next heq => exact absurd (List.cons.inj heq).1 hn
    · rfl

/-- A value that is kept as it is written is not refused. -/
theorem local_raw : raw.Local := by
  apply Reader.local_of_settles
  · intro cs
    rw [raw, raw, skipSpace_skipSpace]
  intro v hv
  exact settles_of_ok fun rest hrest => hv.raw_append hrest

end Switchboard.Json
