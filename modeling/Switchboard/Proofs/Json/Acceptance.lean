import Switchboard.Proofs.Json.Check

/-!
# Values are accepted

A value is accepted by `skipValue` wherever something follows it that may follow a value
(`Value.skipValue_append`). The proof is by induction on the grammar: `Accepted v` says that the
check passes over `v` inside any open brackets, so that it can be used for the elements of a list
and the members of an object. A number needs the character after it, which must not go it on.
-/

namespace Switchboard.Json

/-- What may follow a value in a text: its end, space, or what goes on a list or an object. -/
def AfterValue (cs : List Char) : Prop :=
  cs = [] ∨ ∃ c r, cs = c :: r ∧ (isSpace c = true ∨ c = ',' ∨ c = ']' ∨ c = '\x7d')

/-! ### What may follow a value -/

/-- What ends a value may follow one. -/
theorem EndsValue.afterValue {cs : List Char} (h : EndsValue cs) : AfterValue cs := by
  obtain ⟨c, r, rfl, hc⟩ := h
  rcases hc with rfl | rfl
  · exact .inr ⟨_, r, rfl, by simp⟩
  · exact .inr ⟨_, r, rfl, by simp⟩

theorem Blank.afterValue_append {sp cs : List Char} (hsp : Blank sp) (h : AfterValue cs) :
    AfterValue (sp ++ cs) := by
  cases sp with
  | nil => exact h
  | cons c sp => exact .inr ⟨c, sp ++ cs, rfl, .inl (blank_cons.mp hsp).1⟩

/-- The part of a list or an object that follows an element or a member. -/
theorem Enclosed.afterValue {α : Type} (nest : Nest) {Part : α → List Char → Prop} {as : List α}
    {t : List Char} (h : Enclosed nest.closer Part false as t) (rest : List Char) :
    AfterValue (t ++ rest) := by
  cases h with
  | @close _ sp hsp =>
    rw [List.append_assoc]
    refine hsp.afterValue_append (.inr ⟨nest.closer, rest, rfl, ?_⟩)
    cases nest <;> simp [Nest.closer]
  | @next a as sp t cs hsp ht hcs =>
    rw [List.append_assoc]
    exact hsp.afterValue_append (.inr ⟨',', t ++ cs ++ rest, rfl, by simp⟩)

section Complete

variable {rest : List Char} {nests : List Nest}

/-! ### Steps of the check -/

theorem scan_of_next {stand : Stand} {c : Char} {cs : List Char} (stand' : Stand)
    (nests' : List Nest) (h : step stand nests c = .next stand' nests') :
    scan stand nests (c :: cs) = scan stand' nests' cs := by
  rw [scan_cons, h]
  rfl

theorem scan_of_closed {stand : Stand} {nests' : List Nest} {c : Char} {cs : List Char}
    (h : step stand nests c = .closed nests') :
    scan stand nests (c :: cs) = scan .more nests' cs := by
  rw [scan_cons, h, leaves_closed]

/-- Where characters do not matter, they are passed over. -/
theorem scan_append {stand : Stand} {u : List Char}
    (h : ∀ c ∈ u, step stand nests c = .next stand nests) (cs : List Char) :
    scan stand nests (u ++ cs) = scan stand nests cs := by
  induction u with
  | nil => rfl
  | cons c u ih =>
    rw [List.forall_mem_cons] at h
    rw [List.cons_append, scan_of_next _ _ h.1, ih h.2]

/-! ### Blanks -/

/-- Blanks change nothing where something else is still to come. -/
theorem step_blank {stand : Stand} (h : stand ∈ [.value, .element, .member, .name, .colon])
    {sp : List Char} (hsp : Blank sp) : ∀ c ∈ sp, step stand nests c = .next stand nests := by
  intro c hc
  have hspace := hsp c hc
  simp only [List.mem_cons, List.not_mem_nil, or_false] at h
  rcases h with rfl | rfl | rfl | rfl | rfl <;> simp [step, hspace]

theorem step_more_blank {nest : Nest} {sp : List Char} (hsp : Blank sp) :
    ∀ c ∈ sp, step .more (nest :: nests) c = .next .more (nest :: nests) := by
  intro c hc
  simp [step, Step.after, hsp c hc]

/-! ### Texts -/

/-- The four digits of a code unit are passed over. -/
theorem scan_codeUnit {h : List Char} {n : Nat} (hu : CodeUnit h n) (isName : Bool)
    (cs : List Char) :
    scan (.hex isName 4 true) nests (h ++ cs) = scan (.text isName) nests cs := by
  cases hu with
  | @mk a b c d i j k l ha hb hc hd =>
    have hsize : ∀ {x : Char} {m : Nat}, hexValue? x = some m → x.utf8Size = 1 := fun hx =>
      utf8Size_of_isSome (by rw [hx]; rfl)
    rw [List.cons_append, List.cons_append, List.cons_append, List.cons_append, List.nil_append,
      scan_of_next (.hex isName 3 true) nests (by simp [step, ha, hsize ha]),
      scan_of_next (.hex isName 2 true) nests (by simp [step, hb, hsize hb]),
      scan_of_next (.hex isName 1 true) nests (by simp [step, hc, hsize hc]),
      scan_of_next (.text isName) nests (by simp [step, hd, hsize hd])]

/-- A text is passed over as a whole. -/
theorem scan_textBody {body : List Char} (h : TextBody body) (isName : Bool) (cs : List Char) :
    scan (.text isName) nests (body ++ '"' :: cs) = scan (.text isName) nests ('"' :: cs) := by
  induction h with
  | nil => rfl
  | @plain c body hquote hslash hspace _ ih =>
    rw [List.cons_append,
      scan_of_next (.text isName) nests (by simp [step, hquote, hslash, hspace]), ih]
  | @letter e body he _ ih =>
    have hu : e ≠ 'u' := by rintro rfl; revert he; decide
    rw [List.cons_append, List.cons_append, scan_of_next (.escape isName) nests (by simp [step]),
      scan_of_next (.text isName) nests (by simp only [step, if_neg hu, if_pos he]), ih]
  | @unit h body n hu _ ih =>
    rw [List.cons_append, List.cons_append, scan_of_next (.escape isName) nests (by simp [step]),
      scan_of_next (.hex isName 4 true) nests (by simp [step]), List.append_assoc,
      scan_codeUnit hu, ih]

/-! ### Numbers -/

/-- Nothing that may follow a value goes on a number. -/
theorem scan_digits_end {stand : Stand} (h : stand ∈ [.zero, .whole, .fraction, .exponentDigits])
    (hrest : AfterValue rest) : scan stand nests rest = scan .more nests rest := by
  simp only [List.mem_cons, List.not_mem_nil, or_false] at h
  obtain rfl | ⟨c, r, rfl, hc⟩ := hrest
  · rcases h with rfl | rfl | rfl | rfl <;> rfl
  · have hplain : c.isDigit = false ∧ c ≠ '.' ∧ ¬(c = 'e' ∨ c = 'E') := by
      simp only [isSpace, Bool.or_eq_true, decide_eq_true_eq] at hc
      rcases hc with (((rfl | rfl) | rfl) | rfl) | rfl | rfl | rfl <;> decide
    obtain ⟨hdigit, hpoint, hexp⟩ := hplain
    rw [scan_cons, scan_cons]
    rcases h with rfl | rfl | rfl | rfl <;> simp [step, Step.afterDigits, hdigit, hpoint, hexp]

theorem scan_digits {stand : Stand} (h : stand ∈ [.whole, .fraction, .exponentDigits])
    {ds : List Char} (hds : MoreDigits ds) (cs : List Char) :
    scan stand nests (ds ++ cs) = scan stand nests cs := by
  apply scan_append
  intro c hc
  have hdigit := hds c hc
  simp only [List.mem_cons, List.not_mem_nil, or_false] at h
  rcases h with rfl | rfl | rfl <;> simp [step, hdigit]

theorem Digits.uncons {ds : List Char} (h : Digits ds) :
    ∃ d ds', ds = d :: ds' ∧ d.isDigit = true ∧ MoreDigits ds' := by
  obtain ⟨hne, hall⟩ := h
  obtain ⟨d, ds', rfl⟩ := List.exists_cons_of_ne_nil hne
  exact ⟨d, ds', rfl, List.forall_mem_cons.mp hall⟩

theorem scan_exponentPart {stand : Stand} (h : stand ∈ [.zero, .whole, .fraction])
    {es : List Char} (hes : ExponentPart es) (hrest : AfterValue rest) :
    scan stand nests (es ++ rest) = scan .more nests rest := by
  simp only [List.mem_cons, List.not_mem_nil, or_false] at h
  cases hes with
  | none => rcases h with rfl | rfl | rfl <;> exact scan_digits_end (by simp) hrest
  | @digits e sign ds he hsign hds =>
    have hplain : e.isDigit = false ∧ e ≠ '.' := by rcases he with rfl | rfl <;> decide
    have hletter : step stand nests e = .next .exponent nests := by
      rcases h with rfl | rfl | rfl <;> simp [step, Step.afterDigits, hplain, he]
    obtain ⟨d, ds, rfl, hd, hall⟩ := hds.uncons
    have hdigits : scan .exponentDigits nests (ds ++ rest) = scan .more nests rest := by
      rw [scan_digits (by simp) hall, scan_digits_end (by simp) hrest]
    rw [List.cons_append, scan_of_next .exponent nests hletter, List.append_assoc, List.cons_append]
    -- without a sign the first digit follows at once
    rcases hsign with rfl | rfl | rfl
    · have hunsigned : ¬(d = '+' ∨ d = '-') := by rintro (rfl | rfl) <;> revert hd <;> decide
      rw [List.nil_append,
        scan_of_next .exponentDigits nests (by simp only [step, if_neg hunsigned, if_pos hd]),
        hdigits]
    all_goals
      rw [List.cons_append, List.nil_append,
        scan_of_next .exponentSign nests (by simp [step]),
        scan_of_next .exponentDigits nests (by simp [step, hd]), hdigits]

theorem scan_fractionPart {stand : Stand} (h : stand ∈ [.zero, .whole]) {fs es : List Char}
    (hfs : FractionPart fs) (hes : ExponentPart es) (hrest : AfterValue rest) :
    scan stand nests (fs ++ (es ++ rest)) = scan .more nests rest := by
  simp only [List.mem_cons, List.not_mem_nil, or_false] at h
  cases hfs with
  | none => exact scan_exponentPart (by rcases h with rfl | rfl <;> simp) hes hrest
  | @digits ds hds =>
    obtain ⟨d, ds, rfl, hd, hall⟩ := hds.uncons
    have hpoint : step stand nests '.' = .next .point nests := by
      rcases h with rfl | rfl <;> simp [step]
    rw [List.cons_append, scan_of_next .point nests hpoint, List.cons_append,
      scan_of_next .fraction nests (by simp [step, hd]), scan_digits (by simp) hall]
    exact scan_exponentPart (by simp) hes hrest

/-- The digits before the point, from the start of a number or from after its sign. -/
theorem scan_wholePart {stand : Stand} (h : stand ∈ [.value, .minus]) {ws fs es : List Char}
    (hws : WholePart ws) (hfs : FractionPart fs) (hes : ExponentPart es) (hrest : AfterValue rest) :
    scan stand nests (ws ++ (fs ++ (es ++ rest))) = scan .more nests rest := by
  simp only [List.mem_cons, List.not_mem_nil, or_false] at h
  cases hws with
  | zero =>
    have hzero : step stand nests '0' = .next .zero nests := by
      rcases h with rfl | rfl
      · simp [step, Step.start, isSpace]
      · simp [step]
    rw [List.cons_append, List.nil_append, scan_of_next .zero nests hzero]
    exact scan_fractionPart (by simp) hfs hes hrest
  | @digits d ds hd hds =>
    obtain ⟨hdigit, hall⟩ := List.forall_mem_cons.mp hds.2
    have hfirst : step stand nests d = .next .whole nests := by
      have hspace := isSpace_of_isDigit hdigit
      -- a digit is none of the characters with which another value starts
      have hother : d ≠ 'n' ∧ d ≠ 't' ∧ d ≠ 'f' ∧ d ≠ '-' := by
        refine ⟨?_, ?_, ?_, ?_⟩ <;> (rintro rfl; revert hdigit; decide)
      rcases h with rfl | rfl
      · simp [step, Step.start, hspace, hother, hd, hdigit]
      · simp [step, hd, hdigit]
    rw [List.cons_append, scan_of_next .whole nests hfirst, scan_digits (by simp) hall]
    exact scan_fractionPart (by simp) hfs hes hrest

/-- A number is passed over as a whole, up to what may follow a value. -/
theorem scan_number {ds : List Char} (h : NumberText ds) (hrest : AfterValue rest) :
    scan .value nests (ds ++ rest) = scan .more nests rest := by
  obtain ⟨hsign, hws, hfs, hes⟩ := h
  rcases hsign with rfl | rfl
  · simpa using scan_wholePart (by simp) hws hfs hes hrest
  · rw [List.append_assoc, List.cons_append, List.nil_append,
      scan_of_next .minus nests (by simp [step, Step.start, isSpace])]
    simpa using scan_wholePart (by simp) hws hfs hes hrest

/-! ### Lists and objects -/

/-- `v` is accepted as a value wherever it is followed by what may follow a value. -/
def Accepted (v : List Char) : Prop :=
  ∀ nests rest, AfterValue rest → scan .value nests (v ++ rest) = scan .more nests rest

/-- A name, a colon and a value, from after the opening quote of the name. -/
theorem scan_member {key v sp sp' : List Char} (hkey : TextBody key) (hv : Accepted v)
    (hsp : Blank sp) (hsp' : Blank sp') (hrest : AfterValue rest) :
    scan (.text true) nests (key ++ '"' :: (sp ++ ':' :: (sp' ++ (v ++ rest)))) =
      scan .more nests rest := by
  rw [scan_textBody hkey, scan_of_next .colon nests (by simp [step]),
    scan_append (step_blank (by simp) hsp), scan_of_next .value nests (by simp [step, isSpace]),
    scan_append (step_blank (by simp) hsp')]
  exact hv nests rest hrest

/-- After an element of a list the rest of the list is accepted. -/
theorem scan_elements {vs : List (List Char)} {t : List Char} (h : Elements false vs t)
    (hvs : ∀ v ∈ vs, Accepted v) :
    scan .more (.list :: nests) (t ++ rest) = scan .more nests rest := by
  -- on the elements that are left; the first has been dealt with
  generalize hfirst : false = first at h
  induction h with
  | @close _ sp hsp =>
    rw [List.append_assoc, scan_append (step_more_blank hsp)]
    exact scan_of_closed (by simp [step, Step.after, isSpace, Nest.closer])
  | first => cases hfirst
  | @next v vs sp t cs hsp ht hcs ih =>
    rw [List.forall_mem_cons] at hvs
    obtain ⟨hsp'⟩ := ht
    rw [List.append_assoc, scan_append (step_more_blank hsp), List.cons_append,
      scan_of_next .value (.list :: nests) (by simp [step, Step.after, isSpace, Nest.closer]),
      List.append_assoc, List.append_assoc, scan_append (step_blank (by simp) hsp'),
      hvs.1 _ _ (Enclosed.afterValue .list hcs rest)]
    exact ih hvs.2 rfl

/-- After a member of an object the rest of the object is accepted. -/
theorem scan_members {ms : List (List Char × List Char)} {t : List Char} (h : Members false ms t)
    (hkeys : ∀ m ∈ ms, TextBody m.1) (hvs : ∀ m ∈ ms, Accepted m.2) :
    scan .more (.object :: nests) (t ++ rest) = scan .more nests rest := by
  generalize hfirst : false = first at h
  induction h with
  | @close _ sp hsp =>
    rw [List.append_assoc, scan_append (step_more_blank hsp)]
    exact scan_of_closed (by simp [step, Step.after, isSpace, Nest.closer])
  | first => cases hfirst
  | @next m ms sp t cs hsp ht hcs ih =>
    rw [List.forall_mem_cons] at hkeys hvs
    obtain ⟨hsp', hsp₁, hsp₂⟩ := ht
    have hend := Enclosed.afterValue .object hcs rest
    rw [List.append_assoc, scan_append (step_more_blank hsp), List.cons_append,
      scan_of_next .name (.object :: nests) (by simp [step, Step.after, isSpace, Nest.closer]),
      List.append_assoc, List.append_assoc, scan_append (step_blank (by simp) hsp'),
      List.cons_append, scan_of_next (.text true) (.object :: nests) (by
        simp [step, Step.beginName, isSpace])]
    simp only [List.append_assoc, List.cons_append]
    rw [scan_member hkeys.1 hvs.1 hsp₁ hsp₂ hend]
    exact ih hkeys.2 hvs.2 rfl

/-- A list of accepted values is accepted. -/
theorem accepted_list {vs : List (List Char)} {t : List Char} (h : Elements true vs t)
    (hvs : ∀ v ∈ vs, Value v) (hacc : ∀ v ∈ vs, Accepted v) : Accepted ('[' :: t) := by
  intro nests rest _
  rw [List.cons_append,
    scan_of_next .element (.list :: nests) (by simp [step, Step.start, isSpace])]
  cases h with
  | @close _ sp hsp =>
    rw [List.append_assoc, scan_append (step_blank (by simp) hsp)]
    exact scan_of_closed (by simp [step, isSpace])
  | @first v vs t cs ht hcs =>
    rw [List.forall_mem_cons] at hvs hacc
    obtain ⟨hsp⟩ := ht
    -- the first value does not begin like the end of the list
    obtain ⟨c, r, rfl, hc, hclose, -⟩ := hvs.1.head
    have hstart : ∀ cs, scan .element (.list :: nests) (c :: cs) =
        scan .value (.list :: nests) (c :: cs) := by
      intro cs
      rw [scan_cons, scan_cons]
      simp [step, hc, hclose]
    rw [List.append_assoc, List.append_assoc, scan_append (step_blank (by simp) hsp),
      List.cons_append, hstart, ← List.cons_append,
      hacc.1 _ _ (Enclosed.afterValue .list hcs rest)]
    exact scan_elements hcs hacc.2

/-- An object of accepted values is accepted. -/
theorem accepted_object {ms : List (List Char × List Char)} {t : List Char} (h : Members true ms t)
    (hkeys : ∀ m ∈ ms, TextBody m.1) (hvs : ∀ m ∈ ms, Accepted m.2) : Accepted ('\x7b' :: t) := by
  intro nests rest _
  rw [List.cons_append,
    scan_of_next .member (.object :: nests) (by simp [step, Step.start, isSpace])]
  cases h with
  | @close _ sp hsp =>
    rw [List.append_assoc, scan_append (step_blank (by simp) hsp)]
    exact scan_of_closed (by simp [step, isSpace])
  | @first m ms t cs ht hcs =>
    rw [List.forall_mem_cons] at hkeys hvs
    obtain ⟨hsp, hsp₁, hsp₂⟩ := ht
    have hend := Enclosed.afterValue .object hcs rest
    simp only [List.append_assoc, List.cons_append]
    rw [scan_append (step_blank (by simp) hsp),
      scan_of_next (.text true) (.object :: nests) (by simp [step, Step.beginName, isSpace]),
      scan_member hkeys.1 hvs.1 hsp₁ hsp₂ hend]
    exact scan_members hcs hkeys.2 hvs.2

/-! ### All values -/

theorem scan_word (ws cs : List Char) (hne : ws ≠ []) :
    scan (.word ws) nests (ws ++ cs) = scan .more nests cs := by
  induction ws with
  | nil => exact absurd rfl hne
  | cons w ws ih =>
    rw [List.cons_append]
    cases ws with
    | nil => exact scan_of_closed (by simp [step])
    | cons w' ws =>
      rw [scan_of_next (.word (w' :: ws)) nests (by simp [step])]
      exact ih (List.cons_ne_nil w' ws)

theorem accepted_word {w : List Char}
    (hw : w ∈ [['n', 'u', 'l', 'l'], ['t', 'r', 'u', 'e'], ['f', 'a', 'l', 's', 'e']]) :
    Accepted w := by
  intro nests rest _
  have hstart : ∃ c ws, w = c :: ws ∧ ws ≠ [] ∧
      step .value nests c = .next (.word ws) nests := by
    simp only [List.mem_cons, List.not_mem_nil, or_false] at hw
    rcases hw with rfl | rfl | rfl <;>
      exact ⟨_, _, rfl, List.cons_ne_nil _ _, by simp [step, Step.start, isSpace]⟩
  obtain ⟨c, ws, rfl, hne, hstep⟩ := hstart
  rw [List.cons_append, scan_of_next (.word ws) nests hstep, scan_word ws rest hne]

/-- **Values are accepted**, inside any brackets. -/
theorem Value.accepted {v : List Char} (h : Value v) : Accepted v := by
  induction h with
  | word hw => exact accepted_word hw
  | number hn => exact fun nests rest hrest => scan_number hn hrest
  | @text body hb =>
    intro nests rest _
    rw [List.cons_append,
      scan_of_next (.text false) nests (by simp [step, Step.start, isSpace]), List.append_assoc,
      List.cons_append, List.nil_append, scan_textBody hb]
    exact scan_of_closed (by simp [step])
  | list he hv ih => exact accepted_list he hv ih
  | object hm hk _ ih => exact accepted_object hm hk ih

/-- A value with space before it is passed over. -/
theorem Value.skipValue_append {v : List Char} (h : Value v) {sp : List Char} (hsp : Blank sp)
    (hrest : AfterValue rest) : skipValue (sp ++ (v ++ rest)) = .ok rest := by
  rw [skipValue, scan_append (step_blank (by simp) hsp), h.accepted [] rest hrest, scan_more_nil]

/-- A value is kept as it is written. -/
theorem Value.raw_append {v : List Char} (h : Value v) (hrest : AfterValue rest) :
    raw (v ++ rest) = .ok (String.ofList v, rest) := by
  have hskip : skipSpace (v ++ rest) = v ++ rest := h.skipSpace_append .nil rest
  have hcheck : skipValue (v ++ rest) = .ok rest := h.skipValue_append .nil hrest
  simp [raw, hskip, hcheck]

end Complete

end Switchboard.Json
