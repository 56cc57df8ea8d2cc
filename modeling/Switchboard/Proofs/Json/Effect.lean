import Switchboard.Proofs.Json.Opening

/-!
# What a whole record amounts to

The members of an object have their effects one after the other, and so do the elements of a list;
`Opening` goes only as far as some first parts. Here the closing bracket is reached
(`Enclosed.split`). What comes of an object is the fold of the effects of its members
(`Record.OfValues.unplaced_read_object`), and a record is read from a value in the same way wherever
that value stands (`Record.OfValues.local_read`). So a record can be an element of a list again, and
a text that is a record as a whole is one value among blanks (`Reader.Local.readWhole?_eq_ok_iff`).

What a member does depends on its name and not on how the name is spelled, so an effect can be told
by the name alone (`Record.effect_eq`).
-/

namespace Switchboard.Json

variable {σ α β : Type} {record : Record σ α} {s : σ} {first : Bool} {sp cs rest : List Char}

/-! ## The first parts and the others -/

/-- The first parts between brackets are an opening, and the others are between brackets again. -/
theorem Enclosed.split {closer : Char} {Part : β → List Char → Prop} {as bs : List β}
    (h : Enclosed closer Part first (as ++ bs) cs) :
    ∃ p q, cs = p ++ q ∧ Opening Part first as p ∧
      Enclosed closer Part (first && as.isEmpty) bs q := by
  induction as generalizing first cs with
  | nil =>
      refine ⟨[], cs, rfl, .nil, ?_⟩
      rw [List.isEmpty_nil, Bool.and_true]
      exact h
  | cons a as ih =>
      rw [List.cons_append] at h
      rw [List.isEmpty_cons, Bool.and_false]
      cases h with
      | @first _ _ t cs ht hcs =>
          obtain ⟨p, q, rfl, hp, hq⟩ := ih hcs
          exact ⟨t ++ p, q, (List.append_assoc t p q).symm, .first ht hp, hq⟩
      | @next _ _ sep t cs hsep ht hcs =>
          obtain ⟨p, q, rfl, hp, hq⟩ := ih hcs
          exact ⟨sep ++ ',' :: (t ++ p), q, by simp, .next hsep ht hp, hq⟩

/-- Between brackets that nothing stands between there is space. -/
theorem Enclosed.exists_blank {closer : Char} {Part : β → List Char → Prop}
    (h : Enclosed closer Part first [] cs) : ∃ sp, Blank sp ∧ cs = sp ++ [closer] := by
  cases h with
  | close hsp => exact ⟨_, hsp, rfl⟩

/-- What follows the parts of a list or an object, up to its closing bracket. -/
theorem Blank.afterValue_closer (hsp : Blank sp) (nest : Nest) (rest : List Char) :
    AfterValue (sp ++ nest.closer :: rest) := by
  apply hsp.afterValue_append
  refine .inr ⟨nest.closer, rest, rfl, ?_⟩
  cases nest <;> simp [Nest.closer]

/-! ## Objects -/

/-- **The members of an object have their effects one after the other.** -/
theorem Record.OfValues.unplaced_readMembers (hrecord : record.OfValues)
    {ms : List (List Char × List Char)} (h : Members first ms cs)
    (hms : ∀ m ∈ ms, TextBody m.1 ∧ Value m.2) (rest : List Char) :
    unplaced (readMembers record ((cs ++ rest).length + 1) first s (cs ++ rest)) =
      (ms.foldlM record.effect s).map (·, rest) := by
  rw [← List.append_nil ms] at h
  obtain ⟨p, q, rfl, hp, hq⟩ := h.split
  obtain ⟨sp, hsp, rfl⟩ := hq.exists_blank
  have hafter : AfterValue (sp ++ '\x7d' :: rest) := hsp.afterValue_closer .object rest
  -- the budget of the rounds is split into one for each member and one for the end
  rw [readMembers_budget hrecord (Nat.lt_succ_self _)
    (by omega : _ < (p ++ (sp ++ ['\x7d']) ++ rest).length + 1 + ms.length)]
  simp only [List.append_assoc, List.cons_append, List.nil_append]
  rw [unplaced_readMembers_opening hrecord hp hms fun _ => hafter]
  cases ms.foldlM record.effect s with
  | error cause => rfl
  | ok s' =>
      show unplaced (readMembers record (_ + 1) _ s' (sp ++ '\x7d' :: rest)) = _
      rw [readMembers_brace hsp]
      rfl

/-- The value that comes of members, read in this order. -/
def Record.amount (record : Record σ α) (ms : List (List Char × List Char)) : Except Cause α :=
  (ms.foldlM record.effect record.empty).bind record.finish

/-- **What comes of an object** is told by its members, each on its own, and by their order. -/
theorem Record.OfValues.unplaced_read_object (hrecord : record.OfValues)
    {ms : List (List Char × List Char)} (h : Members true ms cs)
    (hms : ∀ m ∈ ms, TextBody m.1 ∧ Value m.2) (hsp : Blank sp) (rest : List Char) :
    unplaced (record.read (sp ++ '\x7b' :: (cs ++ rest))) =
      (record.amount ms).map (·, rest) := by
  have hmembers := hrecord.unplaced_readMembers (s := record.empty) h hms rest
  rw [record.read_object hsp, Record.amount]
  generalize ms.foldlM record.effect record.empty = parts at hmembers ⊢
  cases hread : readMembers record ((cs ++ rest).length + 1) true record.empty (cs ++ rest) with
  | error f =>
      rw [hread] at hmembers
      cases parts with
      | error cause => exact congrArg Except.error (Except.error.inj hmembers)
      | ok s => cases hmembers
  | ok p =>
      rw [hread] at hmembers
      cases parts with
      | error cause => cases hmembers
      | ok s =>
          cases hmembers
          simp only [Record.close, Except.bind]
          cases record.finish s <;> rfl

/-! ## Lists -/

theorem nextElement_bracket (hsp : Blank sp) (first : Bool) (r : List Char) :
    nextElement first (sp ++ ']' :: r) = .ok none := by
  rw [nextElement, hsp.skipSpace_cons rfl]
  rfl

/-- At the closing bracket no further element is read. -/
theorem readElements_bracket (hsp : Blank sp) (count : Nat) (s : σ)
    (reads : List (σ → Reader σ)) (r : List Char) :
    readElements count s (sp ++ ']' :: r) reads = .ok (count, s, sp ++ ']' :: r) := by
  cases reads with
  | nil => rfl
  | cons read reads => rw [readElements, nextElement_bracket hsp]

theorem listEnd_bracket (hsp : Blank sp) (r : List Char) : listEnd (sp ++ ']' :: r) = .ok r := by
  rw [listEnd, hsp.skipSpace_cons rfl]
  rfl

/-- After the parts of a record a list must not have another element. -/
theorem listEnd_element {v : List Char} {vs : List (List Char)} (h : Elements false (v :: vs) cs)
    (hv : Value v) (rest : List Char) :
    ∃ r, listEnd (cs ++ rest) = .error (.past .trailingCharacters r) := by
  obtain ⟨c, u, rfl, hspace, hend, -⟩ := hv.head
  cases h with
  | @next _ _ sep _ q hsep ht hq =>
      obtain @⟨sp, -, hsp⟩ := ht
      have heq : sep ++ ',' :: (sp ++ c :: u ++ q) ++ rest =
          sep ++ ',' :: (sp ++ c :: (u ++ (q ++ rest))) := by simp
      refine ⟨c :: (u ++ (q ++ rest)), ?_⟩
      rw [heq, listEnd, hsep.skipSpace_cons rfl]
      simp only [hsp.skipSpace_cons hspace]
      split
      · next hbracket => exact absurd (List.cons.inj hbracket).1 hend
      · rfl

/-- How a record is closed does not depend on what follows. -/
theorem settles_close (record : Record σ α) (s : σ) : Settles Anything (record.close s) := by
  cases hfinish : record.finish s with
  | error cause =>
      apply settles_of_error
      intro rest _
      exact ⟨_, by rw [Record.close, hfinish]; rfl⟩
  | ok a =>
      apply settles_of_ok
      intro rest _
      rw [Record.close, hfinish]

/-- The end of a list does not depend on what follows it, whether it comes too soon, too late or
where it should. -/
theorem settles_endList {ws : List (List Char)} (h : Elements first ws cs)
    (hws : ∀ w ∈ ws, Value w) (hfirst : ws ≠ [] → first = false) (count : Nat) (s : σ) :
    Settles Anything fun rest => record.endList count s (cs ++ rest) := by
  by_cases hfew : count < record.required
  · apply settles_of_error
    intro rest _
    exact ⟨_, by rw [Record.endList, if_pos hfew]; rfl⟩
  cases ws with
  | nil =>
      obtain ⟨sp, hsp, rfl⟩ := h.exists_blank
      apply (settles_close record s).congr
      intro rest _
      rw [Record.endList, if_neg hfew, List.append_assoc, List.cons_append, List.nil_append,
        listEnd_bracket hsp]
  | cons w ws =>
      obtain rfl := hfirst (List.cons_ne_nil w ws)
      apply settles_of_error
      intro rest _
      obtain ⟨r, htoo⟩ := listEnd_element h (hws w List.mem_cons_self) rest
      exact ⟨_, by rw [Record.endList, if_neg hfew, htoo]; rfl⟩

/-! ### Lists as a whole -/

theorem Record.unplaced_read_list (record : Record σ α) (hsp : Blank sp) (cs : List Char) :
    unplaced (record.read (sp ++ '[' :: cs)) =
      (unplaced (readElements 0 record.empty cs record.elements)).bind fun p =>
        unplaced (record.endList p.1 p.2.1 p.2.2) := by
  rw [record.read_list hsp]
  cases readElements 0 record.empty cs record.elements <;> rfl

/-- **The first elements of a list have their effects one after the other.** They are as many as
there are parts, unless the list ends before. -/
theorem Record.OfValues.unplaced_read_elements (hrecord : record.OfValues)
    {us ws : List (List Char)} (h : Elements true (us ++ ws) cs) (hus : ∀ u ∈ us, Value u)
    (hlength : us.length ≤ record.elements.length)
    (hfull : ws ≠ [] → us.length = record.elements.length) :
    ∃ q, Elements us.isEmpty ws q ∧ ∀ rest, unplaced (record.read ('[' :: (cs ++ rest))) =
      ((record.elements.zip us).foldlM elementEffect record.empty).bind fun s =>
        unplaced (record.endList us.length s (q ++ rest)) := by
  obtain ⟨p, q, rfl, hp, hq⟩ := h.split
  rw [Bool.true_and] at hq
  refine ⟨q, hq, fun rest => ?_⟩
  have hp : Opening Element (0 == 0) us p := hp
  have hafter : us ≠ [] → AfterValue (q ++ rest) := by
    intro hne
    rw [List.isEmpty_eq_false_iff.mpr hne] at hq
    exact hq.afterValue .list rest
  -- no reader takes what is left
  have hstop : ∀ s, readElements us.length s (q ++ rest) (record.elements.drop us.length) =
      .ok (us.length, s, q ++ rest) := by
    intro s
    cases ws with
    | nil =>
        obtain ⟨sp, hsp, rfl⟩ := hq.exists_blank
        rw [List.append_assoc]
        exact readElements_bracket hsp us.length s _ rest
    | cons w ws => rw [hfull (List.cons_ne_nil w ws), List.drop_length, readElements]
  have hlist := record.unplaced_read_list .nil (p ++ q ++ rest)
  rw [List.nil_append] at hlist
  rw [hlist, List.append_assoc, unplaced_readElements_opening
    (fun _ => hrecord.localElement) hp hus hlength hafter]
  cases (record.elements.zip us).foldlM elementEffect record.empty with
  | error cause => rfl
  | ok s =>
      show Except.bind (unplaced (readElements (0 + us.length) s _ _)) _ = _
      rw [Nat.zero_add, hstop]
      rfl

/-- A list is read as a record in the same way wherever it stands, also if it has too few elements
or too many. -/
theorem Record.OfValues.settles_list (hrecord : record.OfValues) (hparts : record.elements ≠ [])
    {vs : List (List Char)} (h : Elements true vs cs) (hvs : ∀ v ∈ vs, Value v) :
    Settles Anything fun rest => record.read ('[' :: (cs ++ rest)) := by
  obtain ⟨us, ws, rfl, hlength, hfull⟩ : ∃ us ws, vs = us ++ ws ∧
      us.length ≤ record.elements.length ∧ (ws ≠ [] → us.length = record.elements.length) := by
    refine ⟨vs.take record.elements.length, vs.drop record.elements.length,
      (List.take_append_drop _ vs).symm, List.length_take_le _ _, fun hne => ?_⟩
    rw [ne_eq, List.drop_eq_nil_iff] at hne
    rw [List.length_take]
    omega
  obtain ⟨hus, hws⟩ := List.forall_mem_append.mp hvs
  obtain ⟨q, hq, hread⟩ := hrecord.unplaced_read_elements h hus hlength hfull
  have hfirst : ws ≠ [] → us.isEmpty = false := by
    intro hne
    rw [List.isEmpty_eq_false_iff]
    rintro rfl
    exact hparts (List.length_eq_zero_iff.mp (hfull hne).symm)
  cases hfold : (record.elements.zip us).foldlM elementEffect record.empty with
  | error cause =>
      refine ⟨.error cause, fun rest _ => ?_⟩
      rw [hread, hfold]
      rfl
  | ok s =>
      have hend : Settles Anything fun rest => record.endList us.length s (q ++ rest) :=
        settles_endList hq hws hfirst us.length s
      obtain ⟨result, hend⟩ := hend
      refine ⟨result, fun rest hrest => ?_⟩
      rw [hread, hfold]
      exact hend rest hrest

/-! ## Any value -/

theorem Record.read_cons (record : Record σ α) {c : Char} (hspace : isSpace c = false)
    (hlist : c ≠ '[') (hobject : c ≠ '\x7b') (cs : List Char) :
    record.read (c :: cs) = .error (unexpected ("struct " ++ record.title) (c :: cs)) := by
  rw [Record.read, skipSpace_cons, if_neg (by simp [hspace])]
  split
  · next heq => cases heq
  · next heq => exact absurd (List.cons.inj heq).1 hlist
  · next heq => exact absurd (List.cons.inj heq).1 hobject
  · rfl

/-- A value is a list or an object, or it begins with neither of their brackets. -/
theorem Value.cases_bracket {v : List Char} (hv : Value v) :
    (∃ vs cs, Elements true vs cs ∧ (∀ v ∈ vs, Value v) ∧ v = '[' :: cs) ∨
      (∃ ms cs, Members true ms cs ∧ (∀ m ∈ ms, TextBody m.1 ∧ Value m.2) ∧ v = '\x7b' :: cs) ∨
      ∃ c r, v = c :: r ∧ isSpace c = false ∧ c ≠ '[' ∧ c ≠ '\x7b' := by
  cases hv with
  | word hw =>
      simp only [List.mem_cons, List.not_mem_nil, or_false] at hw
      rcases hw with rfl | rfl | rfl <;> exact .inr (.inr ⟨_, _, rfl, rfl, by decide, by decide⟩)
  | number hn =>
      obtain ⟨hsign, hws, -, -⟩ := hn
      obtain ⟨d, ds, rfl, hd⟩ := hws.head
      have hother : d ≠ '[' ∧ d ≠ '\x7b' := by constructor <;> (rintro rfl; revert hd; decide)
      rcases hsign with rfl | rfl
      · exact .inr (.inr ⟨d, _, rfl, isSpace_of_isDigit hd, hother⟩)
      · exact .inr (.inr ⟨_, _, rfl, rfl, by decide, by decide⟩)
  | text hb => exact .inr (.inr ⟨_, _, rfl, rfl, by decide, by decide⟩)
  | list hvs hv => exact .inl ⟨_, _, hvs, hv, rfl⟩
  | object hms hkeys hvs => exact .inr (.inl ⟨_, _, hms, fun m hm => ⟨hkeys m hm, hvs m hm⟩, rfl⟩)

/-- **A record is read in the same way wherever it stands**, from whatever value. -/
theorem Record.OfValues.local_read (hrecord : record.OfValues) (hparts : record.elements ≠ []) :
    record.read.Local := by
  apply Reader.local_of_settles
  · intro cs
    rw [Record.read, Record.read, skipSpace_skipSpace]
  intro v hv
  obtain ⟨vs, cs, hvs, hgood, rfl⟩ | ⟨ms, cs, hms, hgood, rfl⟩ | ⟨c, r, rfl, hspace, hlist, hobject⟩ :=
    hv.cases_bracket
  · exact (hrecord.settles_list hparts hvs hgood).mono fun _ _ => trivial
  · exact ⟨_, fun rest _ => hrecord.unplaced_read_object hms hgood .nil rest⟩
  · exact settles_unexpected hv _ fun rest => record.read_cons hspace hlist hobject (r ++ rest)

/-! ## Whole texts -/

section Whole

variable {read : Reader α} {t : List Char}

/-- One value with nothing but space around it. -/
inductive Spaced : List Char → Prop
  | mk {sp v sp' : List Char} : Blank sp → Value v → Blank sp' → Spaced (sp ++ (v ++ sp'))

/-- What a reader makes of a text that is one value. -/
def alone (read : Reader α) (t : List Char) : Except Cause α := (unplaced (read t)).map Prod.fst

theorem Reader.Local.unplaced_value (h : read.Local) {v : List Char} (hv : Value v)
    (hrest : AfterValue rest) : unplaced (read (v ++ rest)) = (alone read v).map (·, rest) := by
  have hread := h .nil hv hrest
  rw [List.nil_append] at hread
  rw [hread, alone]
  cases unplaced (read v) <;> rfl

theorem Blank.afterValue (hsp : Blank sp) : AfterValue sp := by
  have hafter := hsp.afterValue_append afterValue_nil
  rw [List.append_nil] at hafter
  exact hafter

/-! ### Blanks around a value -/

/-- The space around a value makes no difference. -/
theorem Reader.Local.alone_spaced (h : read.Local) {v sp' : List Char} (hsp : Blank sp)
    (hv : Value v) (hsp' : Blank sp') : alone read (sp ++ (v ++ sp')) = alone read v := by
  rw [alone, alone, h hsp hv hsp'.afterValue]
  cases unplaced (read v) <;> rfl

theorem atEnd_blank (hsp : Blank sp) : atEnd sp = .ok () := by
  have hskip : skipSpace sp = [] := List.dropWhile_eq_nil_iff.mpr hsp
  rw [atEnd, hskip]

/-- Only faults have places. -/
theorem unplaced_eq_ok_iff {result : Except Failure α} {a : α} :
    unplaced result = .ok a ↔ result = .ok a := by
  cases result with
  | error f => exact ⟨nofun, nofun⟩
  | ok a' => rw [unplaced_ok, Except.ok.injEq, Except.ok.injEq]

theorem readWhole?_of_unplaced {text : String} {a : α}
    (h : unplaced (read text.toList) = .ok (a, rest)) (hrest : Blank rest) :
    readWhole? read text = .ok a := by
  simp only [readWhole?, unplaced_eq_ok_iff.mp h, atEnd_blank hrest]

theorem exists_fault_of_unplaced {text : String} {cause : Cause}
    (h : unplaced (read text.toList) = .error cause) :
    ∃ fault, readWhole? read text = .error fault := by
  cases hread : read text.toList with
  | error f => exact ⟨f.fault text.toList, by simp only [readWhole?, hread]⟩
  | ok p =>
      rw [hread] at h
      cases h

/-- **A whole text is read** if it is one value, and that value is taken. -/
theorem Reader.Local.readWhole?_eq_ok_iff (h : read.Local) {Means : List Char → α → Prop}
    (htakes : read.Takes Means) {text : String} {a : α} :
    readWhole? read text = .ok a ↔ Spaced text.toList ∧ alone read text.toList = .ok a := by
  constructor
  · intro hwhole
    obtain ⟨rest, hread, hrest⟩ := exists_of_readWhole? hwhole
    obtain ⟨sp, v, hsp, hv, -, htext⟩ := htakes _ a rest hread
    refine ⟨htext ▸ .mk hsp hv hrest, ?_⟩
    rw [alone, hread]
    rfl
  · rintro ⟨hspaced, halone⟩
    generalize htext : text.toList = t at hspaced halone
    obtain @⟨sp, v, sp', hsp, hv, hsp'⟩ := hspaced
    rw [h.alone_spaced hsp hv hsp', alone] at halone
    apply readWhole?_of_unplaced _ hsp'
    rw [htext, h hsp hv hsp'.afterValue]
    cases hvalue : unplaced (read v) with
    | error cause =>
        rw [hvalue] at halone
        cases halone
    | ok p =>
        rw [hvalue] at halone
        cases halone
        rfl

theorem blank_space : Blank [' '] := blank_cons.mpr ⟨rfl, .nil⟩

theorem spaced_digit {d : Char} (hd : d.isDigit = true) (hzero : d ≠ '0') : Spaced [d] := by
  have hdigits : Digits [d] := ⟨List.cons_ne_nil d [], List.forall_mem_singleton.mpr hd⟩
  have hnumber : NumberText ([] ++ ([d] ++ ([] ++ []))) :=
    .mk (.inl rfl) (.digits hzero hdigits) .none .none
  exact .mk .nil (.number hnumber) .nil

end Whole

/-! ## Names -/

def nameOf (key : List Char) : Except Cause String := alone readText (key ++ ['"'])

theorem Spells.nameOf {key : List Char} {name : String} (h : Spells key name.toList) :
    nameOf key = .ok name := by
  have hread : readText (key ++ ['"']) = .ok (name, []) := readText_eq_ok_iff.mpr ⟨key, h, rfl⟩
  rw [Json.nameOf, alone, hread]
  rfl

/-- Only the name of a member matters, not how it is spelled. -/
theorem Record.effect_eq (record : Record σ α) (s : σ) (key v : List Char) :
    record.effect s (key, v) = (nameOf key).bind (record.namedEffect s v) := by
  rw [Record.effect, nameOf, alone]
  cases unplaced (readText (key ++ ['"'])) <;> rfl

end Switchboard.Json
