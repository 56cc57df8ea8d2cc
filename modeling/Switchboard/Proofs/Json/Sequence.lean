import Switchboard.Proofs.Json.Effect

/-!
# Lists of values of any length

A list is read element after element, and each element is understood as soon as it is read. With a
reader that reads values in the same way wherever they stand, the list comes to what its elements
come to as whole texts (`understand`), one after the other: `unplaced_listOf`. Where an element is
refused, so is the list, whatever may follow that element (`unplaced_listOf_refused`). The elements
before it must be values, though; nothing is known of the text otherwise, since its brackets and
commas may belong to each other in another way.
-/

namespace Switchboard.Json

variable {α β : Type} {read : Reader α} {meaning : α → Except String β} {first : Bool}
  {t sp cs rest : List Char} {ts : List (List Char)}

/-! ## One element after the other -/

/-- What comes of a value that is read and understood: a reason in words is a fault too. -/
def understand (read : Reader α) (meaning : α → Except String β) (t : List Char) :
    Except Cause β :=
  (alone read t).bind fun a => (meaning a).mapError Cause.refused

theorem Blank.skipSpace_append (hsp : Blank sp) (cs : List Char) :
    skipSpace (sp ++ cs) = skipSpace cs :=
  List.dropWhile_append_of_pos hsp

/-- Space before a comma or before the closing bracket makes no difference. -/
theorem readAll_blank (hsp : Blank sp) (budget : Nat) (first : Bool) (cs : List Char) :
    unplaced (readAll read meaning budget first (sp ++ cs)) =
      unplaced (readAll read meaning budget first cs) := by
  cases budget with
  | zero => rfl
  | succ budget =>
      have hnext : nextElement first (sp ++ cs) = nextElement first cs := by
        rw [nextElement, nextElement, hsp.skipSpace_append]
      have hpast : pastList (sp ++ cs) = pastList cs := by
        rw [pastList, pastList, hsp.skipSpace_append]
      rw [readAll, readAll, hnext, hpast]

/-- One round, without the place of a fault. -/
theorem unplaced_readAll {r : List Char} (hnext : nextElement first cs = .ok (some r))
    (budget : Nat) :
    unplaced (readAll read meaning (budget + 1) first cs) =
      (unplaced (read r)).bind fun p =>
        ((meaning p.1).mapError Cause.refused).bind fun b =>
          (unplaced (readAll read meaning budget false p.2)).map fun q => (b :: q.1, q.2) := by
  rw [readAll, hnext]
  simp only
  rcases read r with f | ⟨a, r'⟩
  · rfl
  simp only [unplaced_ok, Except.bind]
  rcases meaning a with reason | b
  · rfl
  simp only [Except.mapError]
  rcases readAll read meaning budget false r' with f | ⟨bs, r''⟩ <;> rfl

/-- Where the next element begins if it has space around it. -/
theorem Opening.exists_nextElement_spaced {v sp' p : List Char}
    (h : Opening Element first ((sp ++ (v ++ sp')) :: ts) p) (hsp : Blank sp) (hv : Value v) :
    ∃ q, Opening Element false ts q ∧ ∀ rest,
      nextElement first (p ++ rest) = .ok (some (v ++ (sp' ++ (q ++ rest)))) := by
  obtain ⟨c, u, rfl, hspace, hend, -⟩ := hv.head
  cases h with
  | @first _ _ _ q ht hq =>
      obtain @⟨sp₀, -, hsp₀⟩ := ht
      refine ⟨q, hq, fun rest => ?_⟩
      have hnext := nextElement_first (hsp₀.append hsp) hspace hend (u ++ (sp' ++ (q ++ rest)))
      simp only [List.append_assoc, List.cons_append] at hnext ⊢
      exact hnext
  | @next _ _ _ _ q hsep ht hq =>
      obtain @⟨sp₀, -, hsp₀⟩ := ht
      refine ⟨q, hq, fun rest => ?_⟩
      have hnext :=
        nextElement_comma hsep (hsp₀.append hsp) hspace hend (u ++ (sp' ++ (q ++ rest)))
      simp only [List.append_assoc, List.cons_append] at hnext ⊢
      exact hnext

/-- Every element takes a character at least. -/
theorem Opening.length_le {p : List Char} (h : Opening Element first ts p)
    (hts : ∀ t ∈ ts, Spaced t) : ts.length ≤ p.length := by
  induction h with
  | nil => exact Nat.zero_le _
  | @first t ts _ q ht _ ih =>
      have hmore := ih (List.forall_mem_cons.mp hts).2
      obtain ⟨-, hv, -⟩ := (List.forall_mem_cons.mp hts).1
      obtain ⟨c, r, rfl, -⟩ := hv.head
      obtain ⟨-⟩ := ht
      simp only [List.length_append, List.length_cons]
      omega
  | @next t ts sep u q _ _ _ ih =>
      have hmore := ih (List.forall_mem_cons.mp hts).2
      simp only [List.length_append, List.length_cons]
      omega

/-- **Reading goes on behind the first elements** of a list with what they come to. -/
theorem unplaced_readAll_opening (hread : read.Local) {p : List Char}
    (h : Opening Element first ts p) (hts : ∀ t ∈ ts, Spaced t)
    (hrest : ts ≠ [] → AfterValue rest) (budget : Nat) :
    unplaced (readAll read meaning (budget + ts.length) first (p ++ rest)) =
      (ts.mapM (understand read meaning)).bind fun bs =>
        (unplaced (readAll read meaning budget (first && ts.isEmpty) rest)).map fun q =>
          (bs ++ q.1, q.2) := by
  induction ts generalizing first p with
  | nil =>
      obtain rfl := h.eq_nil
      rw [List.isEmpty_nil, Bool.and_true]
      show unplaced (readAll read meaning budget first rest) = Except.map _ _
      cases unplaced (readAll read meaning budget first rest) <;> rfl
  | cons t ts ih =>
      have hmore : ∀ t ∈ ts, Spaced t := (List.forall_mem_cons.mp hts).2
      obtain @⟨sp, v, sp', hsp, hv, hsp'⟩ := (List.forall_mem_cons.mp hts).1
      obtain ⟨q, hq, hnext⟩ := h.exists_nextElement_spaced hsp hv
      have hrest := hrest (List.cons_ne_nil _ ts)
      have hafter : AfterValue (sp' ++ (q ++ rest)) := hsp'.afterValue_append (hq.afterValue hrest)
      rw [List.isEmpty_cons, Bool.and_false, List.length_cons, ← Nat.add_assoc,
        unplaced_readAll (hnext rest), hread.unplaced_value hv hafter, List.mapM_cons, understand,
        hread.alone_spaced hsp hv hsp']
      -- the first fault decides: of reading the value, of its meaning, or of a later one
      cases alone read v with
      | error cause => rfl
      | ok a =>
      simp only [Except.map, Except.bind]
      cases meaning a with
      | error reason => rfl
      | ok b =>
      have hlater := ih hq hmore (fun _ => hrest)
      rw [Bool.false_and] at hlater
      simp only [Except.mapError]
      rw [readAll_blank hsp', hlater]
      cases ts.mapM (understand read meaning) with
      | error cause => rfl
      | ok bs =>
          cases unplaced (readAll read meaning budget false rest) <;> rfl

/-! ## Whole lists -/

theorem readAll_bracket (hsp : Blank sp) (budget : Nat) (first : Bool) (r : List Char) :
    readAll read meaning (budget + 1) first (sp ++ ']' :: r) = .ok ([], r) := by
  rw [readAll, nextElement_bracket hsp, pastList, hsp.skipSpace_cons rfl]
  rfl

theorem listOf_bracket (hsp : Blank sp) (r : List Char) :
    listOf read meaning (sp ++ '[' :: r) = readAll read meaning (r.length + 1) true r := by
  rw [listOf, hsp.skipSpace_cons rfl]
  rfl

variable (meaning) in
/-- The rounds of a list are enough for its first elements, with one left. -/
theorem unplaced_listOf_opening (hread : read.Local) {p : List Char}
    (h : Opening Element true ts p) (hts : ∀ t ∈ ts, Spaced t) (hrest : ts ≠ [] → AfterValue rest)
    (hsp : Blank sp) :
    ∃ budget, unplaced (listOf read meaning (sp ++ '[' :: (p ++ rest))) =
      (ts.mapM (understand read meaning)).bind fun bs =>
        (unplaced (readAll read meaning (budget + 1) ts.isEmpty rest)).map fun q =>
          (bs ++ q.1, q.2) := by
  obtain ⟨budget, hbudget⟩ : ∃ budget, (p ++ rest).length + 1 = budget + 1 + ts.length := by
    refine ⟨(p ++ rest).length - ts.length, ?_⟩
    have hlength := h.length_le hts
    rw [List.length_append]
    omega
  refine ⟨budget, ?_⟩
  rw [listOf_bracket hsp, hbudget, unplaced_readAll_opening hread h hts hrest, Bool.true_and]

/-- **A list comes to what its elements come to**, each as a whole text. -/
theorem unplaced_listOf (hread : read.Local) (h : Elements true ts cs)
    (hts : ∀ t ∈ ts, Spaced t) (hsp : Blank sp) (rest : List Char) :
    unplaced (listOf read meaning (sp ++ '[' :: (cs ++ rest))) =
      (ts.mapM (understand read meaning)).map (·, rest) := by
  rw [← List.append_nil ts] at h
  obtain ⟨p, q, rfl, hp, hq⟩ := h.split
  obtain ⟨sp', hsp', rfl⟩ := hq.exists_blank
  have hafter : AfterValue (sp' ++ ']' :: rest) := hsp'.afterValue_closer .list rest
  obtain ⟨budget, hwhole⟩ := unplaced_listOf_opening meaning hread hp hts
    (fun _ => hafter) hsp
  simp only [List.append_assoc, List.cons_append, List.nil_append]
  rw [hwhole, readAll_bracket hsp']
  cases ts.mapM (understand read meaning) with
  | error cause => rfl
  | ok bs => simp [Except.bind, Except.map]

/-- **A list is refused where an element is**: the elements before it are values, and what comes
after it may be anything. -/
theorem unplaced_listOf_refused (hread : read.Local) {us : List (List Char)}
    (h : Elements true (ts ++ t :: us) cs) (hts : ∀ u ∈ ts, Spaced u) (ht : Spaced t)
    {cause : Cause} (hrefused : understand read meaning t = .error cause) (hsp : Blank sp)
    (rest : List Char) :
    ∃ cause', unplaced (listOf read meaning (sp ++ '[' :: (cs ++ rest))) = .error cause' := by
  rw [List.append_cons] at h
  obtain ⟨p, q, rfl, hp, hq⟩ := h.split
  have hsome : (ts ++ [t]).isEmpty = false := by simp
  rw [hsome] at hq
  have hgood : ∀ u ∈ ts ++ [t], Spaced u := by
    rw [List.forall_mem_append, List.forall_mem_singleton]
    exact ⟨hts, ht⟩
  obtain ⟨budget, hwhole⟩ := unplaced_listOf_opening meaning hread hp hgood
    (fun _ => hq.afterValue .list rest) hsp
  rw [List.append_assoc, hwhole, List.mapM_append]
  -- one of the elements up to `t` is refused, `t` itself if no other is
  cases ts.mapM (understand read meaning) with
  | error cause' => exact ⟨cause', rfl⟩
  | ok bs =>
      refine ⟨cause, ?_⟩
      rw [List.mapM_cons, hrefused]
      rfl

end Switchboard.Json
