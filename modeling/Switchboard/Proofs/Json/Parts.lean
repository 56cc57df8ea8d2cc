import Switchboard.Proofs.Json.Check
import Switchboard.Proofs.Json.Spelling

/-!
# Where the parts of a record come from

`Reader.Takes read Means` says that `read` takes one JSON value, with the space before it, and that
`Means` relates the characters of the value to the result. A record is made of such readers, and so
a part of it can be followed back to the text. `Holds name index v w` says that the value `w` is an
object in which `v` is the one member with that name, or a list in which `v` has that index;
`Record.Slot` collects what has to be known of a record to find one of its parts there. The main
result, `Record.Slot.holds_of_read`, is that the record was read from a value that holds the part.
-/

namespace Switchboard.Json

variable {σ α β : Type}

/-! ## Space -/

theorem exists_blank_append_skipSpace (cs : List Char) :
    ∃ sp, Blank sp ∧ cs = sp ++ skipSpace cs := by
  refine ⟨cs.takeWhile isSpace, ?_, ?_⟩
  · intro c hc
    exact List.all_eq_true.mp List.all_takeWhile c hc
  · exact List.takeWhile_append_dropWhile.symm

theorem Blank.append {sp sp' : List Char} (h : Blank sp) (h' : Blank sp') : Blank (sp ++ sp') := by
  intro c hc
  rcases List.mem_append.mp hc with hc | hc
  · exact h c hc
  · exact h' c hc

/-- What is left when the space is skipped does not begin with space. -/
theorem eq_nil_of_skipSpace {cs sp t : List Char} (hsp : Blank sp) (h : skipSpace cs = sp ++ t) :
    sp = [] := by
  cases sp with
  | nil => rfl
  | cons c sp =>
    have hc := (blank_cons.mp hsp).1
    have hskip : skipSpace (skipSpace cs) = skipSpace (sp ++ t) := by
      rw [h, List.cons_append, skipSpace_cons, if_pos hc]
    have hlength := length_skipSpace_le (sp ++ t)
    rw [skipSpace_skipSpace, h] at hskip
    rw [← hskip] at hlength
    simp only [List.cons_append, List.length_cons, List.length_append] at hlength
    omega

/-! ## Readers of values -/

/-- `read` takes one value with the space before it, and `Means` relates the value to the result. -/
def Reader.Takes (read : Reader α) (Means : List Char → α → Prop) : Prop :=
  ∀ cs a rest, read cs = .ok (a, rest) →
    ∃ sp v, Blank sp ∧ Value v ∧ Means v a ∧ cs = sp ++ (v ++ rest)

theorem Reader.Takes.mono {read : Reader α} {Means Means' : List Char → α → Prop}
    (h : read.Takes Means) (himp : ∀ v a, Means v a → Means' v a) : read.Takes Means' := by
  intro cs a rest hread
  obtain ⟨sp, v, hsp, hv, hmeans, heq⟩ := h cs a rest hread
  exact ⟨sp, v, hsp, hv, himp v a hmeans, heq⟩

/-- What is read does not change when it is put somewhere. -/
theorem Reader.Takes.map {read : Reader α} {Means : List Char → α → Prop}
    {Means' : List Char → β → Prop} (h : read.Takes Means) {put : α → β}
    (hput : ∀ v a, Means v a → Means' v (put a)) : (read.map put).Takes Means' := by
  intro cs b rest hread
  rw [Reader.map] at hread
  split at hread
  · next a rest' ha =>
    cases hread
    obtain ⟨sp, v, hsp, hv, hmeans, heq⟩ := h cs a rest ha
    exact ⟨sp, v, hsp, hv, hput v a hmeans, heq⟩
  · cases hread

/-- A text is read from a text that spells it. -/
theorem takes_text :
    text.Takes fun v s => ∃ body, Spells body s.toList ∧ v = '"' :: (body ++ ['"']) := by
  intro cs s rest h
  obtain ⟨sp, hsp, heq⟩ := exists_blank_append_skipSpace cs
  rw [text] at h
  split at h
  · cases h
  · next r hr =>
    obtain ⟨body, hs, rfl⟩ := readText_eq_ok_iff.mp h
    refine ⟨sp, '"' :: (body ++ ['"']), hsp, .text hs.textBody, ⟨body, hs, rfl⟩, ?_⟩
    rw [heq, hr]
    simp
  · cases h

/-- A value that is kept as it is written. -/
theorem takes_raw : raw.Takes fun v s => s.toList = v := by
  intro cs s rest h
  obtain ⟨sp, hsp, heq⟩ := exists_blank_append_skipSpace cs
  simp only [raw] at h
  split at h
  · next rest' hskip =>
    cases h
    obtain ⟨sp', v, hsp', hv, hcs⟩ := exists_value_of_skipValue hskip
    obtain rfl := eq_nil_of_skipSpace hsp' hcs
    rw [List.nil_append] at hcs
    refine ⟨sp, v, hsp, hv, ?_, ?_⟩
    · rw [hcs]
      simp
    · rw [← hcs]
      exact heq
  · cases h

/-- The word `null` means nothing, any other value something. -/
inductive Nullable (Means : List Char → α → Prop) : List Char → Option α → Prop
  | null : Nullable Means ['n', 'u', 'l', 'l'] none
  | value {v : List Char} {a : α} : v ≠ ['n', 'u', 'l', 'l'] → Means v a →
      Nullable Means v (some a)

/-- A word that is read was there. -/
theorem eq_append_of_readWord {ws cs rest : List Char} (h : readWord ws cs = .ok rest) :
    cs = ws ++ rest := by
  induction ws generalizing cs with
  | nil =>
    cases h
    rfl
  | cons w ws ih =>
    cases cs with
    | nil => cases h
    | cons c cs =>
      rw [readWord] at h
      split at h
      · next hc => rw [hc, ih h, List.cons_append]
      · cases h

/-- What may be null is taken from a value that is null or has a meaning. -/
theorem takes_optional {read : Reader α} {Means : List Char → α → Prop} (h : read.Takes Means) :
    (optional read).Takes (Nullable Means) := by
  intro cs o rest hread
  obtain ⟨sp, hsp, heq⟩ := exists_blank_append_skipSpace cs
  rw [optional] at hread
  split at hread
  · next r hr =>
    split at hread
    · next rest' hword =>
      cases hread
      refine ⟨sp, ['n', 'u', 'l', 'l'], hsp, .word (by simp), .null, ?_⟩
      rw [heq, hr, eq_append_of_readWord hword]
      simp
    · cases hread
  · next hn =>
    rw [Reader.map] at hread
    split at hread
    · next a rest' ha =>
      cases hread
      obtain ⟨sp', v, hsp', hv, hmeans, hcs⟩ := h _ _ _ ha
      obtain rfl := eq_nil_of_skipSpace hsp' hcs
      have hnull : v ≠ ['n', 'u', 'l', 'l'] := by
        rintro rfl
        exact hn _ hcs
      refine ⟨sp, v, hsp, hv, .value hnull hmeans, ?_⟩
      rw [heq, hcs, List.nil_append]
    · cases hread

/-! ### Whole texts -/

/-- After a whole text there is nothing but space. -/
theorem exists_of_readWhole? {read : Reader α} {s : String} {a : α}
    (h : readWhole? read s = .ok a) : ∃ rest, read s.toList = .ok (a, rest) ∧ Blank rest := by
  simp only [readWhole?] at h
  split at h
  · cases h
  next a' rest hread =>
  split at h
  · cases h
  next hend =>
  cases h
  refine ⟨rest, hread, ?_⟩
  obtain ⟨sp, hsp, heq⟩ := exists_blank_append_skipSpace rest
  rw [atEnd] at hend
  split at hend
  · next hnil =>
    rw [heq, hnil, List.append_nil]
    exact hsp
  · cases hend

/-! ## One step inside brackets -/

theorem exists_colon {cs r : List Char} (h : colon cs = .ok r) :
    ∃ sp, Blank sp ∧ cs = sp ++ ':' :: r := by
  obtain ⟨sp, hsp, heq⟩ := exists_blank_append_skipSpace cs
  rw [colon] at h
  split at h
  · next r' hr =>
    cases h
    exact ⟨sp, hsp, by rw [← hr]; exact heq⟩
  · cases h
  · cases h

/-- An object ends at its closing brace. -/
theorem exists_brace {first : Bool} {cs : List Char} (h : nextName first cs = .ok none) :
    ∃ sp, Blank sp ∧ cs = sp ++ '\x7d' :: pastObject cs := by
  obtain ⟨sp, hsp, heq⟩ := exists_blank_append_skipSpace cs
  rw [nextName] at h
  split at h
  · cases h
  · next c r hr =>
    split at h
    · next hc =>
      subst hc
      refine ⟨sp, hsp, ?_⟩
      rw [pastObject, hr]
      rw [hr] at heq
      exact heq
    · split at h
      · split at h <;> cases h
      · split at h
        · split at h <;> cases h
        · cases h

/-- Where the next name begins. -/
theorem exists_quote {first : Bool} {cs r : List Char} (h : nextName first cs = .ok (some r)) :
    ∃ sp, Blank sp ∧
      (first = true ∧ cs = sp ++ '"' :: r ∨
        first = false ∧ ∃ sp', Blank sp' ∧ cs = sp ++ ',' :: (sp' ++ '"' :: r)) := by
  obtain ⟨sp, hsp, heq⟩ := exists_blank_append_skipSpace cs
  refine ⟨sp, hsp, ?_⟩
  rw [nextName] at h
  split at h
  · cases h
  next c r' hr =>
  rw [hr] at heq
  split at h
  · cases h
  split at h
  · next hfirst =>
    split at h
    · next hc =>
      cases h
      exact .inl ⟨hfirst, by rw [heq, hc]⟩
    · cases h
  · next hfirst =>
    split at h
    · next hc =>
      obtain ⟨sp', hsp', heq'⟩ := exists_blank_append_skipSpace r'
      split at h
      · cases h
      · next r'' hr'' =>
        cases h
        refine .inr ⟨by simpa using hfirst, sp', hsp', ?_⟩
        rw [heq, hc, heq', hr'']
      · cases h
      · cases h
    · cases h

theorem exists_bracket {cs r : List Char} (h : listEnd cs = .ok r) :
    ∃ sp, Blank sp ∧ cs = sp ++ ']' :: r := by
  obtain ⟨sp, hsp, heq⟩ := exists_blank_append_skipSpace cs
  rw [listEnd] at h
  split at h
  · next r' hr =>
    cases h
    exact ⟨sp, hsp, by rw [← hr]; exact heq⟩
  · split at h <;> cases h
  · cases h
  · cases h

/-- Where the next element begins. -/
theorem exists_comma {first : Bool} {cs r : List Char} (h : nextElement first cs = .ok (some r)) :
    ∃ sp, Blank sp ∧
      (first = true ∧ cs = sp ++ r ∨
        first = false ∧ ∃ sp', Blank sp' ∧ cs = sp ++ ',' :: (sp' ++ r)) := by
  obtain ⟨sp, hsp, heq⟩ := exists_blank_append_skipSpace cs
  refine ⟨sp, hsp, ?_⟩
  rw [nextElement] at h
  split at h
  · cases h
  next c r' hr =>
  rw [hr] at heq
  split at h
  · cases h
  split at h
  · next hfirst =>
    cases h
    exact .inl ⟨hfirst, heq⟩
  · next hfirst =>
    split at h
    · next hc =>
      obtain ⟨sp', hsp', heq'⟩ := exists_blank_append_skipSpace r'
      split at h
      · cases h
      · cases h
      · cases h
        refine .inr ⟨by simpa using hfirst, sp', hsp', ?_⟩
        rw [heq, hc, ← heq']
    · cases h

/-! ## The slot of a part -/

/-- The value `w` is an object with the one member `v` of this name, or a list with the element `v`
at this index. -/
inductive Holds (name : String) (index : Nat) (v : List Char) : List Char → Prop
  | object {before after : List (List Char × List Char)} {key cs : List Char} :
      Members true (before ++ (key, v) :: after) cs →
      (∀ m ∈ before ++ (key, v) :: after, TextBody m.1 ∧ Value m.2) → Spells key name.toList →
      (∀ m ∈ before ++ after, ¬Spells m.1 name.toList) → Holds name index v ('\x7b' :: cs)
  | list {vs : List (List Char)} {cs : List Char} :
      Elements true vs cs → (∀ v ∈ vs, Value v) → vs[index]? = some v →
      Holds name index v ('[' :: cs)

theorem Holds.value {name : String} {index : Nat} {v w : List Char} (h : Holds name index v w) :
    Value v ∧ Value w := by
  cases h with
  | @object before after key cs hms hvs _ _ =>
    have hw := Value.object hms (fun m hm => (hvs m hm).1) (fun m hm => (hvs m hm).2)
    exact ⟨(hvs (key, v) (by simp)).2, hw⟩
  | list hvs hv hindex => exact ⟨hv v (List.mem_of_getElem? hindex), .list hvs hv⟩

/-- The part `get` of a record is filled by the member `name`, or by the element `index`, and by
nothing else. -/
structure Record.Slot (record : Record σ α) (name : String) (index : Nat) (get : σ → Option β)
    (Means : List Char → β → Prop) : Prop where
  empty : get record.empty = none
  known : ∀ s, record.member name s ≠ none
  once : ∀ s read, record.member name s = some (.ok read) → get s = none
  own : ∀ s read, record.member name s = some (.ok read) →
    read.Takes fun v s' => ∃ b, get s' = some b ∧ Means v b
  other : ∀ name' s read, name' ≠ name → record.member name' s = some (.ok read) →
    read.Takes fun _ s' => get s' = get s
  ownElement : ∀ s read, record.elements[index]? = some read →
    (read s).Takes fun v s' => ∃ b, get s' = some b ∧ Means v b
  otherElement : ∀ i s read, i ≠ index → record.elements[i]? = some read →
    (read s).Takes fun _ s' => get s' = get s

/-- What the members `ms` do to a slot: nothing, or one of them fills it. -/
def FilledBy (name : String) (get : σ → Option β) (Means : List Char → β → Prop) (s : σ)
    (ms : List (List Char × List Char)) (s' : σ) : Prop :=
  get s' = get s ∧ (∀ m ∈ ms, ¬Spells m.1 name.toList) ∨
    get s = none ∧ ∃ before key v after b, ms = before ++ (key, v) :: after ∧
      Spells key name.toList ∧ get s' = some b ∧ Means v b ∧
      ∀ m ∈ before ++ after, ¬Spells m.1 name.toList

namespace FilledBy

variable {name : String} {get : σ → Option β} {Means : List Char → β → Prop} {s s' s'' : σ}
  {key v : List Char} {ms : List (List Char × List Char)}

theorem nil : FilledBy name get Means s [] s := .inl ⟨rfl, by simp⟩

/-- A member of another name comes first. -/
theorem other (hkey : ¬Spells key name.toList) (hget : get s' = get s)
    (h : FilledBy name get Means s' ms s'') : FilledBy name get Means s ((key, v) :: ms) s'' := by
  rw [FilledBy, hget] at h
  rcases h with ⟨hs, hms⟩ | ⟨hs, before, key', v', after, b, rfl, hkey', hb, hmeans, hms⟩
  · exact .inl ⟨hs, List.forall_mem_cons.mpr ⟨hkey, hms⟩⟩
  · exact .inr ⟨hs, (key, v) :: before, key', v', after, b, rfl, hkey', hb, hmeans,
      List.forall_mem_cons.mpr ⟨hkey, hms⟩⟩

/-- The member that fills the slot comes first. -/
theorem own (hkey : Spells key name.toList) (hs : get s = none) {b : β} (hb : get s' = some b)
    (hmeans : Means v b) (h : FilledBy name get Means s' ms s'') :
    FilledBy name get Means s ((key, v) :: ms) s'' := by
  rcases h with ⟨hget, hms⟩ | ⟨hget, -⟩
  · exact .inr ⟨hs, [], key, v, ms, b, rfl, hkey, by rw [hget, hb], hmeans, hms⟩
  · rw [hb] at hget
    cases hget

end FilledBy

namespace Record.Slot

variable {record : Record σ α} {name : String} {index : Nat} {get : σ → Option β}
  {Means : List Char → β → Prop} {s s' : σ} {first : Bool} {cs rest : List Char}

/-- Put a member before members that are read already. -/
theorem members_cons {sp key sp' sp'' v r : List Char} {ms : List (List Char × List Char)}
    (hsp : Blank sp) (hcs : first = true ∧ cs = sp ++ '"' :: r ∨
      first = false ∧ ∃ sp₀, Blank sp₀ ∧ cs = sp ++ ',' :: (sp₀ ++ '"' :: r))
    (hsp' : Blank sp') (hsp'' : Blank sp'') {u : List Char}
    (hr : r = key ++ '"' :: (sp' ++ ':' :: (sp'' ++ (v ++ (u ++ rest)))))
    (hms : Members false ms u) :
    ∃ u', Members first ((key, v) :: ms) u' ∧ cs = u' ++ rest := by
  subst hr
  rcases hcs with ⟨rfl, rfl⟩ | ⟨rfl, sp₀, hsp₀, rfl⟩
  · exact ⟨_, .first (.mk hsp hsp' hsp'') hms, by simp⟩
  · exact ⟨_, .next hsp (.mk hsp₀ hsp' hsp'') hms, by simp⟩

/-! ### Members -/

/-- What a member that is read does to a slot: it fills it if it has its name, and else leaves it
alone. -/
theorem filledBy_cons (hslot : record.Slot name index get Means) {name' : String}
    {key r : List Char} (hkey : Spells key name'.toList) {read : Reader σ}
    (hmember : record.member name' s = some (.ok read)) (hread : read cs = .ok (s', r)) :
    ∃ sp v, Blank sp ∧ Value v ∧ cs = sp ++ (v ++ r) ∧
      ∀ {ms : List (List Char × List Char)} {s'' : σ},
        FilledBy name get Means s' ms s'' → FilledBy name get Means s ((key, v) :: ms) s'' := by
  by_cases hown : name' = name
  · subst hown
    obtain ⟨sp, v, hsp, hv, ⟨b, hb, hmeans⟩, rfl⟩ := hslot.own s read hmember _ _ _ hread
    exact ⟨sp, v, hsp, hv, rfl, fun h => h.own hkey (hslot.once s read hmember) hb hmeans⟩
  · obtain ⟨sp, v, hsp, hv, hget, rfl⟩ := hslot.other name' s read hown hmember _ _ _ hread
    have hkey' : ¬Spells key name.toList :=
      fun hspells => hown (String.toList_inj.mp (hkey.functional hspells))
    exact ⟨sp, v, hsp, hv, rfl, fun h => h.other hkey' hget⟩

/-- **The members of an object fill a slot at most once**, and only those of its name. -/
theorem filledBy_of_readMembers (hslot : record.Slot name index get Means) {budget : Nat}
    (h : readMembers record budget first s cs = .ok (s', rest)) :
    ∃ ms u, Members first ms u ∧ (∀ m ∈ ms, TextBody m.1 ∧ Value m.2) ∧ cs = u ++ rest ∧
      FilledBy name get Means s ms s' := by
  induction budget generalizing first s cs with
  | zero => cases h
  | succ budget ih =>
    rw [readMembers] at h
    split at h
    · cases h
    · next hend =>
      cases h
      obtain ⟨sp, hsp, heq⟩ := exists_brace hend
      exact ⟨[], sp ++ ['\x7d'], .close hsp, by simp, by simpa using heq, .nil⟩
    next r hname =>
    obtain ⟨sp, hsp, hcs⟩ := exists_quote hname
    split at h
    · cases h
    next name' r₁ htext =>
    obtain ⟨key, hkey, rfl⟩ := readText_eq_ok_iff.mp htext
    split at h
    · cases h
    · next read hmember =>
      split at h
      · cases h
      next r₂ hcolon =>
      obtain ⟨sp', hsp', rfl⟩ := exists_colon hcolon
      split at h
      · cases h
      next s₁ r₃ hread =>
      obtain ⟨ms, u, hms, hvs, rfl, hfilled⟩ := ih h
      obtain ⟨sp'', v, hsp'', hv, rfl, hcons⟩ := hslot.filledBy_cons hkey hmember hread
      obtain ⟨u', hu', rfl⟩ := members_cons hsp hcs hsp' hsp'' rfl hms
      exact ⟨_, u', hu', List.forall_mem_cons.mpr ⟨⟨hkey.textBody, hv⟩, hvs⟩, rfl, hcons hfilled⟩
    · next hunknown =>
      split at h
      · cases h
      next r₂ hcolon =>
      obtain ⟨sp', hsp', rfl⟩ := exists_colon hcolon
      split at h
      · cases h
      next r₃ hskip =>
      obtain ⟨sp'', v, hsp'', hv, rfl⟩ := exists_value_of_skipValue hskip
      obtain ⟨ms, u, hms, hvs, rfl, hfilled⟩ := ih h
      obtain ⟨u', hu', rfl⟩ := members_cons hsp hcs hsp' hsp'' rfl hms
      have hother : ¬Spells key name.toList := by
        intro hspells
        obtain rfl := String.toList_inj.mp (hkey.functional hspells)
        exact hslot.known s hunknown
      exact ⟨_, u', hu', List.forall_mem_cons.mpr ⟨⟨hkey.textBody, hv⟩, hvs⟩, rfl,
        hfilled.other hother rfl⟩

/-! ### Elements -/

theorem exists_elements_nil (h : listEnd cs = .ok rest) :
    ∃ u, Elements first [] u ∧ cs = u ++ rest := by
  obtain ⟨sp, hsp, rfl⟩ := exists_bracket h
  exact ⟨sp ++ [']'], .close hsp, by simp⟩

/-- Put an element before elements that are read already. -/
theorem elements_cons {sp sp' v r : List Char} {vs : List (List Char)} (hsp : Blank sp)
    (hcs : first = true ∧ cs = sp ++ r ∨
      first = false ∧ ∃ sp₀, Blank sp₀ ∧ cs = sp ++ ',' :: (sp₀ ++ r))
    (hsp' : Blank sp') {u : List Char} (hr : r = sp' ++ (v ++ (u ++ rest)))
    (hvs : Elements false vs u) :
    ∃ u', Elements first (v :: vs) u' ∧ cs = u' ++ rest := by
  subst hr
  rcases hcs with ⟨rfl, rfl⟩ | ⟨rfl, sp₀, hsp₀, rfl⟩
  · exact ⟨_, .first (.mk (hsp.append hsp')) hvs, by simp⟩
  · exact ⟨_, .next hsp (.mk (hsp₀.append hsp')) hvs, by simp⟩

/-- The elements of a list fill a slot if one of them has its index. -/
theorem filled_of_readElements (hslot : record.Slot name index get Means) {count n : Nat}
    {readers : List (σ → Reader σ)} (hreaders : readers = record.elements.drop count)
    {r : List Char} (h : readElements count s cs readers = .ok (n, s', r))
    (hend : listEnd r = .ok rest) :
    ∃ vs u, Elements (count == 0) vs u ∧ (∀ v ∈ vs, Value v) ∧ cs = u ++ rest ∧
      (get s' = get s ∨
        ∃ v b, count ≤ index ∧ vs[index - count]? = some v ∧ get s' = some b ∧ Means v b) := by
  induction readers generalizing count s cs with
  | nil =>
    cases h
    obtain ⟨u, hu, rfl⟩ := exists_elements_nil hend
    exact ⟨[], u, hu, by simp, rfl, .inl rfl⟩
  | cons read readers ih =>
    have hread : record.elements[count]? = some read := by
      rw [← Nat.add_zero count, ← List.getElem?_drop, ← hreaders]
      rfl
    have hmore : readers = record.elements.drop (count + 1) := by
      rw [← List.tail_drop, ← hreaders, List.tail_cons]
    rw [readElements] at h
    split at h
    · cases h
    · cases h
      obtain ⟨u, hu, rfl⟩ := exists_elements_nil hend
      exact ⟨[], u, hu, by simp, rfl, .inl rfl⟩
    next r₁ hnext =>
    obtain ⟨sp, hsp, hcs⟩ := exists_comma hnext
    split at h
    · cases h
    next s₁ r₂ hr₁ =>
    have hvalue : ∃ sp' v, Blank sp' ∧ Value v ∧ r₁ = sp' ++ (v ++ r₂) ∧
        ((index = count ∧ ∃ b, get s₁ = some b ∧ Means v b) ∨ index ≠ count ∧ get s₁ = get s) := by
      by_cases hindex : index = count
      · obtain ⟨sp', v, hsp', hv, hb, heq⟩ := hslot.ownElement s read (hindex ▸ hread) _ _ _ hr₁
        exact ⟨sp', v, hsp', hv, heq, .inl ⟨hindex, hb⟩⟩
      · obtain ⟨sp', v, hsp', hv, hget, heq⟩ :=
          hslot.otherElement count s read (Ne.symm hindex) hread _ _ _ hr₁
        exact ⟨sp', v, hsp', hv, heq, .inr ⟨hindex, hget⟩⟩
    obtain ⟨sp', v, hsp', hv, rfl, hfilled⟩ := hvalue
    obtain ⟨vs, u, hvs, hv', rfl, hlater⟩ := ih hmore h
    obtain ⟨u', hu', rfl⟩ := elements_cons hsp hcs hsp' rfl hvs
    refine ⟨v :: vs, u', hu', List.forall_mem_cons.mpr ⟨hv, hv'⟩, rfl, ?_⟩
    rcases hlater with hget | ⟨v', b, hle, hv', hb, hmeans⟩
    · rcases hfilled with ⟨rfl, b, hb, hmeans⟩ | ⟨-, hsame⟩
      · exact .inr ⟨v, b, Nat.le_refl index, by simp, by rw [hget, hb], hmeans⟩
      · exact .inl (hget.trans hsame)
    · refine .inr ⟨v', b, by omega, ?_, hb, hmeans⟩
      obtain ⟨k, rfl⟩ := Nat.exists_eq_add_of_le hle
      rw [show count + 1 + k - (count + 1) = k by omega] at hv'
      rw [show count + 1 + k - count = k + 1 by omega, List.getElem?_cons_succ]
      exact hv'

theorem finish_of_close {parts : σ} {a : α} {r r' : List Char}
    (h : record.close parts r = .ok (a, r')) : record.finish parts = .ok a ∧ r = r' := by
  rw [Record.close] at h
  split at h
  · next hfinish =>
    cases h
    exact ⟨hfinish, rfl⟩
  · cases h

/-! ### Whole records -/

/-- **Parts are taken from the text.** A record is read from one value with space before it, and a
part of the record from a value that this value holds. -/
theorem holds_of_read (hslot : record.Slot name index get Means) {a : α}
    (h : record.read cs = .ok (a, rest)) :
    ∃ sp w parts, Blank sp ∧ Value w ∧ cs = sp ++ (w ++ rest) ∧ record.finish parts = .ok a ∧
      ∀ b, get parts = some b → ∃ v, Means v b ∧ Holds name index v w := by
  -- a list gives the value its place, and an object its name
  obtain ⟨sp, hsp, heq⟩ := exists_blank_append_skipSpace cs
  rw [Record.read] at h
  split at h
  · cases h
  · next r hr =>
    rw [hr] at heq
    split at h
    · cases h
    next n parts r' helements =>
    split at h
    · cases h
    split at h
    · cases h
    next r'' hend =>
    obtain ⟨hfinish, rfl⟩ := finish_of_close h
    obtain ⟨vs, u, hvs, hv, rfl, hfilled⟩ := hslot.filled_of_readElements rfl helements hend
    refine ⟨sp, '[' :: u, parts, hsp, .list hvs hv, by simpa using heq, hfinish, ?_⟩
    intro b hb
    rcases hfilled with hget | ⟨v, b', -, hindex, hb', hmeans⟩
    · rw [hget, hslot.empty] at hb
      cases hb
    · obtain rfl : b' = b := Option.some.inj (hb'.symm.trans hb)
      exact ⟨v, hmeans, .list hvs hv (by simpa using hindex)⟩
  · next r hr =>
    rw [hr] at heq
    split at h
    · cases h
    next parts r' hmembers =>
    obtain ⟨hfinish, rfl⟩ := finish_of_close h
    obtain ⟨ms, u, hms, hvs, rfl, hfilled⟩ := hslot.filledBy_of_readMembers hmembers
    have hw : Value ('\x7b' :: u) :=
      .object hms (fun m hm => (hvs m hm).1) (fun m hm => (hvs m hm).2)
    refine ⟨sp, '\x7b' :: u, parts, hsp, hw, by simpa using heq, hfinish, ?_⟩
    intro b hb
    rcases hfilled with ⟨hget, -⟩ | ⟨-, before, key, v, after, b', rfl, hkey, hb', hmeans, hothers⟩
    · rw [hget, hslot.empty] at hb
      cases hb
    · obtain rfl : b' = b := Option.some.inj (hb'.symm.trans hb)
      exact ⟨v, hmeans, .object hms hvs hkey hothers⟩
  · cases h

end Record.Slot

end Switchboard.Json
