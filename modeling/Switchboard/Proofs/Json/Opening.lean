import Switchboard.Proofs.Json.Locality
import Switchboard.Proofs.Json.Parts

/-!
# What the first parts of a record amount to

`Opening first as p` says of the characters `p` that they are the first members of an object or the
first elements of a list, and nothing of what comes after them. Since values are read in the same
way wherever they stand, such parts have an effect of their own on a record (`Record.effect`,
`elementEffect`), and reading goes on behind them with that effect: `unplaced_readMembers_opening`
and `unplaced_readElements_opening`. What follows may be anything that may follow a value, whether
the object or the list is ever closed or not.

Both are about reading member by member, for which `Record.readMember` takes one round out of
`readMembers`. The budget of the rounds makes no difference (`readMembers_budget`).
-/

namespace Switchboard.Json

variable {σ α : Type} {record : Record σ α} {s s' : σ} {first : Bool} {cs r rest : List Char}

/-! ## The first parts of a list or an object -/

section Opening

variable {β : Type}

/-- The first parts of a list or an object, from after the opening bracket or from after a part.
`Part a t` says that `t` is the part `a` with space where it may be. -/
inductive Opening (Part : β → List Char → Prop) : Bool → List β → List Char → Prop
  | nil {first : Bool} : Opening Part first [] []
  | first {a : β} {as : List β} {t cs : List Char} : Part a t → Opening Part false as cs →
      Opening Part true (a :: as) (t ++ cs)
  | next {a : β} {as : List β} {sp t cs : List Char} : Blank sp → Part a t →
      Opening Part false as cs → Opening Part false (a :: as) (sp ++ ',' :: (t ++ cs))

theorem Opening.eq_nil {Part : β → List Char → Prop} {p : List Char}
    (h : Opening Part first [] p) : p = [] := by
  cases h
  rfl

theorem Opening.afterValue_cons {Part : β → List Char → Prop} {a : β} {as : List β}
    {p : List Char} (h : Opening Part false (a :: as) p) (rest : List Char) :
    AfterValue (p ++ rest) := by
  cases h with
  | @next _ _ sp t cs hsp ht hcs =>
      rw [List.append_assoc]
      exact hsp.afterValue_append (.inr ⟨',', t ++ cs ++ rest, rfl, by simp⟩)

/-- What opens a list or an object may follow a value. -/
theorem Opening.afterValue {Part : β → List Char → Prop} {as : List β} {p : List Char}
    (h : Opening Part false as p) (hrest : AfterValue rest) : AfterValue (p ++ rest) := by
  cases as with
  | nil =>
      rw [h.eq_nil]
      exact hrest
  | cons a as => exact h.afterValue_cons rest

end Opening

theorem Blank.skipSpace_cons {sp : List Char} {c : Char} (hsp : Blank sp) (hc : isSpace c = false)
    (cs : List Char) : skipSpace (sp ++ c :: cs) = c :: cs := by
  rw [skipSpace, List.dropWhile_append_of_pos hsp, List.dropWhile_cons, if_neg (by simp [hc])]

/-! ### Where the next name begins -/

theorem nextName_quote {sp : List Char} (hsp : Blank sp) (r : List Char) :
    nextName true (sp ++ '"' :: r) = .ok (some r) := by
  rw [nextName, hsp.skipSpace_cons rfl]
  rfl

theorem nextName_comma {sp sp' : List Char} (hsp : Blank sp) (hsp' : Blank sp') (r : List Char) :
    nextName false (sp ++ ',' :: (sp' ++ '"' :: r)) = .ok (some r) := by
  have hquote : isSpace '"' = false := rfl
  rw [nextName, hsp.skipSpace_cons rfl]
  simp [hsp'.skipSpace_cons hquote]

theorem nextName_brace {sp : List Char} (hsp : Blank sp) (first : Bool) (r : List Char) :
    nextName first (sp ++ '\x7d' :: r) = .ok none := by
  rw [nextName, hsp.skipSpace_cons rfl]
  rfl

theorem pastObject_brace {sp : List Char} (hsp : Blank sp) (r : List Char) :
    pastObject (sp ++ '\x7d' :: r) = r := by
  rw [pastObject, hsp.skipSpace_cons rfl]
  rfl

/-- Where the name of the first member stands. -/
theorem Opening.exists_nextName {key v p : List Char} {ms : List (List Char × List Char)}
    (h : Opening Member first ((key, v) :: ms) p) :
    ∃ sp sp' q, Blank sp ∧ Blank sp' ∧ Opening Member false ms q ∧ ∀ rest,
      nextName first (p ++ rest) =
        .ok (some (key ++ '"' :: (sp ++ ':' :: (sp' ++ (v ++ (q ++ rest)))))) := by
  cases h with
  | @first _ _ _ q ht hcs =>
      obtain ⟨hsp₀, hsp, hsp'⟩ := ht
      refine ⟨_, _, q, hsp, hsp', hcs, fun rest => ?_⟩
      simp only [List.append_assoc, List.cons_append]
      exact nextName_quote hsp₀ _
  | @next _ _ _ _ q hsep ht hcs =>
      obtain ⟨hsp₀, hsp, hsp'⟩ := ht
      refine ⟨_, _, q, hsp, hsp', hcs, fun rest => ?_⟩
      simp only [List.append_assoc, List.cons_append]
      exact nextName_comma hsep hsp₀ _

/-! ### Where the next element begins -/

theorem nextElement_first {sp : List Char} {c : Char} (hsp : Blank sp) (hspace : isSpace c = false)
    (hend : c ≠ ']') (r : List Char) : nextElement true (sp ++ c :: r) = .ok (some (c :: r)) := by
  rw [nextElement, hsp.skipSpace_cons hspace]
  simp [hend]

theorem nextElement_comma {sp sp' : List Char} {c : Char} (hsp : Blank sp) (hsp' : Blank sp')
    (hspace : isSpace c = false) (hend : c ≠ ']') (r : List Char) :
    nextElement false (sp ++ ',' :: (sp' ++ c :: r)) = .ok (some (c :: r)) := by
  rw [nextElement, hsp.skipSpace_cons rfl]
  simp [hsp'.skipSpace_cons hspace, hend]

/-- Where the first element stands. -/
theorem Opening.exists_nextElement {v p : List Char} {vs : List (List Char)}
    (h : Opening Element first (v :: vs) p) (hv : Value v) :
    ∃ q, Opening Element false vs q ∧ ∀ rest,
      nextElement first (p ++ rest) = .ok (some (v ++ (q ++ rest))) := by
  obtain ⟨c, r, rfl, hspace, hend, -⟩ := hv.head
  cases h with
  | @first _ _ _ q ht hcs =>
      obtain ⟨hsp⟩ := ht
      refine ⟨q, hcs, fun rest => ?_⟩
      simp only [List.append_assoc, List.cons_append]
      exact nextElement_first hsp hspace hend _
  | @next _ _ _ _ q hsep ht hcs =>
      obtain ⟨hsp⟩ := ht
      refine ⟨q, hcs, fun rest => ?_⟩
      simp only [List.append_assoc, List.cons_append]
      exact nextElement_comma hsep hsp hspace hend _

/-! ## One member after the other -/

def Record.readNamed (record : Record σ α) (s : σ) (name : String) : Reader σ := fun cs =>
  match record.member name s with
  | some (.error cause) => .error (.here cause (pastObject cs))
  | some (.ok read) =>
    match colon cs with
    | .error f => .error f
    | .ok r => read r
  | none =>
    match colon cs with
    | .error f => .error f
    | .ok r =>
      match skipValue r with
      | .error f => .error f
      | .ok r => .ok (s, r)

def Record.readMember (record : Record σ α) (s : σ) : Reader σ := fun cs =>
  match readText cs with
  | .error f => .error f
  | .ok (name, r) => record.readNamed s name r

/-- One member is read, and then the others. -/
theorem readMembers_succ (record : Record σ α) (budget : Nat) (first : Bool) (s : σ)
    (cs : List Char) :
    readMembers record (budget + 1) first s cs =
      match nextName first cs with
      | .error f => .error f
      | .ok none => .ok (s, pastObject cs)
      | .ok (some r) =>
        match record.readMember s r with
        | .error f => .error f
        | .ok (s', r) => readMembers record budget false s' r := by
  rw [readMembers]
  rcases nextName first cs with f | (_ | r)
  · rfl
  · rfl
  simp only [Record.readMember]
  rcases readText r with f | ⟨name, r⟩
  · rfl
  simp only [Record.readNamed]
  rcases record.member name s with _ | (cause | read)
  · rcases colon r with f | r
    · rfl
    · simp only
      cases skipValue r <;> rfl
  · rfl
  · rcases colon r with f | r
    · rfl
    · rfl

/-- Only where the next name begins decides how an object is read on. -/
theorem readMembers_congr {first' : Bool} {cs' : List Char}
    (hname : nextName first' cs' = nextName first cs)
    (hpast : nextName first cs = .ok none → pastObject cs' = pastObject cs) (record : Record σ α)
    (budget : Nat) (s : σ) :
    readMembers record (budget + 1) first' s cs' = readMembers record (budget + 1) first s cs := by
  rw [readMembers_succ, readMembers_succ, hname]
  rcases hnext : nextName first cs with f | (_ | r)
  · rfl
  · rw [hpast hnext]
  · rfl

/-- At the closing brace nothing more is read. -/
theorem readMembers_brace {sp : List Char} (hsp : Blank sp) (record : Record σ α) (budget : Nat)
    (first : Bool) (s : σ) (r : List Char) :
    readMembers record (budget + 1) first s (sp ++ '\x7d' :: r) = .ok (s, r) := by
  rw [readMembers_succ, nextName_brace hsp, pastObject_brace hsp]

/-- The parts of a record are values, and are read in the same way wherever they stand. -/
structure Record.OfValues (record : Record σ α) : Prop where
  takes : ∀ {name : String} {s : σ} {read : Reader σ},
    record.member name s = some (.ok read) → read.Takes fun _ _ => True
  localMember : ∀ {name : String} {s : σ} {read : Reader σ},
    record.member name s = some (.ok read) → read.Local
  localElement : ∀ {read : σ → Reader σ}, read ∈ record.elements → ∀ s, (read s).Local

/-- What is read as a member is one. -/
theorem Record.OfValues.exists_member (hrecord : record.OfValues)
    (h : record.readMember s cs = .ok (s', rest)) :
    ∃ key sp sp' v, TextBody key ∧ Value v ∧ Blank sp ∧ Blank sp' ∧
      cs = key ++ '"' :: (sp ++ ':' :: (sp' ++ (v ++ rest))) := by
  rw [Record.readMember] at h
  split at h
  · cases h
  next name r htext =>
  obtain ⟨key, hkey, rfl⟩ := readText_eq_ok_iff.mp htext
  rw [Record.readNamed] at h
  split at h
  · cases h
  · next read hmember =>
    split at h
    · cases h
    next r' hcolon =>
    obtain ⟨sp, hsp, rfl⟩ := exists_colon hcolon
    obtain ⟨sp', v, hsp', hv, -, rfl⟩ := hrecord.takes hmember _ _ _ h
    exact ⟨key, sp, sp', v, hkey.textBody, hv, hsp, hsp', rfl⟩
  · split at h
    · cases h
    next r' hcolon =>
    obtain ⟨sp, hsp, rfl⟩ := exists_colon hcolon
    split at h
    · cases h
    next r'' hskip =>
    obtain ⟨sp', v, hsp', hv, rfl⟩ := exists_value_of_skipValue hskip
    cases h
    exact ⟨key, sp, sp', v, hkey.textBody, hv, hsp, hsp', rfl⟩

theorem Record.OfValues.length_readMember (hrecord : record.OfValues)
    (h : record.readMember s cs = .ok (s', rest)) : rest.length < cs.length := by
  obtain ⟨key, sp, sp', v, -, -, -, -, rfl⟩ := hrecord.exists_member h
  simp only [List.length_append, List.length_cons]
  omega

theorem length_nextName (h : nextName first cs = .ok (some r)) : r.length < cs.length := by
  obtain ⟨sp, -, ⟨-, rfl⟩ | ⟨-, sp', -, rfl⟩⟩ := exists_quote h
  · simp only [List.length_append, List.length_cons]
    omega
  · simp only [List.length_append, List.length_cons]
    omega

/-! ### Enough to read with -/

/-- A budget of more than the number of characters is always enough. -/
theorem readMembers_budget (hrecord : record.OfValues) {budget budget' : Nat}
    (hb : cs.length < budget) (hb' : cs.length < budget') :
    readMembers record budget first s cs = readMembers record budget' first s cs := by
  induction budget generalizing budget' first s cs with
  | zero => omega
  | succ budget ih =>
      obtain ⟨budget', rfl⟩ := Nat.exists_eq_add_one_of_ne_zero (by omega : budget' ≠ 0)
      rw [readMembers_succ, readMembers_succ]
      cases hname : nextName first cs with
      | error f => rfl
      | ok next =>
      cases next with
      | none => rfl
      | some r =>
      cases hread : record.readMember s r with
      | error f => simp only [hread]
      | ok p =>
          have hname := length_nextName hname
          have hread' := hrecord.length_readMember hread
          simp only [hread]
          exact ih (by omega) (by omega)

/-! ## Names that are still to come -/

/-- After some members, if any, the object goes on with a member of this name. -/
inductive Ahead (name : String) : List Char → Prop
  | mk {ms : List (List Char × List Char)} {p sp sp' key r : List Char} :
      Opening Member false ms p → Blank sp → Blank sp' → Spells key name.toList →
      (∀ m ∈ ms, TextBody m.1 ∧ Value m.2) →
      Ahead name (p ++ (sp ++ ',' :: (sp' ++ '"' :: (key ++ '"' :: r))))

theorem ahead_of_readText {name : String} (hnext : nextName false cs = .ok (some r))
    (htext : readText r = .ok (name, rest)) : Ahead name cs := by
  obtain ⟨sp, hsp, ⟨hfirst, -⟩ | ⟨-, sp', hsp', rfl⟩⟩ := exists_quote hnext
  · cases hfirst
  obtain ⟨key, hkey, rfl⟩ := readText_eq_ok_iff.mp htext
  exact .mk .nil hsp hsp' hkey (List.forall_mem_nil _)

/-- No name comes after the end of an object. -/
theorem not_ahead_of_nextName {name : String} (hnext : nextName false cs = .ok none) :
    ¬Ahead name cs := by
  rintro @⟨ms, p, sp, sp', key, u, hp, hsp, hsp', hkey, hms⟩
  cases ms with
  | nil =>
      rw [hp.eq_nil, List.nil_append, nextName_comma hsp hsp'] at hnext
      cases hnext
  | cons m ms =>
      obtain ⟨_, _, q, -, -, -, hname⟩ := hp.exists_nextName
      rw [hname] at hnext
      cases hnext

/-- A name that comes after a member comes also before it is read. -/
theorem Ahead.of_readMember {name : String} (hrecord : record.OfValues)
    (hnext : nextName false cs = .ok (some r)) (hread : record.readMember s r = .ok (s', rest))
    (h : Ahead name rest) : Ahead name cs := by
  obtain ⟨sp₀, hsp₀, ⟨hfirst, -⟩ | ⟨-, sp₁, hsp₁, rfl⟩⟩ := exists_quote hnext
  · cases hfirst
  obtain ⟨key', sp₂, sp₃, v, hkey', hv, hsp₂, hsp₃, rfl⟩ := hrecord.exists_member hread
  obtain @⟨ms, p, sp, sp', key, u, hp, hsp, hsp', hkey, hms⟩ := h
  have hahead := Ahead.mk (r := u) (.next hsp₀ (.mk hsp₁ hsp₂ hsp₃) hp) hsp hsp' hkey
    (List.forall_mem_cons.mpr ⟨⟨hkey', hv⟩, hms⟩)
  simp only [List.append_assoc, List.cons_append] at hahead
  exact hahead

/-- One round, without the place of a fault. -/
theorem unplaced_readMembers (hnext : nextName first cs = .ok (some r)) (budget : Nat) (s : σ) :
    unplaced (readMembers record (budget + 1) first s cs) =
      (unplaced (record.readMember s r)).bind fun p =>
        unplaced (readMembers record budget false p.1 p.2) := by
  rw [readMembers_succ, hnext]
  simp only
  cases record.readMember s r <;> rfl

/-! ## The effect of members -/

/-- What a member of a given name does to the parts of a record. -/
def Record.namedEffect (record : Record σ α) (s : σ) (v : List Char) (name : String) :
    Except Cause σ :=
  match record.member name s with
  | none => .ok s
  | some (.error cause) => .error cause
  | some (.ok read) => (unplaced (read v)).map Prod.fst

def Record.effect (record : Record σ α) (s : σ) (m : List Char × List Char) : Except Cause σ :=
  (unplaced (readText (m.1 ++ ['"']))).bind fun p => record.namedEffect s m.2 p.1

theorem Blank.colon_append {sp : List Char} (hsp : Blank sp) (cs : List Char) :
    colon (sp ++ ':' :: cs) = .ok cs := by
  rw [colon, hsp.skipSpace_cons rfl]
  rfl

theorem Record.OfValues.unplaced_readNamed (hrecord : record.OfValues) {v sp sp' : List Char}
    (hv : Value v) (hsp : Blank sp) (hsp' : Blank sp') (hrest : AfterValue rest) (s : σ)
    (name : String) :
    unplaced (record.readNamed s name (sp ++ ':' :: (sp' ++ (v ++ rest)))) =
      (record.namedEffect s v name).map (·, rest) := by
  rw [Record.readNamed, Record.namedEffect]
  cases hmember : record.member name s with
  | none =>
      simp only [hsp.colon_append, hv.skipValue_append hsp' hrest]
      rfl
  | some outcome =>
  cases outcome with
  | error cause => rfl
  | ok read =>
      simp only [hsp.colon_append]
      rw [hrecord.localMember hmember hsp' hv hrest]
      cases unplaced (read v) <;> rfl

/-- A member has its effect wherever it stands. -/
theorem Record.OfValues.unplaced_readMember (hrecord : record.OfValues) {key v sp sp' : List Char}
    (hkey : TextBody key) (hv : Value v) (hsp : Blank sp) (hsp' : Blank sp')
    (hrest : AfterValue rest) (s : σ) :
    unplaced (record.readMember s (key ++ '"' :: (sp ++ ':' :: (sp' ++ (v ++ rest))))) =
      (record.effect s (key, v)).map (·, rest) := by
  obtain ⟨result, hname⟩ := hkey.settles_readText
  have halone : unplaced (readText (key ++ ['"'])) = result.map (·, []) := hname [] trivial
  have hhere : unplaced (readText (key ++ '"' :: (sp ++ ':' :: (sp' ++ (v ++ rest))))) =
      result.map (·, sp ++ ':' :: (sp' ++ (v ++ rest))) := hname _ trivial
  rw [Record.readMember, Record.effect, halone]
  cases hread : readText (key ++ '"' :: (sp ++ ':' :: (sp' ++ (v ++ rest)))) with
  | error f =>
      rw [hread] at hhere
      cases result with
      | error cause => exact congrArg Except.error (Except.error.inj hhere)
      | ok name => cases hhere
  | ok p =>
      rw [hread] at hhere
      cases result with
      | error cause => cases hhere
      | ok name =>
          cases hhere
          exact hrecord.unplaced_readNamed hv hsp hsp' hrest s name

/-- **Reading goes on behind the first members** of an object with the effect that they have. -/
theorem unplaced_readMembers_opening (hrecord : record.OfValues)
    {ms : List (List Char × List Char)} {p : List Char} (h : Opening Member first ms p)
    (hms : ∀ m ∈ ms, TextBody m.1 ∧ Value m.2) (hrest : ms ≠ [] → AfterValue rest) (budget : Nat)
    (s : σ) :
    unplaced (readMembers record (budget + ms.length) first s (p ++ rest)) =
      (ms.foldlM record.effect s).bind fun s' =>
        unplaced (readMembers record budget (first && ms.isEmpty) s' rest) := by
  induction ms generalizing first p s with
  | nil =>
      obtain rfl := h.eq_nil
      rw [List.isEmpty_nil, Bool.and_true]
      rfl
  | cons m ms ih =>
      obtain ⟨hm, hms⟩ := List.forall_mem_cons.mp hms
      obtain ⟨sp, sp', q, hsp, hsp', hq, hnext⟩ := h.exists_nextName
      have hrest := hrest (List.cons_ne_nil m ms)
      rw [List.length_cons, ← Nat.add_assoc, unplaced_readMembers (hnext rest),
        hrecord.unplaced_readMember hm.1 hm.2 hsp hsp' (hq.afterValue hrest), List.foldlM_cons]
      cases record.effect s m with
      | error cause => rfl
      | ok s' =>
          have hlater := ih hq hms (fun _ => hrest) s'
          rw [List.isEmpty_cons, Bool.and_false]
          exact hlater

/-! ## The effect of elements -/

/-- What an element does to the parts of a record. -/
def elementEffect (s : σ) (e : (σ → Reader σ) × List Char) : Except Cause σ :=
  (unplaced (e.1 s e.2)).map Prod.fst

/-- One round, without the place of a fault. -/
theorem unplaced_readElements {count : Nat} (hnext : nextElement (count == 0) cs = .ok (some r))
    (s : σ) (read : σ → Reader σ) (more : List (σ → Reader σ)) :
    unplaced (readElements count s cs (read :: more)) =
      (unplaced (read s r)).bind fun p => unplaced (readElements (count + 1) p.1 p.2 more) := by
  rw [readElements, hnext]
  simp only
  cases read s r <;> rfl

/-- **Reading goes on behind the first elements** of a list with the effect that they have. -/
theorem unplaced_readElements_opening {reads : List (σ → Reader σ)}
    (hreads : ∀ read ∈ reads, ∀ s, (read s).Local) {count : Nat} {vs : List (List Char)}
    {p : List Char} (h : Opening Element (count == 0) vs p) (hvs : ∀ v ∈ vs, Value v)
    (hlength : vs.length ≤ reads.length) (hrest : vs ≠ [] → AfterValue rest) (s : σ) :
    unplaced (readElements count s (p ++ rest) reads) =
      ((reads.zip vs).foldlM elementEffect s).bind fun s' =>
        unplaced (readElements (count + vs.length) s' rest (reads.drop vs.length)) := by
  induction vs generalizing count p s reads with
  | nil =>
      obtain rfl := h.eq_nil
      rw [List.zip_nil_right]
      rfl
  | cons v vs ih =>
      cases reads with
      | nil => cases hlength
      | cons read reads =>
      obtain ⟨hread, hreads⟩ := List.forall_mem_cons.mp hreads
      obtain ⟨hv, hvs⟩ := List.forall_mem_cons.mp hvs
      obtain ⟨q, hq, hnext⟩ := h.exists_nextElement hv
      have hrest := hrest (List.cons_ne_nil v vs)
      have helement := hread s .nil hv (hq.afterValue hrest)
      rw [List.nil_append] at helement
      rw [unplaced_readElements (hnext rest), helement, List.zip_cons_cons, List.foldlM_cons,
        elementEffect]
      cases unplaced (read s v) with
      | error cause => rfl
      | ok p =>
          have hq : Opening Element (count + 1 == 0) vs q := hq
          have hlater := ih hreads hq hvs (Nat.le_of_succ_le_succ hlength) (fun _ => hrest) p.1
          rw [Nat.add_right_comm, Nat.add_assoc] at hlater
          exact hlater

/-! ## Objects and lists -/

theorem Record.read_object (record : Record σ α) {sp : List Char} (hsp : Blank sp)
    (cs : List Char) :
    record.read (sp ++ '\x7b' :: cs) =
      match readMembers record (cs.length + 1) true record.empty cs with
      | .error f => .error f
      | .ok (s, r) => record.close s r := by
  rw [Record.read, hsp.skipSpace_cons rfl]
  rfl

/-- The value of the elements of a list, of which there were `count`, and the end of the list. -/
def Record.endList (record : Record σ α) (count : Nat) (s : σ) (cs : List Char) :
    Except Failure (α × List Char) :=
  if count < record.required then
    .error (.here (.tooFewElements count
      ("struct " ++ record.title ++ " with " ++ toString record.elements.length ++ " elements"))
      (pastList cs))
  else match listEnd cs with
    | .error f => .error f
    | .ok r => record.close s r

theorem Record.read_list (record : Record σ α) {sp : List Char} (hsp : Blank sp)
    (cs : List Char) :
    record.read (sp ++ '[' :: cs) =
      match readElements 0 record.empty cs record.elements with
      | .error f => .error f
      | .ok (count, s, r) => record.endList count s r := by
  rw [Record.read, hsp.skipSpace_cons rfl]
  rfl

end Switchboard.Json
