import Switchboard.Proofs.Json.Acceptance
import Switchboard.Proofs.Json.Parts

/-!
# A value can be read in one way only

The grammar is unambiguous: where a value begins, and something follows it that may follow a value,
its end is determined (`Value.append_inj`), and so are the elements of a list and the members of an
object (`Enclosed.inj`). For a value as a whole this comes from the check, which leaves one rest. It
follows that an object or a list holds one value at a place (`Holds.functional`).
-/

namespace Switchboard.Json

/-! ## Unique decomposition -/

/-- Space ends where something else begins. -/
theorem Blank.append_inj {sp sp' r r' : List Char} {c c' : Char} (hsp : Blank sp)
    (hsp' : Blank sp') (hc : isSpace c = false) (hc' : isSpace c' = false)
    (h : sp ++ c :: r = sp' ++ c' :: r') : sp = sp' ∧ c = c' ∧ r = r' := by
  have hskip : ∀ {sp r : List Char} {c : Char}, Blank sp → isSpace c = false →
      skipSpace (sp ++ c :: r) = c :: r := by
    intro sp r c hsp hc
    rw [skipSpace, List.dropWhile_append_of_pos hsp, List.dropWhile_cons, if_neg (by simp [hc])]
  have hrest : c :: r = c' :: r' := by rw [← hskip hsp hc, h, hskip hsp' hc']
  obtain ⟨rfl, rfl⟩ := List.cons.inj hrest
  exact ⟨List.append_cancel_right h, rfl, rfl⟩

/-- The characters of a text end at the first quote that is not escaped. -/
theorem TextBody.append_inj {body body' r r' : List Char} (hb : TextBody body)
    (hb' : TextBody body') (h : body ++ '"' :: r = body' ++ '"' :: r') : body = body' ∧ r = r' := by
  have hscan : ∀ {body r : List Char}, TextBody body →
      scan (.text false) [] (body ++ '"' :: r) = .ok r := by
    intro body r hb
    rw [scan_textBody hb, scan_of_closed (show step (.text false) [] '"' = .closed [] by rfl),
      scan_more_nil]
  have hrest : Except.ok r = (.ok r' : Except Failure _) := by rw [← hscan hb, h, hscan hb']
  obtain rfl := Except.ok.inj hrest
  exact ⟨List.append_cancel_right h, rfl⟩

/-- **A value has one end.** -/
theorem Value.append_inj {v v' r r' : List Char} (hv : Value v) (hv' : Value v')
    (hr : AfterValue r) (hr' : AfterValue r') (h : v ++ r = v' ++ r') : v = v' ∧ r = r' := by
  have hskip := hv.skipValue_append .nil hr
  have hskip' := hv'.skipValue_append .nil hr'
  rw [List.nil_append] at hskip hskip'
  rw [h, hskip'] at hskip
  obtain rfl := Except.ok.inj hskip
  exact ⟨List.append_cancel_right h, rfl⟩

/-- A value and the space before it. -/
theorem Value.spaced_inj {sp sp' v v' r r' : List Char} (hv : Value v) (hsp : Blank sp)
    (hsp' : Blank sp') (hv' : Value v') (hr : AfterValue r) (hr' : AfterValue r')
    (h : sp ++ (v ++ r) = sp' ++ (v' ++ r')) : v = v' ∧ r = r' := by
  apply hv.append_inj hv' hr hr'
  have hskip := hv.skipSpace_append hsp r
  rw [h, hv'.skipSpace_append hsp' r'] at hskip
  exact hskip.symm

/-- Parts with this property have one end, and begin with something else than a closing bracket. -/
structure OneWay {α : Type} (nest : Nest) (Part : α → List Char → Prop) (Good : α → Prop) :
    Prop where
  start : ∀ {a t}, Good a → Part a t → ∃ sp c r, t = sp ++ c :: r ∧ Blank sp ∧
    isSpace c = false ∧ c ≠ nest.closer
  inj : ∀ {a a' t t' r r'}, Good a → Good a' → Part a t → Part a' t' → AfterValue r →
    AfterValue r' → t ++ r = t' ++ r' → a = a' ∧ r = r'

/-- **The parts between brackets are determined.** -/
theorem Enclosed.inj {α : Type} {nest : Nest} {Part : α → List Char → Prop} {Good : α → Prop}
    (hpart : OneWay nest Part Good) {first : Bool} {as as' : List α} {cs cs' r r' : List Char}
    (h : Enclosed nest.closer Part first as cs) (h' : Enclosed nest.closer Part first as' cs')
    (hgood : ∀ a ∈ as, Good a) (hgood' : ∀ a ∈ as', Good a) (heq : cs ++ r = cs' ++ r') :
    as = as' := by
  -- what closes is neither a blank nor a comma, so it tells the three cases apart
  have hcloser : isSpace nest.closer = false ∧ nest.closer ≠ ',' := by
    cases nest <;> exact ⟨rfl, by decide⟩
  induction h generalizing as' cs' with
  | @close first sp hsp =>
    cases h' with
    | close => rfl
    | @first a as t cs ht _ =>
      obtain ⟨sp', c, u, rfl, hsp', hc, hne⟩ := hpart.start (hgood' a (by simp)) ht
      simp only [List.append_assoc, List.cons_append, List.nil_append] at heq
      exact absurd (hsp.append_inj hsp' hcloser.1 hc heq).2.1.symm hne
    | @next a as sp' t cs hsp' _ _ =>
      simp only [List.append_assoc, List.cons_append, List.nil_append] at heq
      exact absurd (hsp.append_inj hsp' hcloser.1 (by decide) heq).2.1 hcloser.2
  | @first a as t cs ht hcs ih =>
    rw [List.forall_mem_cons] at hgood
    cases h' with
    | @close _ sp hsp =>
      obtain ⟨sp', c, u, rfl, hsp', hc, hne⟩ := hpart.start hgood.1 ht
      simp only [List.append_assoc, List.cons_append, List.nil_append] at heq
      exact absurd (hsp'.append_inj hsp hc hcloser.1 heq).2.1 hne
    | @first a' as' t' cs' ht' hcs' =>
      rw [List.forall_mem_cons] at hgood'
      rw [List.append_assoc, List.append_assoc] at heq
      obtain ⟨rfl, hrest⟩ := hpart.inj hgood.1 hgood'.1 ht ht' (hcs.afterValue nest r)
        (hcs'.afterValue nest r') heq
      rw [ih hcs' hgood.2 hgood'.2 hrest]
  | @next a as sp t cs hsp ht hcs ih =>
    rw [List.forall_mem_cons] at hgood
    cases h' with
    | @close _ sp' hsp' =>
      simp only [List.append_assoc, List.cons_append, List.nil_append] at heq
      exact absurd (hsp.append_inj hsp' (by decide) hcloser.1 heq).2.1.symm hcloser.2
    | @next a' as' sp' t' cs' hsp' ht' hcs' =>
      rw [List.forall_mem_cons] at hgood'
      simp only [List.append_assoc, List.cons_append] at heq
      obtain ⟨-, -, heq⟩ := hsp.append_inj hsp' (by decide) (by decide) heq
      obtain ⟨rfl, hrest⟩ := hpart.inj hgood.1 hgood'.1 ht ht' (hcs.afterValue nest r)
        (hcs'.afterValue nest r') heq
      rw [ih hcs' hgood.2 hgood'.2 hrest]

/-! ## Elements and members -/

theorem oneWay_element : OneWay .list Element Value where
  start := by
    intro v t hv ht
    obtain ⟨hsp⟩ := ht
    obtain ⟨c, r, rfl, hc, hne, -⟩ := hv.head
    exact ⟨_, c, r, rfl, hsp, hc, hne⟩
  inj := by
    intro v v' t t' r r' hv hv' ht ht' hr hr' heq
    obtain ⟨hsp⟩ := ht
    obtain ⟨hsp'⟩ := ht'
    rw [List.append_assoc, List.append_assoc] at heq
    exact hv.spaced_inj hsp hsp' hv' hr hr' heq

theorem oneWay_member : OneWay .object Member fun m => TextBody m.1 ∧ Value m.2 where
  start := by
    intro m t hm ht
    obtain ⟨hsp, -, -⟩ := ht
    exact ⟨_, '"', _, rfl, hsp, by decide, by decide⟩
  inj := by
    intro m m' t t' r r' hm hm' ht ht' hr hr' heq
    obtain @⟨_, _, _, key, v, hsp, hsp₁, hsp₂⟩ := ht
    obtain @⟨_, _, _, key', v', hsp', hsp₁', hsp₂'⟩ := ht'
    obtain ⟨hkey, hv⟩ := hm
    obtain ⟨hkey', hv'⟩ := hm'
    simp only [List.append_assoc, List.cons_append] at hkey hv hkey' hv' heq
    obtain ⟨-, -, hname⟩ := hsp.append_inj hsp' (by decide) (by decide) heq
    obtain ⟨rfl, hcolon⟩ := hkey.append_inj hkey' hname
    obtain ⟨-, -, hvalue⟩ := hsp₁.append_inj hsp₁' (by decide) (by decide) hcolon
    obtain ⟨rfl, hrest⟩ := hv.spaced_inj hsp₂ hsp₂' hv' hr hr' hvalue
    exact ⟨rfl, hrest⟩

/-- **What a value holds at a place is determined.** -/
theorem Holds.functional {name : String} {index : Nat} {v v' w : List Char}
    (h : Holds name index v w) (h' : Holds name index v' w) : v = v' := by
  generalize hw : w = w' at h'
  cases h with
  | @object _ _ _ cs hms hgood hkey hothers =>
    cases h' with
    | @object before after key _ hms' hgood' hkey' _ =>
      obtain ⟨-, rfl⟩ := List.cons.inj hw
      have hwhole : cs ++ [] = cs ++ [] := rfl
      have hall := Enclosed.inj oneWay_member hms hms' hgood hgood' hwhole
      -- the member of the one reading is among those of the other, and only one has the name
      have hmem : (key, v') ∈ before ++ (key, v') :: after := by simp
      rw [← hall, List.mem_append, List.mem_cons] at hmem
      rcases hmem with hmem | hmem | hmem
      · exact absurd hkey' (hothers _ (List.mem_append_left _ hmem))
      · exact (Prod.mk.inj hmem).2.symm
      · exact absurd hkey' (hothers _ (List.mem_append_right _ hmem))
    | list => cases hw
  | @list vs cs hvs hgood hindex =>
    cases h' with
    | object => cases hw
    | list hvs' hgood' hindex' =>
      obtain ⟨-, rfl⟩ := List.cons.inj hw
      have hwhole : cs ++ [] = cs ++ [] := rfl
      obtain rfl := Enclosed.inj oneWay_element hvs hvs' hgood hgood' hwhole
      exact Option.some.inj (hindex.symm.trans hindex')

end Switchboard.Json
