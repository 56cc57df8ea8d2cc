import Switchboard.Json.Value
import Switchboard.Proofs.Json.Grammar

/-!
# The check of values accepts nothing but values

`skipValue` goes through a value one character at a time, with the open brackets on a stack. What it
still needs at some point is told by the grammar: `Finishes stand u` says that the characters `u`
finish what the check stands in, and `Closes nests t rest` that `t` goes on until all brackets
`nests` are closed before `rest`. Every accepting run finds just that (`asks_of_scan`), by induction
on the characters, so what it accepts is a value (`exists_value_of_skipValue`). That every value is
accepted is shown in `Switchboard.Proofs.Json.Acceptance`.
-/

namespace Switchboard.Json

/-! ## Inside brackets -/

/-- The characters `u` go on inside a bracket, up to and including its end. -/
def Nest.Inside (first : Bool) : Nest → List Char → Prop
  | list, u => ∃ vs, Elements first vs u ∧ ∀ v ∈ vs, Value v
  | object, u => ∃ ms, Members first ms u ∧ (∀ m ∈ ms, TextBody m.1) ∧ ∀ m ∈ ms, Value m.2

namespace Nest.Inside

variable {nest : Nest} {first : Bool} {u v : List Char}

theorem close (nest : Nest) (first : Bool) : nest.Inside first [nest.closer] := by
  cases nest with
  | list => exact ⟨[], .close .nil, by simp⟩
  | object => exact ⟨[], .close .nil, by simp, by simp⟩

theorem spaced {α : Type} {closer : Char} {Part : α → List Char → Prop} {as : List α} {c : Char}
    (hc : isSpace c = true) (hpart : ∀ a t, Part a t → Part a (c :: t))
    (h : Enclosed closer Part first as u) : Enclosed closer Part first as (c :: u) := by
  cases h with
  | @close _ sp hsp => exact .close (.cons hc hsp)
  | @first a as t cs ht hcs => exact .first (hpart a t ht) hcs
  | @next a as sp t cs hsp ht hcs => exact .next (.cons hc hsp) ht hcs

/-- Blanks may stand before the first part, or before the end. -/
theorem space {c : Char} (hc : isSpace c = true) (h : nest.Inside first u) :
    nest.Inside first (c :: u) := by
  cases nest with
  | list =>
    obtain ⟨vs, hvs, hv⟩ := h
    refine ⟨vs, spaced hc ?_ hvs, hv⟩
    rintro _ _ ⟨hsp⟩
    exact .mk (.cons hc hsp)
  | object =>
    obtain ⟨ms, hms, hm⟩ := h
    refine ⟨ms, spaced hc ?_ hms, hm⟩
    rintro _ _ ⟨hsp, hsp', hsp''⟩
    exact .mk (.cons hc hsp) hsp' hsp''

/-! ### Elements and members -/

/-- The first element of a list. -/
theorem element (hv : Value v) (h : Nest.list.Inside false u) : Nest.list.Inside true (v ++ u) := by
  obtain ⟨vs, hvs, hvals⟩ := h
  exact ⟨v :: vs, .first (.mk .nil) hvs, List.forall_mem_cons.mpr ⟨hv, hvals⟩⟩

/-- A further element of a list. -/
theorem elements {sp : List Char} (hsp : Blank sp) (hv : Value v) (h : Nest.list.Inside false u) :
    Nest.list.Inside false (',' :: ((sp ++ v) ++ u)) := by
  obtain ⟨vs, hvs, hvals⟩ := h
  exact ⟨v :: vs, .next .nil (.mk hsp) hvs, List.forall_mem_cons.mpr ⟨hv, hvals⟩⟩

/-- The first member of an object. -/
theorem member {key m : List Char} (hm : Member (key, v) m) (hkey : TextBody key) (hv : Value v)
    (h : Nest.object.Inside false u) : Nest.object.Inside true (m ++ u) := by
  obtain ⟨ms, hms, hkeys, hvals⟩ := h
  exact ⟨(key, v) :: ms, .first hm hms, List.forall_mem_cons.mpr ⟨hkey, hkeys⟩,
    List.forall_mem_cons.mpr ⟨hv, hvals⟩⟩

/-- A further member of an object. -/
theorem members {key m : List Char} (hm : Member (key, v) m) (hkey : TextBody key) (hv : Value v)
    (h : Nest.object.Inside false u) : Nest.object.Inside false (',' :: (m ++ u)) := by
  obtain ⟨ms, hms, hkeys, hvals⟩ := h
  exact ⟨(key, v) :: ms, .next .nil hm hms, List.forall_mem_cons.mpr ⟨hkey, hkeys⟩,
    List.forall_mem_cons.mpr ⟨hv, hvals⟩⟩

end Nest.Inside

/-! ## What is still needed -/

def MemberTail (u : List Char) : Prop :=
  ∃ sp sp' v, Blank sp ∧ Blank sp' ∧ Value v ∧ u = sp ++ ':' :: (sp' ++ v)

/-- What follows the closing quote of a text: nothing, or the value that has the text as its
name. -/
def AfterText (isName : Bool) (u : List Char) : Prop := if isName then MemberTail u else u = []

def MoreDigits (ds : List Char) : Prop := ∀ c ∈ ds, c.isDigit = true

/-- The characters `u` finish what the check stands in. -/
def Finishes : Stand → List Char → Prop
  | .value, u => ∃ sp v, Blank sp ∧ Value v ∧ u = sp ++ v
  | .element, u => Nest.list.Inside true u
  | .member, u => Nest.object.Inside true u
  | .name, u => ∃ sp key tail, Blank sp ∧ TextBody key ∧ MemberTail tail ∧
      u = sp ++ '"' :: (key ++ '"' :: tail)
  | .colon, u => MemberTail u
  | .more, u => u = []
  | .word ws, u => u = ws
  | .minus, u => ∃ ws fs es, WholePart ws ∧ FractionPart fs ∧ ExponentPart es ∧ u = ws ++ (fs ++ es)
  | .zero, u => ∃ fs es, FractionPart fs ∧ ExponentPart es ∧ u = fs ++ es
  | .whole, u => ∃ ds fs es, MoreDigits ds ∧ FractionPart fs ∧ ExponentPart es ∧
      u = ds ++ (fs ++ es)
  | .point, u => ∃ ds es, Digits ds ∧ ExponentPart es ∧ u = ds ++ es
  | .fraction, u => ∃ ds es, MoreDigits ds ∧ ExponentPart es ∧ u = ds ++ es
  | .exponent, u => ∃ sign ds, (sign = [] ∨ sign = ['+'] ∨ sign = ['-']) ∧ Digits ds ∧
      u = sign ++ ds
  | .exponentSign, u => Digits u
  | .exponentDigits, u => MoreDigits u
  | .text isName, u => ∃ body tail, TextBody body ∧ AfterText isName tail ∧ u = body ++ '"' :: tail
  | .escape isName, u => ∃ body tail, TextBody ('\\' :: body) ∧ AfterText isName tail ∧
      u = body ++ '"' :: tail
  | .hex isName need valid, u => valid = true ∧ ∃ hs body tail, hs.length = need ∧
      (∀ c ∈ hs, (hexValue? c).isSome) ∧ TextBody body ∧ AfterText isName tail ∧
      u = hs ++ (body ++ '"' :: tail)

/-- The characters `t` go on after a value until the brackets `nests` are closed before `rest`. -/
def Closes : List Nest → List Char → List Char → Prop
  | [], t, rest => t = rest
  | nest :: nests, t, rest => ∃ u t', t = u ++ t' ∧ nest.Inside false u ∧ Closes nests t' rest

/-- The brackets around what the check stands in. -/
def Stand.outer : Stand → List Nest → List Nest
  | .element, nests | .member, nests => nests.tail
  | _, nests => nests

/-- What the check needs to end before `rest`. -/
def Asks (stand : Stand) (nests : List Nest) (cs rest : List Char) : Prop :=
  ∃ u t, cs = u ++ t ∧ Finishes stand u ∧ Closes (stand.outer nests) t rest

/-- The brackets are those that the check can have met. -/
def Stand.Fits : Stand → List Nest → Prop
  | .element, nests => ∃ outer, nests = .list :: outer
  | .member, nests => ∃ outer, nests = .object :: outer
  | .word ws, _ => ws ≠ []
  | .hex _ need _, _ => 0 < need
  | _, _ => True

/-! ## What is accepted is a value -/

section Sound

variable {c : Char} {cs rest : List Char} {nests : List Nest}

/-- What is left after a step of the check. -/
def Step.leaves (c : Char) (cs : List Char) : Step → Except Failure (List Char)
  | .next stand nests => scan stand nests cs
  | .done => .ok cs
  | .stop => .ok (c :: cs)
  | .refuse cause skip => .error ⟨cause, Text.byteCount (c :: cs) - skip⟩

theorem scan_cons (stand : Stand) (nests : List Nest) (c : Char) (cs : List Char) :
    scan stand nests (c :: cs) = (step stand nests c).leaves c cs := by
  rw [scan]
  cases step stand nests c <;> rfl

theorem scan_more_nil (cs : List Char) : scan .more [] cs = .ok cs := by
  cases cs <;> rfl

/-- A closed list or object is a value like any other. -/
theorem leaves_closed (nests : List Nest) (c : Char) (cs : List Char) :
    (Step.closed nests).leaves c cs = scan .more nests cs := by
  cases nests with
  | nil => exact (scan_more_nil cs).symm
  | cons nest nests => rfl

/-- The check of `cs` finds all that it asks for. -/
def Sound (cs rest : List Char) : Prop :=
  ∀ stand nests, stand.Fits nests → scan stand nests cs = .ok rest → Asks stand nests cs rest

/-- What follows a value closes what is open. -/
theorem Sound.more (ih : Sound cs rest) (h : scan .more nests cs = .ok rest) :
    Closes nests cs rest := by
  obtain ⟨u, t, rfl, rfl, hclose⟩ := ih .more nests trivial h
  exact hclose

theorem Sound.next (ih : Sound cs rest) {stand : Stand}
    (h : (Step.next stand nests).leaves c cs = .ok rest) (hfits : stand.Fits nests) :
    Asks stand nests cs rest :=
  ih stand nests hfits h

/-! ### What may come at each stand -/

/-- A value that is started is a value. -/
theorem Sound.start (ih : Sound cs rest) (h : (Step.start nests c).leaves c cs = .ok rest) :
    ∃ v t, c :: cs = v ++ t ∧ Value v ∧ Closes nests t rest := by
  -- one case for each character that a value can start with
  unfold Step.start at h
  split at h
  · next hc =>
    subst hc
    obtain ⟨_, t, rfl, rfl, hclose⟩ := ih.next h (by simp [Stand.Fits])
    exact ⟨['n', 'u', 'l', 'l'], t, rfl, .word (by simp), hclose⟩
  split at h
  · next hc =>
    subst hc
    obtain ⟨_, t, rfl, rfl, hclose⟩ := ih.next h (by simp [Stand.Fits])
    exact ⟨['t', 'r', 'u', 'e'], t, rfl, .word (by simp), hclose⟩
  split at h
  · next hc =>
    subst hc
    obtain ⟨_, t, rfl, rfl, hclose⟩ := ih.next h (by simp [Stand.Fits])
    exact ⟨['f', 'a', 'l', 's', 'e'], t, rfl, .word (by simp), hclose⟩
  split at h
  · next hc =>
    subst hc
    obtain ⟨_, t, rfl, ⟨ws, fs, es, hw, hf, he, rfl⟩, hclose⟩ := ih.next h trivial
    exact ⟨'-' :: (ws ++ (fs ++ es)), t, rfl, .number (.mk (.inr rfl) hw hf he), hclose⟩
  split at h
  · next hc =>
    subst hc
    obtain ⟨_, t, rfl, ⟨fs, es, hf, he, rfl⟩, hclose⟩ := ih.next h trivial
    exact ⟨'0' :: (fs ++ es), t, rfl, .number (.mk (.inl rfl) .zero hf he), hclose⟩
  split at h
  · next hzero hdigit =>
    obtain ⟨_, t, rfl, ⟨ds, fs, es, hd, hf, he, rfl⟩, hclose⟩ := ih.next h trivial
    have hw : WholePart (c :: ds) :=
      .digits hzero ⟨List.cons_ne_nil c ds, List.forall_mem_cons.mpr ⟨hdigit, hd⟩⟩
    exact ⟨(c :: ds) ++ (fs ++ es), t, rfl, .number (.mk (.inl rfl) hw hf he), hclose⟩
  split at h
  · next hc =>
    subst hc
    obtain ⟨_, t, rfl, ⟨body, _, hb, rfl, rfl⟩, hclose⟩ := ih.next h trivial
    exact ⟨'"' :: (body ++ ['"']), t, rfl, .text hb, hclose⟩
  split at h
  · next hc =>
    subst hc
    obtain ⟨u, t, rfl, ⟨vs, hvs, hv⟩, hclose⟩ := ih.next h ⟨nests, rfl⟩
    exact ⟨'[' :: u, t, rfl, .list hvs hv, hclose⟩
  split at h
  · next hc =>
    subst hc
    obtain ⟨u, t, rfl, ⟨ms, hms, hk, hv⟩, hclose⟩ := ih.next h ⟨nests, rfl⟩
    exact ⟨'\x7b' :: u, t, rfl, .object hms hk hv, hclose⟩
  · cases h

/-- A member begins with its name. -/
theorem Sound.beginName (ih : Sound cs rest)
    (h : (Step.beginName nests c).leaves c cs = .ok rest) :
    ∃ key tail t, c :: cs = '"' :: (key ++ '"' :: tail) ++ t ∧ TextBody key ∧ MemberTail tail ∧
      Closes nests t rest := by
  unfold Step.beginName at h
  split at h
  · next hc =>
    subst hc
    obtain ⟨_, t, rfl, ⟨key, tail, hkey, htail, rfl⟩, hclose⟩ := ih.next h trivial
    exact ⟨key, tail, t, rfl, hkey, htail, hclose⟩
  · cases h

/-- The member that a name and a tail make up, with space before it. -/
theorem MemberTail.member {tail : List Char} (htail : MemberTail tail) (key : List Char)
    {sp : List Char} (hsp : Blank sp) :
    ∃ v, Value v ∧ Member (key, v) (sp ++ '"' :: (key ++ '"' :: tail)) := by
  obtain ⟨sp', sp'', v, hsp', hsp'', hv, rfl⟩ := htail
  exact ⟨v, hv, .mk hsp hsp' hsp''⟩

/-- What follows a value goes on as the open brackets ask. -/
theorem Sound.after (ih : Sound cs rest) (h : (Step.after nests c).leaves c cs = .ok rest) :
    Closes nests (c :: cs) rest := by
  cases nests with
  | nil =>
    cases h
    rfl
  | cons nest nests =>
    -- a blank, the end of what is open, or another part of it
    simp only [Step.after] at h
    split at h
    · next hc =>
      obtain ⟨u, t, rfl, hu, hclose⟩ := ih.more h
      exact ⟨c :: u, t, rfl, hu.space hc, hclose⟩
    split at h
    · next hc =>
      rw [leaves_closed] at h
      exact ⟨[c], cs, rfl, hc ▸ .close nest false, ih.more h⟩
    split at h
    · next hc =>
      subst hc
      cases nest with
      | list =>
        obtain ⟨_, _, rfl, ⟨sp, v, hsp, hv, rfl⟩, u, t, rfl, hu, hclose⟩ := ih.next h trivial
        exact ⟨',' :: ((sp ++ v) ++ u), t, by simp, hu.elements hsp hv, hclose⟩
      | object =>
        obtain ⟨_, _, rfl, ⟨sp, key, tail, hsp, hkey, htail, rfl⟩, u, t, rfl, hu, hclose⟩ :=
          ih.next h trivial
        obtain ⟨v, hv, hm⟩ := htail.member key hsp
        exact ⟨_, t, by simp, hu.members hm hkey hv, hclose⟩
    · cases nest <;> cases h

/-! ### One stand after the other -/

/-- Where a value is asked for, one begins. -/
theorem asks_of_value (ih : Sound cs rest) (h : scan .value nests (c :: cs) = .ok rest) :
    Asks .value nests (c :: cs) rest := by
  rw [scan_cons] at h
  simp only [step] at h
  split at h
  · next hc =>
    obtain ⟨_, t, rfl, ⟨sp, v, hsp, hv, rfl⟩, hclose⟩ := ih.next h trivial
    exact ⟨_, t, rfl, ⟨c :: sp, v, .cons hc hsp, hv, rfl⟩, hclose⟩
  · obtain ⟨v, t, heq, hv, hclose⟩ := ih.start h
    exact ⟨v, t, heq, ⟨[], v, .nil, hv, rfl⟩, hclose⟩

/-- After an opening bracket an element may begin, or the list may end. -/
theorem asks_of_element (ih : Sound cs rest)
    (h : scan .element (.list :: nests) (c :: cs) = .ok rest) :
    Asks .element (.list :: nests) (c :: cs) rest := by
  rw [scan_cons] at h
  simp only [step] at h
  split at h
  · next hc =>
    obtain ⟨u, t, rfl, hu, hclose⟩ := ih.next h ⟨nests, rfl⟩
    have hinside : Nest.list.Inside true u := hu
    exact ⟨c :: u, t, rfl, hinside.space hc, hclose⟩
  split at h
  · next hc =>
    rw [List.tail_cons, leaves_closed] at h
    exact ⟨[c], cs, rfl, hc ▸ .close .list true, ih.more h⟩
  · obtain ⟨v, _, heq, hv, u, t, rfl, hu, hclose⟩ := ih.start h
    exact ⟨v ++ u, t, by simpa using heq, hu.element hv, hclose⟩

/-- After an opening brace a name may begin, or the object may end. -/
theorem asks_of_member (ih : Sound cs rest)
    (h : scan .member (.object :: nests) (c :: cs) = .ok rest) :
    Asks .member (.object :: nests) (c :: cs) rest := by
  rw [scan_cons] at h
  simp only [step] at h
  split at h
  · next hc =>
    obtain ⟨u, t, rfl, hu, hclose⟩ := ih.next h ⟨nests, rfl⟩
    have hinside : Nest.object.Inside true u := hu
    exact ⟨c :: u, t, rfl, hinside.space hc, hclose⟩
  split at h
  · next hc =>
    rw [List.tail_cons, leaves_closed] at h
    exact ⟨[c], cs, rfl, hc ▸ .close .object true, ih.more h⟩
  · obtain ⟨key, tail, _, heq, hkey, htail, u, t, rfl, hu, hclose⟩ := ih.beginName h
    obtain ⟨v, hv, hm⟩ := htail.member key .nil
    exact ⟨_ ++ u, t, by simpa using heq, hu.member hm hkey hv, hclose⟩

theorem asks_of_name (ih : Sound cs rest) (h : scan .name nests (c :: cs) = .ok rest) :
    Asks .name nests (c :: cs) rest := by
  rw [scan_cons] at h
  simp only [step] at h
  split at h
  · next hc =>
    obtain ⟨_, t, rfl, ⟨sp, key, tail, hsp, hkey, htail, rfl⟩, hclose⟩ := ih.next h trivial
    exact ⟨_, t, rfl, ⟨c :: sp, key, tail, .cons hc hsp, hkey, htail, rfl⟩, hclose⟩
  · obtain ⟨key, tail, t, heq, hkey, htail, hclose⟩ := ih.beginName h
    exact ⟨_, t, heq, ⟨[], key, tail, .nil, hkey, htail, rfl⟩, hclose⟩

theorem asks_of_colon (ih : Sound cs rest) (h : scan .colon nests (c :: cs) = .ok rest) :
    Asks .colon nests (c :: cs) rest := by
  rw [scan_cons] at h
  simp only [step] at h
  split at h
  · next hc =>
    obtain ⟨_, t, rfl, ⟨sp, sp', v, hsp, hsp', hv, rfl⟩, hclose⟩ := ih.next h trivial
    exact ⟨_, t, rfl, ⟨c :: sp, sp', v, .cons hc hsp, hsp', hv, rfl⟩, hclose⟩
  split at h
  · next hc =>
    subst hc
    obtain ⟨_, t, rfl, ⟨sp, v, hsp, hv, rfl⟩, hclose⟩ := ih.next h trivial
    exact ⟨_, t, rfl, ⟨[], sp, v, .nil, hsp, hv, rfl⟩, hclose⟩
  · cases h

/-- A word goes on with its next letter. -/
theorem asks_of_word {ws : List Char} (ih : Sound cs rest) (hne : ws ≠ [])
    (h : scan (.word ws) nests (c :: cs) = .ok rest) : Asks (.word ws) nests (c :: cs) rest := by
  obtain ⟨w, ws, rfl⟩ := List.exists_cons_of_ne_nil hne
  rw [scan_cons] at h
  simp only [step] at h
  split at h
  · cases h
  next hc =>
  obtain rfl : c = w := by simpa using hc
  split at h
  · next hlast =>
    -- the word is complete
    obtain rfl : ws = [] := by simpa using hlast
    rw [leaves_closed] at h
    exact ⟨[c], cs, rfl, rfl, ih.more h⟩
  · next hmore =>
    obtain ⟨_, t, rfl, rfl, hclose⟩ := ih.next h (by simpa [Stand.Fits] using hmore)
    exact ⟨_, t, rfl, rfl, hclose⟩

/-! ### Numbers -/

theorem Sound.afterDigits (ih : Sound cs rest)
    (h : (Step.afterDigits nests c).leaves c cs = .ok rest) :
    ∃ es t, c :: cs = es ++ t ∧ ExponentPart es ∧ Closes nests t rest := by
  unfold Step.afterDigits at h
  split at h
  · next hc =>
    obtain ⟨_, t, rfl, ⟨sign, ds, hsign, hds, rfl⟩, hclose⟩ := ih.next h trivial
    exact ⟨c :: (sign ++ ds), t, rfl, .digits hc hsign hds, hclose⟩
  · exact ⟨[], c :: cs, rfl, .none, ih.after h⟩

/-- After the whole part a fraction may begin. -/
theorem Sound.afterWhole (ih : Sound cs rest)
    (h : (if c = '.' then Step.next .point nests else .afterDigits nests c).leaves c cs =
      .ok rest) :
    ∃ fs es t, c :: cs = fs ++ es ++ t ∧ FractionPart fs ∧ ExponentPart es ∧
      Closes nests t rest := by
  split at h
  · next hc =>
    subst hc
    obtain ⟨_, t, rfl, ⟨ds, es, hds, hes, rfl⟩, hclose⟩ := ih.next h trivial
    exact ⟨'.' :: ds, es, t, rfl, .digits hds, hes, hclose⟩
  · obtain ⟨es, t, heq, hes, hclose⟩ := ih.afterDigits h
    exact ⟨[], es, t, heq, .none, hes, hclose⟩

theorem MoreDigits.digits {ds : List Char} (hds : MoreDigits ds) (hc : c.isDigit = true) :
    Digits (c :: ds) :=
  ⟨List.cons_ne_nil c ds, List.forall_mem_cons.mpr ⟨hc, hds⟩⟩

/-! #### Whole parts -/

theorem asks_of_minus (ih : Sound cs rest) (h : scan .minus nests (c :: cs) = .ok rest) :
    Asks .minus nests (c :: cs) rest := by
  rw [scan_cons] at h
  simp only [step] at h
  split at h
  · next hc =>
    obtain ⟨_, t, rfl, ⟨fs, es, hfs, hes, rfl⟩, hclose⟩ := ih.next h trivial
    exact ⟨_, t, rfl, ⟨[c], fs, es, hc ▸ .zero, hfs, hes, rfl⟩, hclose⟩
  split at h
  · next hzero hc =>
    obtain ⟨_, t, rfl, ⟨ds, fs, es, hds, hfs, hes, rfl⟩, hclose⟩ := ih.next h trivial
    exact ⟨_, t, rfl, ⟨c :: ds, fs, es, .digits hzero (hds.digits hc), hfs, hes, rfl⟩, hclose⟩
  · cases h

theorem asks_of_zero (ih : Sound cs rest) (h : scan .zero nests (c :: cs) = .ok rest) :
    Asks .zero nests (c :: cs) rest := by
  rw [scan_cons] at h
  simp only [step] at h
  split at h
  · cases h
  · obtain ⟨fs, es, t, heq, hfs, hes, hclose⟩ := ih.afterWhole h
    exact ⟨fs ++ es, t, heq, ⟨fs, es, hfs, hes, rfl⟩, hclose⟩

theorem asks_of_whole (ih : Sound cs rest) (h : scan .whole nests (c :: cs) = .ok rest) :
    Asks .whole nests (c :: cs) rest := by
  rw [scan_cons] at h
  simp only [step] at h
  split at h
  · next hc =>
    obtain ⟨_, t, rfl, ⟨ds, fs, es, hds, hfs, hes, rfl⟩, hclose⟩ := ih.next h trivial
    exact ⟨_, t, rfl, ⟨c :: ds, fs, es, (hds.digits hc).2, hfs, hes, rfl⟩, hclose⟩
  · obtain ⟨fs, es, t, heq, hfs, hes, hclose⟩ := ih.afterWhole h
    exact ⟨fs ++ es, t, heq, ⟨[], fs, es, by simp [MoreDigits], hfs, hes, rfl⟩, hclose⟩

/-! #### Fractions and exponents -/

theorem asks_of_point (ih : Sound cs rest) (h : scan .point nests (c :: cs) = .ok rest) :
    Asks .point nests (c :: cs) rest := by
  rw [scan_cons] at h
  simp only [step] at h
  split at h
  · next hc =>
    obtain ⟨_, t, rfl, ⟨ds, es, hds, hes, rfl⟩, hclose⟩ := ih.next h trivial
    exact ⟨_, t, rfl, ⟨c :: ds, es, hds.digits hc, hes, rfl⟩, hclose⟩
  · cases h

theorem asks_of_fraction (ih : Sound cs rest) (h : scan .fraction nests (c :: cs) = .ok rest) :
    Asks .fraction nests (c :: cs) rest := by
  rw [scan_cons] at h
  simp only [step] at h
  split at h
  · next hc =>
    obtain ⟨_, t, rfl, ⟨ds, es, hds, hes, rfl⟩, hclose⟩ := ih.next h trivial
    exact ⟨_, t, rfl, ⟨c :: ds, es, (hds.digits hc).2, hes, rfl⟩, hclose⟩
  · obtain ⟨es, t, heq, hes, hclose⟩ := ih.afterDigits h
    exact ⟨es, t, heq, ⟨[], es, by simp [MoreDigits], hes, rfl⟩, hclose⟩

theorem asks_of_exponent (ih : Sound cs rest) (h : scan .exponent nests (c :: cs) = .ok rest) :
    Asks .exponent nests (c :: cs) rest := by
  rw [scan_cons] at h
  simp only [step] at h
  split at h
  · next hc =>
    obtain ⟨ds, t, rfl, hds, hclose⟩ := ih.next h trivial
    exact ⟨c :: ds, t, rfl, ⟨[c], ds, .inr (by simpa using hc), hds, rfl⟩, hclose⟩
  split at h
  · next hc =>
    obtain ⟨ds, t, rfl, hds, hclose⟩ := ih.next h trivial
    exact ⟨c :: ds, t, rfl, ⟨[], c :: ds, .inl rfl, MoreDigits.digits hds hc, rfl⟩, hclose⟩
  · cases h

theorem asks_of_exponentSign (ih : Sound cs rest)
    (h : scan .exponentSign nests (c :: cs) = .ok rest) :
    Asks .exponentSign nests (c :: cs) rest := by
  rw [scan_cons] at h
  simp only [step] at h
  split at h
  · next hc =>
    obtain ⟨ds, t, rfl, hds, hclose⟩ := ih.next h trivial
    exact ⟨c :: ds, t, rfl, MoreDigits.digits hds hc, hclose⟩
  · cases h

theorem asks_of_exponentDigits (ih : Sound cs rest)
    (h : scan .exponentDigits nests (c :: cs) = .ok rest) :
    Asks .exponentDigits nests (c :: cs) rest := by
  rw [scan_cons] at h
  simp only [step] at h
  split at h
  · next hc =>
    obtain ⟨ds, t, rfl, hds, hclose⟩ := ih.next h trivial
    exact ⟨c :: ds, t, rfl, (MoreDigits.digits hds hc).2, hclose⟩
  · exact ⟨[], c :: cs, rfl, by simp [Finishes, MoreDigits], ih.after h⟩

/-! ### Texts -/

/-- A text ends, goes on, or begins an escape. -/
theorem asks_of_text {isName : Bool} (ih : Sound cs rest)
    (h : scan (.text isName) nests (c :: cs) = .ok rest) :
    Asks (.text isName) nests (c :: cs) rest := by
  rw [scan_cons] at h
  simp only [step] at h
  split at h
  · next hc =>
    subst hc
    -- the end of a name is left to what follows, and the end of a text is the end of a value
    cases isName with
    | true =>
      obtain ⟨u, t, rfl, hu, hclose⟩ := ih.next h trivial
      exact ⟨'"' :: u, t, rfl, ⟨[], u, .nil, hu, rfl⟩, hclose⟩
    | false =>
      rw [if_neg (by decide), leaves_closed] at h
      exact ⟨['"'], cs, rfl, ⟨[], [], .nil, rfl, rfl⟩, ih.more h⟩
  split at h
  · next hc =>
    subst hc
    obtain ⟨_, t, rfl, ⟨body, tail, hb, htail, rfl⟩, hclose⟩ := ih.next h trivial
    exact ⟨_, t, rfl, ⟨'\\' :: body, tail, hb, htail, rfl⟩, hclose⟩
  split at h
  · cases h
  · next hquote hslash hspace =>
    obtain ⟨_, t, rfl, ⟨body, tail, hb, htail, rfl⟩, hclose⟩ := ih.next h trivial
    exact ⟨_, t, rfl, ⟨c :: body, tail, .plain hquote hslash hspace hb, htail, rfl⟩, hclose⟩

/-! #### Escapes -/

theorem asks_of_escape {isName : Bool} (ih : Sound cs rest)
    (h : scan (.escape isName) nests (c :: cs) = .ok rest) :
    Asks (.escape isName) nests (c :: cs) rest := by
  rw [scan_cons] at h
  simp only [step] at h
  split at h
  · next hc =>
    subst hc
    obtain ⟨_, t, rfl, ⟨-, hs, body, tail, hlength, hdigits, hb, htail, rfl⟩, hclose⟩ :=
      ih.next h (by simp [Stand.Fits])
    obtain ⟨n, hu⟩ := exists_codeUnit hlength hdigits
    exact ⟨'u' :: (hs ++ (body ++ '"' :: tail)), t, rfl,
      ⟨'u' :: (hs ++ body), tail, .unit hu hb, htail, by simp⟩, hclose⟩
  split at h
  · next hc =>
    obtain ⟨_, t, rfl, ⟨body, tail, hb, htail, rfl⟩, hclose⟩ := ih.next h trivial
    exact ⟨_, t, rfl, ⟨c :: body, tail, .letter hc hb, htail, rfl⟩, hclose⟩
  · cases h

/-- Four digits make a code unit, and not one of them fewer. -/
theorem asks_of_hex {isName valid : Bool} {need : Nat} (ih : Sound cs rest) (hneed : 0 < need)
    (h : scan (.hex isName need valid) nests (c :: cs) = .ok rest) :
    Asks (.hex isName need valid) nests (c :: cs) rest := by
  rw [scan_cons] at h
  simp only [step] at h
  split at h
  · next hsize =>
    obtain ⟨_, t, rfl, ⟨hvalid, hs, body, tail, hlength, hdigits, hb, htail, rfl⟩, hclose⟩ :=
      ih.next h (show 0 < need - c.utf8Size by omega)
    -- a digit takes one byte, so what is needed is one less
    obtain ⟨hvalid, hc⟩ := Bool.and_eq_true_iff.mp hvalid
    have hone := utf8Size_of_isSome hc
    refine ⟨_, t, rfl, ⟨hvalid, c :: hs, body, tail, ?_, ?_, hb, htail, rfl⟩, hclose⟩
    · rw [List.length_cons, hlength]
      omega
    · exact List.forall_mem_cons.mpr ⟨hc, hdigits⟩
  split at h
  · next hsize hboth =>
    obtain ⟨hvalid, hc⟩ := Bool.and_eq_true_iff.mp hboth
    have hone := utf8Size_of_isSome hc
    obtain ⟨_, t, rfl, ⟨body, tail, hb, htail, rfl⟩, hclose⟩ := ih.next h trivial
    refine ⟨_, t, rfl, ⟨hvalid, [c], body, tail, ?_, by simpa using hc, hb, htail, rfl⟩, hclose⟩
    rw [List.length_singleton]
    omega
  · cases h

/-! ### The whole check -/

/-- Where the text may end, nothing more is needed. -/
theorem asks_nil {stand : Stand} (hfits : stand.Fits nests) (h : scan stand nests [] = .ok rest) :
    Asks stand nests [] rest := by
  have hunfinished : stand.unfinished? nests = none ∧ rest = [] := by
    rw [scan] at h
    cases hu : stand.unfinished? nests with
    | none => rw [hu] at h; cases h; exact ⟨rfl, rfl⟩
    | some cause => rw [hu] at h; cases h
  obtain ⟨hnone, rfl⟩ := hunfinished
  -- after a number or after a value, with no bracket open
  have hnests : nests = [] ∧ stand ∈ [.more, .zero, .whole, .fraction, .exponentDigits] := by
    cases stand <;> cases nests <;> simp [Stand.unfinished?, Stand.Fits] at hnone hfits ⊢ <;> grind
  obtain ⟨rfl, hstand⟩ := hnests
  refine ⟨[], [], rfl, ?_, ?_⟩
  · simp only [List.mem_cons, List.not_mem_nil, or_false] at hstand
    rcases hstand with rfl | rfl | rfl | rfl | rfl
    · rfl
    · exact ⟨[], [], .none, .none, rfl⟩
    · exact ⟨[], [], [], by simp [MoreDigits], .none, .none, rfl⟩
    · exact ⟨[], [], by simp [MoreDigits], .none, rfl⟩
    · simp [Finishes, MoreDigits]
  · cases stand <;> rfl

/-- **What is accepted is what was asked for**, wherever the check stands. -/
theorem asks_of_scan (stand : Stand) (hfits : stand.Fits nests)
    (h : scan stand nests cs = .ok rest) : Asks stand nests cs rest := by
  -- one character at a time, each stand with its own lemma
  induction cs generalizing stand nests with
  | nil => exact asks_nil hfits h
  | cons c cs ih =>
    have ih : Sound cs rest := fun stand nests hfits h => ih stand hfits h
    cases stand with
    | value => exact asks_of_value ih h
    | element =>
      obtain ⟨outer, rfl⟩ := hfits
      exact asks_of_element ih h
    | member =>
      obtain ⟨outer, rfl⟩ := hfits
      exact asks_of_member ih h
    | name => exact asks_of_name ih h
    | colon => exact asks_of_colon ih h
    | more =>
      rw [scan_cons] at h
      exact ⟨[], c :: cs, rfl, rfl, ih.after h⟩
    | word ws => exact asks_of_word ih hfits h
    | minus => exact asks_of_minus ih h
    | zero => exact asks_of_zero ih h
    | whole => exact asks_of_whole ih h
    | point => exact asks_of_point ih h
    | fraction => exact asks_of_fraction ih h
    | exponent => exact asks_of_exponent ih h
    | exponentSign => exact asks_of_exponentSign ih h
    | exponentDigits => exact asks_of_exponentDigits ih h
    | text isName => exact asks_of_text ih h
    | escape isName => exact asks_of_escape ih h
    | hex isName need valid => exact asks_of_hex ih hfits h

/-- **Only values are accepted.** -/
theorem exists_value_of_skipValue (h : skipValue cs = .ok rest) :
    ∃ sp v, Blank sp ∧ Value v ∧ cs = sp ++ (v ++ rest) := by
  obtain ⟨_, t, rfl, ⟨sp, v, hsp, hv, rfl⟩, hclose⟩ := asks_of_scan .value trivial h
  obtain rfl : t = rest := hclose
  exact ⟨sp, v, hsp, hv, by simp⟩

end Sound

end Switchboard.Json
