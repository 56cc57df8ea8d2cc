import Switchboard.Proofs.Json.Number

/-!
# The grammar of JSON values

`Value v` says that the characters `v` are one JSON value by the grammar of the format, with no
space around it. The pieces come first: space, numbers, and the characters between the quotes of a
text, which may be told by their form alone (`TextBody`) or together with the text that they spell
(`Spells`). Lists and objects are both parts between brackets, with commas between them
(`Enclosed`).

Nothing here says how a value is read. That the check of values accepts exactly these is shown in
`Switchboard.Proofs.Json.Check` and `Switchboard.Proofs.Json.Acceptance`, and that texts are read as
what they spell in `Switchboard.Proofs.Json.Spelling`.
-/

namespace Switchboard.Json

def Blank (cs : List Char) : Prop := ∀ c ∈ cs, isSpace c = true

theorem Blank.nil : Blank [] := by simp [Blank]

theorem blank_cons {c : Char} {cs : List Char} : Blank (c :: cs) ↔ isSpace c = true ∧ Blank cs := by
  simp [Blank]

theorem Blank.cons {c : Char} {cs : List Char} (hc : isSpace c = true) (hcs : Blank cs) :
    Blank (c :: cs) :=
  blank_cons.mpr ⟨hc, hcs⟩

/-! ## Texts -/

/-- Four hexadecimal digits, with the code unit that they stand for. -/
inductive CodeUnit : List Char → Nat → Prop
  | mk {a b c d : Char} {i j k l : Nat} : hexValue? a = some i → hexValue? b = some j →
      hexValue? c = some k → hexValue? d = some l →
      CodeUnit [a, b, c, d] (16 * (16 * (16 * (16 * 0 + i) + j) + k) + l)

/-- Four digits make a code unit. -/
theorem exists_codeUnit {h : List Char} (hlength : h.length = 4)
    (hdigits : ∀ c ∈ h, (hexValue? c).isSome) : ∃ n, CodeUnit h n := by
  match h, hlength with
  | [a, b, c, d], _ =>
    simp only [List.mem_cons, List.not_mem_nil, or_false, forall_eq_or_imp, forall_eq,
      Option.isSome_iff_exists] at hdigits
    obtain ⟨⟨i, hi⟩, ⟨j, hj⟩, ⟨k, hk⟩, l, hl⟩ := hdigits
    exact ⟨_, .mk hi hj hk hl⟩

/-- A hexadecimal digit takes one byte. -/
theorem utf8Size_of_isSome {c : Char} (h : (hexValue? c).isSome) : c.utf8Size = 1 := by
  have hsmall : c.toNat ≤ 0x66 := by
    unfold hexValue? at h
    grind
  have hval : c.val ≤ 0x7F := Nat.le_trans hsmall (by decide)
  exact if_pos hval

/-- What may stand between the quotes of a text that is not looked into: its escapes have the right
form, but a surrogate needs no partner. -/
inductive TextBody : List Char → Prop
  | nil : TextBody []
  | plain {c : Char} {body : List Char} : c ≠ '"' → c ≠ '\\' → ¬c < ' ' → TextBody body →
      TextBody (c :: body)
  | letter {e : Char} {body : List Char} : e ∈ ['"', '\\', '/', 'b', 'f', 'n', 'r', 't'] →
      TextBody body → TextBody ('\\' :: e :: body)
  | unit {h body : List Char} {n : Nat} : CodeUnit h n → TextBody body →
      TextBody ('\\' :: 'u' :: (h ++ body))

/-- The characters between the quotes of a text, and the characters of the text itself. -/
inductive Spells : List Char → List Char → Prop
  | nil : Spells [] []
  | plain {c : Char} {body s : List Char} : c ≠ '"' → c ≠ '\\' → ¬c < ' ' → Spells body s →
      Spells (c :: body) (c :: s)
  | letter {e c : Char} {body s : List Char} : escapeLetter? e = some c → Spells body s →
      Spells ('\\' :: e :: body) (c :: s)
  | unit {h body s : List Char} {n : Nat} : CodeUnit h n → isTrailing n = false →
      isLeading n = false → Spells body s → Spells ('\\' :: 'u' :: (h ++ body)) (Char.ofNat n :: s)
  /-- Beyond the first plane a character is written as a pair of surrogates. -/
  | pair {h h' body s : List Char} {m n : Nat} : CodeUnit h m → isLeading m = true →
      CodeUnit h' n → isTrailing n = true → Spells body s →
      Spells ('\\' :: 'u' :: (h ++ '\\' :: 'u' :: (h' ++ body)))
        (Char.ofNat (0x10000 + (m - 0xD800) * 0x400 + (n - 0xDC00)) :: s)

theorem mem_of_escapeLetter? {e c : Char} (h : escapeLetter? e = some c) :
    e ∈ ['"', '\\', '/', 'b', 'f', 'n', 'r', 't'] := by
  unfold escapeLetter? at h
  grind

/-- What spells a text has the form of one. -/
theorem Spells.textBody {body s : List Char} (h : Spells body s) : TextBody body := by
  induction h with
  | nil => exact .nil
  | plain hquote hslash hspace _ ih => exact .plain hquote hslash hspace ih
  | letter he _ ih => exact .letter (mem_of_escapeLetter? he) ih
  | unit hu _ _ _ ih => exact .unit hu ih
  | pair hu _ hu' _ _ ih => exact .unit hu (.unit hu' ih)

/-! ## Numbers -/

def Digits (ds : List Char) : Prop := ds ≠ [] ∧ ∀ c ∈ ds, c.isDigit = true

/-- The digits before the point; only a zero alone may come first. -/
inductive WholePart : List Char → Prop
  | zero : WholePart ['0']
  | digits {d : Char} {ds : List Char} : d ≠ '0' → Digits (d :: ds) → WholePart (d :: ds)

inductive FractionPart : List Char → Prop
  | none : FractionPart []
  | digits {ds : List Char} : Digits ds → FractionPart ('.' :: ds)

inductive ExponentPart : List Char → Prop
  | none : ExponentPart []
  | digits {e : Char} {sign ds : List Char} : e = 'e' ∨ e = 'E' →
      sign = [] ∨ sign = ['+'] ∨ sign = ['-'] → Digits ds → ExponentPart (e :: (sign ++ ds))

inductive NumberText : List Char → Prop
  | mk {sign ws fs es : List Char} : sign = [] ∨ sign = ['-'] → WholePart ws → FractionPart fs →
      ExponentPart es → NumberText (sign ++ (ws ++ (fs ++ es)))

/-! ## Lists and objects -/

section Enclosed

variable {α : Type}

/-- Parts with commas between them up to a closing bracket, from after the opening bracket or from
after a part. `Part a t` says that `t` is the part `a` with space where it may be. -/
inductive Enclosed (closer : Char) (Part : α → List Char → Prop) : Bool → List α → List Char → Prop
  | close {first : Bool} {sp : List Char} : Blank sp →
      Enclosed closer Part first [] (sp ++ [closer])
  | first {a : α} {as : List α} {t cs : List Char} : Part a t → Enclosed closer Part false as cs →
      Enclosed closer Part true (a :: as) (t ++ cs)
  | next {a : α} {as : List α} {sp t cs : List Char} : Blank sp → Part a t →
      Enclosed closer Part false as cs →
      Enclosed closer Part false (a :: as) (sp ++ ',' :: (t ++ cs))

end Enclosed

inductive Element : List Char → List Char → Prop
  | mk {sp v : List Char} : Blank sp → Element v (sp ++ v)

/-- A member as what stands between the quotes of its name and its value. -/
inductive Member : List Char × List Char → List Char → Prop
  | mk {sp sp' sp'' key v : List Char} : Blank sp → Blank sp' → Blank sp'' →
      Member (key, v) (sp ++ '"' :: (key ++ '"' :: (sp' ++ ':' :: (sp'' ++ v))))

abbrev Elements : Bool → List (List Char) → List Char → Prop := Enclosed ']' Element

abbrev Members : Bool → List (List Char × List Char) → List Char → Prop := Enclosed '\x7d' Member

/-- One JSON value, with no space around it. -/
inductive Value : List Char → Prop
  | word {w : List Char} :
      w ∈ [['n', 'u', 'l', 'l'], ['t', 'r', 'u', 'e'], ['f', 'a', 'l', 's', 'e']] → Value w
  | number {ds : List Char} : NumberText ds → Value ds
  | text {body : List Char} : TextBody body → Value ('"' :: (body ++ ['"']))
  | list {vs : List (List Char)} {cs : List Char} : Elements true vs cs →
      (∀ v ∈ vs, Value v) → Value ('[' :: cs)
  | object {ms : List (List Char × List Char)} {cs : List Char} : Members true ms cs →
      (∀ m ∈ ms, TextBody m.1) → (∀ m ∈ ms, Value m.2) → Value ('\x7b' :: cs)

/-! ## How a value begins -/

theorem WholePart.head {ws : List Char} (h : WholePart ws) :
    ∃ d ds, ws = d :: ds ∧ d.isDigit = true := by
  cases h with
  | zero => exact ⟨_, _, rfl, rfl⟩
  | @digits d ds _ hd => exact ⟨d, ds, rfl, hd.2 d List.mem_cons_self⟩

/-- A value has a first character. It is no space and closes no list, and only `null` begins with
its letter. -/
theorem Value.head {v : List Char} (h : Value v) :
    ∃ c r, v = c :: r ∧ isSpace c = false ∧ c ≠ ']' ∧ (c = 'n' → v = ['n', 'u', 'l', 'l']) := by
  cases h with
  | word hw =>
    simp only [List.mem_cons, List.not_mem_nil, or_false] at hw
    rcases hw with rfl | rfl | rfl
    · exact ⟨_, _, rfl, rfl, by decide, fun _ => rfl⟩
    · exact ⟨_, _, rfl, rfl, by decide, by decide⟩
    · exact ⟨_, _, rfl, rfl, by decide, by decide⟩
  | number hn =>
    obtain ⟨hsign, hw, -, -⟩ := hn
    obtain ⟨d, ds, rfl, hd⟩ := hw.head
    have hother : d ≠ ']' ∧ d ≠ 'n' := by constructor <;> (rintro rfl; revert hd; decide)
    rcases hsign with rfl | rfl
    · exact ⟨d, _, rfl, isSpace_of_isDigit hd, hother.1, fun h => absurd h hother.2⟩
    · exact ⟨_, _, rfl, rfl, by decide, fun h => absurd h (by decide)⟩
  | text hb => exact ⟨_, _, rfl, rfl, by decide, fun h => absurd h (by decide)⟩
  | list he hv => exact ⟨_, _, rfl, rfl, by decide, fun h => absurd h (by decide)⟩
  | object hm hk hv => exact ⟨_, _, rfl, rfl, by decide, fun h => absurd h (by decide)⟩

/-- Nothing of a value is skipped as space. -/
theorem Value.skipSpace_append {v : List Char} (h : Value v) {sp : List Char} (hsp : Blank sp)
    (rest : List Char) : skipSpace (sp ++ (v ++ rest)) = v ++ rest := by
  obtain ⟨c, r, rfl, hc, -, -⟩ := h.head
  rw [skipSpace, List.dropWhile_append_of_pos hsp, List.cons_append, List.dropWhile_cons,
    if_neg (by simp [hc])]

end Switchboard.Json
