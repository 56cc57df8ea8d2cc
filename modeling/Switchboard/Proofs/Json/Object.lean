import Switchboard.Proofs.Json.Number
import Switchboard.Proofs.Json.Text

/-!
# Reading back what was written as an object

`ReadsMembers record parts ms parts'` says that `record` takes the written members `ms`, one after
the other, and gets from `parts` to `parts'` by them. A record that takes its members in this
sense reads the written object (`Record.read_writeObject`), and so do `readWhole?` and everything
that is made of them. The relation is proved for a record by looking at one member at a time.
-/

namespace Switchboard.Json

variable {σ α : Type}

/-- `record` takes the written members `ms` in order, whatever follows each value in an object. -/
inductive ReadsMembers (record : Record σ α) : σ → List (String × List Char) → σ → Prop
  | nil (parts : σ) : ReadsMembers record parts [] parts
  | cons {parts parts' parts'' : σ} {name : String} {value : List Char}
      {ms : List (String × List Char)} {read : Reader σ} :
      record.member name parts = some (.ok read) →
      (∀ rest, EndsValue rest → read (value ++ rest) = .ok (parts', rest)) →
      ReadsMembers record parts' ms parts'' →
      ReadsMembers record parts ((name, value) :: ms) parts''

/-- Members that were read one after the other were read in one go. -/
theorem ReadsMembers.append {record : Record σ α} {parts parts' parts'' : σ}
    {ms ms' : List (String × List Char)} (h : ReadsMembers record parts ms parts')
    (h' : ReadsMembers record parts' ms' parts'') :
    ReadsMembers record parts (ms ++ ms') parts'' := by
  induction h with
  | nil => exact h'
  | cons hmember hread _ ih => exact .cons hmember hread (ih h')

/-! ## The characters of an object -/

/-- The characters of an object from after its opening brace, or from after a member. -/
def membersFrom : Bool → List (String × List Char) → List Char
  | _, [] => ['\x7d']
  | true, m :: ms => writeText m.1 ++ ':' :: m.2 ++ membersFrom false ms
  | false, m :: ms => ',' :: writeText m.1 ++ ':' :: m.2 ++ membersFrom false ms

theorem writeObject_eq (ms : List (String × List Char)) :
    writeObject ms = '\x7b' :: membersFrom true ms := by
  have hmore : ∀ (m : String × List Char) (ms : List (String × List Char)),
      List.intercalate [','] ((m :: ms).map fun m => writeText m.1 ++ ':' :: m.2) ++ ['\x7d'] =
        writeText m.1 ++ ':' :: m.2 ++ membersFrom false ms := by
    intro m ms
    induction ms generalizing m with
    | nil => simp [List.intercalate, membersFrom]
    | cons m' ms ih =>
        have hm' := ih m'
        simp only [List.map_cons, List.intercalate, List.intersperse_cons_cons] at hm' ⊢
        simp only [List.flatten_cons, List.append_assoc, membersFrom] at hm' ⊢
        rw [hm']
        simp
  cases ms with
  | nil => rfl
  | cons m ms =>
      rw [writeObject, List.cons_append, hmore m ms, membersFrom]

/-- After a value an object goes on with a comma or its closing brace. -/
theorem endsValue_membersFrom (ms : List (String × List Char)) (rest : List Char) :
    EndsValue (membersFrom false ms ++ rest) := by
  cases ms with
  | nil => exact .brace rest
  | cons m ms => exact .comma _

theorem length_membersFrom (first : Bool) (ms : List (String × List Char)) :
    ms.length < (membersFrom first ms).length := by
  induction ms generalizing first with
  | nil => simp [membersFrom]
  | cons m ms ih =>
      have hms := ih false
      cases first <;> simp [membersFrom] <;> omega

/-! ## Reading members -/

/-- The name of the next member stands where an object is read on. -/
theorem nextName_membersFrom (first : Bool) (m : String × List Char)
    (ms : List (String × List Char)) (rest : List Char) :
    nextName first (membersFrom first (m :: ms) ++ rest) =
      .ok (some (m.1.toList.flatMap writeChar ++
        '"' :: ':' :: (m.2 ++ (membersFrom false ms ++ rest)))) := by
  cases first <;> simp [nextName, membersFrom, writeText, skipSpace_cons, isSpace]

/-- The object ends where no member is left. -/
theorem nextName_membersFrom_nil (first : Bool) (rest : List Char) :
    nextName first (membersFrom first [] ++ rest) = .ok none := by
  cases first <;> rfl

/-- A record that takes the members reads them up to the closing brace. -/
theorem readMembers_membersFrom {record : Record σ α} {parts parts' : σ}
    {ms : List (String × List Char)} (h : ReadsMembers record parts ms parts')
    (budget : Nat) (hb : ms.length < budget) (first : Bool) (rest : List Char) :
    readMembers record budget first parts (membersFrom first ms ++ rest) = .ok (parts', rest) := by
  induction h generalizing budget first with
  | nil parts =>
      obtain ⟨budget, rfl⟩ := Nat.exists_eq_add_one_of_ne_zero (by omega : budget ≠ 0)
      rw [readMembers, nextName_membersFrom_nil]
      cases first <;> rfl
  | @cons parts parts' parts'' name value ms read hmember hread _ ih =>
      obtain ⟨budget, rfl⟩ := Nat.exists_eq_add_one_of_ne_zero (by omega : budget ≠ 0)
      have hends := endsValue_membersFrom ms rest
      have hcolon : ∀ cs, colon (':' :: cs) = .ok cs := fun cs => rfl
      rw [readMembers, nextName_membersFrom]
      simp only [readText_written, hmember, hcolon, hread _ hends]
      exact ih budget (by simpa using hb) false

/-- **Objects are read back.** A record that takes the members of a written object reads the
object, up to what its parts amount to. -/
theorem Record.read_writeObject {record : Record σ α} {parts : σ}
    {ms : List (String × List Char)} (h : ReadsMembers record record.empty ms parts)
    (rest : List Char) :
    record.read (writeObject ms ++ rest) = record.close parts rest := by
  have hlength := length_membersFrom true ms
  rw [Record.read, writeObject_eq, List.cons_append, skipSpace_cons, if_neg (by decide)]
  simp only
  rw [readMembers_membersFrom h _ (by rw [List.length_append]; omega)]

/-! ## Members and whole texts -/

/-- One of the known names is read back. -/
theorem variant_writeText {known : List (String × α)} {name : String} {a : α}
    (h : known.lookup name = some a) (rest : List Char) :
    variant known (writeText name ++ rest) = .ok (a, rest) := by
  rw [variant, writeText_append, skipSpace_cons, if_neg (by decide)]
  simp only [readText_written, lookUp, h]

/-- An optional value that is there is read like any other, unless it begins like `null`. -/
theorem optional_append {read : Reader α} {value rest : List Char} {a : α}
    (hread : read (value ++ rest) = .ok (a, rest))
    (hhead : ∃ c r, value = c :: r ∧ isSpace c = false ∧ c ≠ 'n') :
    optional read (value ++ rest) = .ok (some a, rest) := by
  obtain ⟨c, r, rfl, hspace, hn⟩ := hhead
  rw [List.cons_append] at hread
  rw [optional, List.cons_append, skipSpace_cons, if_neg (by simp [hspace])]
  split
  · next h => exact absurd (List.cons.inj h).1 hn
  · rw [Reader.map, hread]

theorem Reader.map_ok {β : Type} {read : Reader β} {cs rest : List Char} {b : β}
    (h : read cs = .ok (b, rest)) (put : β → σ) : read.map put cs = .ok (put b, rest) := by
  rw [Reader.map, h]

/-- A member that is written only when it is there is read into its slot, which `set` fills. -/
theorem ReadsMembers.ofOption {β : Type} (record : Record σ α) (name : String)
    {read : Reader (Option β)} {write : β → List Char} (set : Option (Option β) → σ)
    (hmember : record.member name (set none) = some (.ok (read.map fun v => set (some v))))
    (hread : ∀ b rest, EndsValue rest → read (write b ++ rest) = .ok (some b, rest))
    (v : Option β) :
    ReadsMembers record (set none) (v.map fun b => (name, write b)).toList (set (v.map some)) := by
  cases v with
  | none => exact .nil (set none)
  | some b => exact .cons hmember (fun rest hr => Reader.map_ok (hread b rest hr) _) (.nil _)

/-- A reader that takes all of a text reads it as a whole. -/
theorem readWhole?_ofList {read : Reader α} {cs : List Char} {a : α}
    (h : read cs = .ok (a, [])) : readWhole? read (String.ofList cs) = .ok a := by
  rw [readWhole?, String.toList_ofList]
  simp [h, atEnd]

end Switchboard.Json
