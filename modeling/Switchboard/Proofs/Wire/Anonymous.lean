import Switchboard.Proofs.Json.Opening
import Switchboard.Proofs.Wire.Envelope

/-!
# Reading a frame but for its sender

`Slots.tell` gives the members that are read so far another sender. Only the sender itself is read
in another way after that: a member or an element of another name does not see it (`member_tell`,
`Blind`). So what stands behind the sender in a frame is read in the same way whatever the sender is
(`readMembers_tell`, `readElements_tell`), and `outcome` is what is left of the result of reading
when nobody asks for the sender or for the place of a fault.
-/

namespace Switchboard

open Json

namespace Envelope

variable {s s' : Slots} {x : Option (Option ClientId)} {cs r rest : List Char}

/-! ## The readers of the parts -/

theorem local_readId : readId.Local := local_optional (local_text.map ClientId.mk)

theorem local_readPayload : readPayload.Local := local_optional (local_raw.map Payload.mk)

/-- There are three ways to read a member. -/
theorem reader_of_member {name : String} {read : Reader Slots}
    (h : record.member name s = some (.ok read)) :
    (∃ put, read = text.map put) ∨ (∃ put, read = readId.map put) ∨
      ∃ put, read = readPayload.map put := by
  simp only [record, Slots.member] at h
  split_ifs at h
  all_goals try obtain ⟨-, rfl⟩ := once_eq_ok h
  · exact .inl ⟨_, rfl⟩
  · exact .inr (.inl ⟨_, rfl⟩)
  · exact .inr (.inl ⟨_, rfl⟩)
  · exact .inr (.inl ⟨_, rfl⟩)
  · exact .inr (.inr ⟨_, rfl⟩)
  · exact .inr (.inr ⟨_, rfl⟩)

theorem ofValues : record.OfValues where
  takes h := by
    obtain ⟨put, rfl⟩ | ⟨put, rfl⟩ | ⟨put, rfl⟩ := reader_of_member h
    · exact takes_text.map fun _ _ _ => trivial
    · exact takes_readId.map fun _ _ _ => trivial
    · exact takes_readPayload.map fun _ _ _ => trivial
  localMember h := by
    obtain ⟨put, rfl⟩ | ⟨put, rfl⟩ | ⟨put, rfl⟩ := reader_of_member h
    · exact local_text.map put
    · exact local_readId.map put
    · exact local_readPayload.map put
  localElement h s := by
    simp only [record, List.mem_cons, List.not_mem_nil, or_false] at h
    rcases h with rfl | rfl | rfl | rfl | rfl | rfl
    · exact local_text.map _
    · exact local_readId.map _
    · exact local_readId.map _
    · exact local_readId.map _
    · exact local_readPayload.map _
    · exact local_readPayload.map _

/-! ## Members with another sender -/

def Slots.tell (x : Option (Option ClientId)) (s : Slots) : Slots := { s with sender := x }

theorem Slots.tell_sender (s : Slots) : s.tell s.sender = s := rfl

theorem once_map {α : Type} {name : String} {slot : Option α} {read : Reader α}
    {put put' : α → Slots} (hput : ∀ a, put' a = (put a).tell x) :
    once name slot read put' =
      (once name slot read put).map fun outcome => outcome.map (Reader.map (Slots.tell x)) := by
  obtain rfl : put' = fun a => (put a).tell x := funext hput
  rw [once, once]
  split
  · rfl
  · rw [← Reader.map_map]
    rfl

/-- Another member than the sender does not see it. -/
theorem member_tell {name : String} (hname : name ≠ "from") (x : Option (Option ClientId))
    (s : Slots) :
    record.member name (s.tell x) =
      (record.member name s).map fun outcome => outcome.map (Reader.map (Slots.tell x)) := by
  simp only [record, Slots.member, if_neg hname]
  split
  · exact once_map fun _ => rfl
  split
  · exact once_map fun _ => rfl
  split
  · exact once_map fun _ => rfl
  split
  · exact once_map fun _ => rfl
  split
  · exact once_map fun _ => rfl
  · rfl

/-- A sender must not be told twice. -/
theorem readNamed_from (hs : s.sender.isSome) (cs : List Char) :
    record.readNamed s "from" cs = .error (.here (.duplicateField "from") (pastObject cs)) := by
  have hmember : record.member "from" s = some (.error (.duplicateField "from")) := by
    show once "from" s.sender readId _ = _
    rw [once, if_pos hs]
  rw [Record.readNamed, hmember]

theorem readNamed_tell {name : String} (hname : name ≠ "from") (x : Option (Option ClientId))
    (s : Slots) :
    record.readNamed (s.tell x) name = (record.readNamed s name).map (Slots.tell x) := by
  funext cs
  rw [Reader.map, Record.readNamed, Record.readNamed, member_tell hname]
  rcases record.member name s with _ | (cause | read)
  · simp only [Option.map_none]
    rcases colon cs with f | r
    · rfl
    · simp only
      cases skipValue r <;> rfl
  · rfl
  · simp only [Option.map_some, Except.map]
    rcases colon cs with f | r
    · rfl
    · simp only [Reader.map]

/-- Reading on does not show whether the sender is `x`: it is known either way, so that it must not
be told again, or nothing more is said about it. -/
def Indifferent (x : Option (Option ClientId)) (s : Slots) (cs : List Char) : Prop :=
  s.sender.isSome ∧ x.isSome ∨ ¬Ahead "from" cs

/-- A member is read in the same way with another sender. -/
theorem readMember_tell (h : Indifferent x s cs) (hnext : nextName false cs = .ok (some r)) :
    record.readMember (s.tell x) r = (record.readMember s).map (Slots.tell x) r := by
  rw [Reader.map, Record.readMember, Record.readMember]
  cases htext : readText r with
  | error f => rfl
  | ok p =>
  obtain ⟨name, u⟩ := p
  simp only
  by_cases hname : name = "from"
  · subst hname
    rcases h with ⟨hs, hx⟩ | hahead
    · rw [readNamed_from hs, readNamed_from (s := s.tell x) hx]
    · exact absurd (ahead_of_readText hnext htext) hahead
  · rw [readNamed_tell hname x s, Reader.map]

/-- What is told about the sender stays. -/
theorem sender_of_readMember (hs : s.sender.isSome) (hnext : nextName false cs = .ok (some r))
    (hread : record.readMember s r = .ok (s', rest)) : s'.sender = s.sender := by
  have hsame := readMember_tell (x := s.sender) (.inl ⟨hs, hs⟩) hnext
  rw [s.tell_sender, Reader.map, hread] at hsame
  simp only [Except.ok.injEq, Prod.mk.injEq, and_true] at hsame
  rw [hsame]
  rfl

theorem Indifferent.of_readMember (h : Indifferent x s cs) (hnext : nextName false cs = .ok (some r))
    (hread : record.readMember s r = .ok (s', rest)) : Indifferent x s' rest := by
  rcases h with ⟨hs, hx⟩ | hahead
  · exact .inl ⟨by rw [sender_of_readMember hs hnext hread]; exact hs, hx⟩
  · exact .inr fun hlater => hahead (hlater.of_readMember ofValues hnext hread)

/-- **The members after the sender** are read in the same way with another sender. -/
theorem readMembers_tell (h : Indifferent x s cs) (budget : Nat) :
    readMembers record budget false (s.tell x) cs =
      (readMembers record budget false s cs).map fun p => (p.1.tell x, p.2) := by
  induction budget generalizing s cs with
  | zero => rfl
  | succ budget ih =>
      rw [readMembers_succ, readMembers_succ]
      cases hnext : nextName false cs with
      | error f => rfl
      | ok next =>
      cases next with
      | none => rfl
      | some r =>
      simp only [readMember_tell h hnext, Reader.map]
      cases hread : record.readMember s r with
      | error f => rfl
      | ok p => exact ih (h.of_readMember hnext hread)

/-- A member of another name leaves the sender as it is. -/
theorem sender_of_namedEffect {name : String} {v : List Char} (hname : name ≠ "from")
    (h : record.namedEffect s v name = .ok s') : s'.sender = s.sender := by
  have htell := member_tell hname s.sender s
  rw [s.tell_sender] at htell
  rw [Record.namedEffect] at h
  rcases hmember : record.member name s with _ | (cause | read) <;>
    simp only [hmember] at h htell
  · rw [← Except.ok.inj h]
  · cases h
  -- what is read keeps the sender that it is told
  · have hread := Except.ok.inj (Option.some.inj htell)
    rw [hread, unplaced_map] at h
    cases hresult : unplaced (read v) with
    | error cause =>
        rw [hresult] at h
        cases h
    | ok p =>
        rw [hresult] at h
        rw [← Except.ok.inj h]
        rfl

theorem sender_of_effect {m : List Char × List Char} (hm : TextBody m.1)
    (hother : ¬Spells m.1 "from".toList) (h : record.effect s m = .ok s') :
    s'.sender = s.sender := by
  rw [Record.effect] at h
  cases htext : readText (m.1 ++ ['"']) with
  | error f =>
      rw [htext] at h
      cases h
  | ok p =>
      obtain ⟨name, u⟩ := p
      rw [htext] at h
      obtain ⟨key, hkey, heq⟩ := readText_eq_ok_iff.mp htext
      obtain ⟨hsame, -⟩ := hm.append_inj hkey.textBody heq
      have hname : name ≠ "from" := by
        rintro rfl
        exact hother (hsame ▸ hkey)
      exact sender_of_namedEffect hname h

theorem sender_of_effects {ms : List (List Char × List Char)} (hms : ∀ m ∈ ms, TextBody m.1)
    (hother : ∀ m ∈ ms, ¬Spells m.1 "from".toList) (h : ms.foldlM record.effect s = .ok s') :
    s'.sender = s.sender := by
  induction ms generalizing s with
  | nil =>
      cases h
      rfl
  | cons m ms ih =>
      obtain ⟨hm, hms⟩ := List.forall_mem_cons.mp hms
      obtain ⟨hno, hother⟩ := List.forall_mem_cons.mp hother
      rw [List.foldlM_cons] at h
      cases heffect : record.effect s m with
      | error cause =>
          rw [heffect] at h
          cases h
      | ok s₁ =>
          rw [heffect] at h
          rw [ih hms hother h, sender_of_effect hm hno heffect]

/-! ## Elements with another sender -/

/-- An element of another index than the sender does not see it. -/
def Blind (read : Slots → Reader Slots) : Prop :=
  ∀ x s, read (s.tell x) = (read s).map (Slots.tell x)

theorem blind_map {α : Type} (read : Reader α) {put : Slots → α → Slots}
    (hput : ∀ x s a, put (s.tell x) a = (put s a).tell x) : Blind fun s => read.map (put s) := by
  intro x s
  rw [Reader.map_map]
  exact congrArg read.map (funext (hput x s))

theorem blind_elements : ∀ read ∈ record.elements.drop 3, Blind read := by
  intro read h
  simp only [record, List.drop_succ_cons, List.drop_zero, List.mem_cons, List.not_mem_nil,
    or_false] at h
  rcases h with rfl | rfl | rfl
  · exact blind_map readId fun _ _ _ => rfl
  · exact blind_map readPayload fun _ _ _ => rfl
  · exact blind_map readPayload fun _ _ _ => rfl

/-- **The elements after the sender** are read in the same way with another sender. -/
theorem readElements_tell {reads : List (Slots → Reader Slots)}
    (hreads : ∀ read ∈ reads, Blind read) (count : Nat) (x : Option (Option ClientId)) (s : Slots)
    (cs : List Char) :
    readElements count (s.tell x) cs reads =
      (readElements count s cs reads).map fun q => (q.1, q.2.1.tell x, q.2.2) := by
  induction reads generalizing count s cs with
  | nil => rfl
  | cons read more ih =>
      obtain ⟨hread, hmore⟩ := List.forall_mem_cons.mp hreads
      rw [readElements, readElements]
      cases nextElement (count == 0) cs with
      | error f => rfl
      | ok next =>
      cases next with
      | none => rfl
      | some r =>
      simp only [hread x s, Reader.map]
      cases read s r with
      | error f => rfl
      | ok p => exact ih hmore (count + 1) p.1 p.2

/-- Without a comma a list does not go on. -/
theorem readElements_of_no_comma (hcomma : ∀ sp r, Blank sp → rest ≠ sp ++ ',' :: r) {count : Nat}
    (hcount : count ≠ 0) (s : Slots) (read : Slots → Reader Slots)
    (more : List (Slots → Reader Slots)) :
    readElements count s rest (read :: more) =
      match nextElement false rest with
      | .error f => .error f
      | .ok _ => .ok (count, s, rest) := by
  have hfirst : (count == 0) = false := by simpa using hcount
  rw [readElements, hfirst]
  rcases hnext : nextElement false rest with f | (_ | r)
  · rfl
  · rfl
  · obtain ⟨sp, hsp, ⟨hfirst, -⟩ | ⟨-, sp', -, heq⟩⟩ := exists_comma hnext
    · cases hfirst
    · exact absurd heq (hcomma sp (sp' ++ r) hsp)

/-! ## What is read but for the sender -/

def anonymous (e : Envelope) : Envelope := { e with sender := none }

/-- Where the sender is known, it does not matter what the envelope names. -/
theorem toMessage_anonymous (e : Envelope) (sender : ClientId) :
    e.anonymous.toMessage (some sender) = e.toMessage (some sender) := rfl

/-- What is read at the front of a text, but for the sender and the place of a fault. -/
def outcome (cs : List Char) : Except Cause (Envelope × List Char) :=
  (unplaced (read cs)).map fun p => (p.1.anonymous, p.2)

/-- The members read and what follows them, but for the sender. -/
def hushed (p : Slots × List Char) : Slots × List Char := (p.1.tell none, p.2)

theorem close_hushed (s : Slots) (r : List Char) :
    (unplaced (record.close s r)).map (fun p => (p.1.anonymous, p.2)) =
      unplaced (record.close (s.tell none) r) := by
  obtain ⟨kind, id, sender, recipient, sdp, candidate⟩ := s
  cases kind <;> rfl

theorem endList_hushed (count : Nat) (s : Slots) (r : List Char) :
    (unplaced (record.endList count s r)).map (fun p => (p.1.anonymous, p.2)) =
      unplaced (record.endList count (s.tell none) r) := by
  rw [Record.endList, Record.endList]
  split
  · rfl
  · cases listEnd r with
    | error f => rfl
    | ok r => exact close_hushed s r

theorem outcome_object {sp : List Char} (hsp : Blank sp) {budget : Nat} (hb : cs.length < budget) :
    outcome (sp ++ '\x7b' :: cs) =
      ((unplaced (readMembers record budget true record.empty cs)).map hushed).bind fun p =>
        unplaced (record.close p.1 p.2) := by
  rw [outcome, read, Record.read_object record hsp,
    readMembers_budget ofValues (Nat.lt_succ_self cs.length) hb]
  cases readMembers record budget true record.empty cs with
  | error f => rfl
  | ok p => exact close_hushed p.1 p.2

theorem outcome_list {sp : List Char} (hsp : Blank sp) :
    outcome (sp ++ '[' :: cs) =
      (unplaced (readElements 0 record.empty cs record.elements)).bind fun q =>
        unplaced (record.endList q.1 (q.2.1.tell none) q.2.2) := by
  rw [outcome, read, Record.read_list record hsp]
  cases readElements 0 record.empty cs record.elements with
  | error f => rfl
  | ok q => exact endList_hushed q.1 q.2.1 q.2.2

theorem hushed_tell (h : Indifferent x s cs) (budget : Nat) :
    (unplaced (readMembers record budget false (s.tell x) cs)).map hushed =
      (unplaced (readMembers record budget false s cs)).map hushed := by
  rw [readMembers_tell h budget]
  cases readMembers record budget false s cs <;> rfl

theorem hushed_elements_tell (count : Nat) (x : Option (Option ClientId)) (s : Slots)
    (cs : List Char) :
    ((unplaced (readElements count (s.tell x) cs (record.elements.drop 3))).bind fun q =>
        unplaced (record.endList q.1 (q.2.1.tell none) q.2.2)) =
      (unplaced (readElements count s cs (record.elements.drop 3))).bind fun q =>
        unplaced (record.endList q.1 (q.2.1.tell none) q.2.2) := by
  rw [readElements_tell blind_elements]
  cases readElements count s cs (record.elements.drop 3) <;> rfl

end Envelope

end Switchboard
