import Switchboard.Proofs.Wire.Batch

/-!
# The members of a frame come in any order

What an object comes to as a frame is the fold of the effects of its members. Each known member
fills one part of the envelope (`Part`), and no part can be filled twice, so the effects of two
members can be exchanged where both of them have one (`effect_swap`). Members of other names have no
effect, and a part that is filled with `null` counts as empty in the end.

`Rearranged ms ms'` says that one list of members comes from another by changes of this kind, and
`Written ms t` that `t` is an object with these members, however its tokens are spaced. The main
result is `Message.decode_of_rearranged`: a frame stays the same message.
-/

namespace Switchboard

open Json

namespace Envelope

/-! ## The parts of an envelope -/

inductive Part where
  | kind | id | sender | recipient | sdp | candidate
deriving DecidableEq

namespace Part

def name : Part → String
  | kind => "type"
  | id => "id"
  | sender => "from"
  | recipient => "to"
  | sdp => "sdp"
  | candidate => "candidate"

def Content : Part → Type
  | kind => String
  | id | sender | recipient => Option ClientId
  | sdp | candidate => Option Payload

def read : (p : Part) → Reader p.Content
  | kind => text
  | id | sender | recipient => readId
  | sdp | candidate => readPayload

theorem name_injective {p q : Part} (h : p.name = q.name) : p = q := by
  cases p <;> cases q <;> first | rfl | exact absurd h (by decide)

end Part

def Slots.get (s : Slots) : (p : Part) → Option p.Content
  | .kind => s.kind
  | .id => s.id
  | .sender => s.sender
  | .recipient => s.recipient
  | .sdp => s.sdp
  | .candidate => s.candidate

def Slots.put (s : Slots) : (p : Part) → p.Content → Slots
  | .kind, c => { s with kind := some c }
  | .id, c => { s with id := some c }
  | .sender, c => { s with sender := some c }
  | .recipient, c => { s with recipient := some c }
  | .sdp, c => { s with sdp := some c }
  | .candidate, c => { s with candidate := some c }

@[simp] theorem Slots.get_put (s : Slots) (p : Part) (c : p.Content) : (s.put p c).get p = some c := by
  cases p <;> rfl

theorem Slots.get_put_ne (s : Slots) {p q : Part} (h : p ≠ q) (c : p.Content) :
    (s.put p c).get q = s.get q := by
  cases p <;> cases q <;> first | rfl | exact absurd rfl h

theorem Slots.put_comm (s : Slots) {p q : Part} (h : p ≠ q) (c : p.Content) (d : q.Content) :
    (s.put p c).put q d = (s.put q d).put p c := by
  cases p <;> cases q <;> first | rfl | exact absurd rfl h

theorem member_part (p : Part) (s : Slots) :
    record.member p.name s = once p.name (s.get p) p.read (s.put p) := by
  cases p <;> rfl

variable {s s' s₁ s₂ : Slots} {name : String} {key key' v : List Char}
  {m m' : List Char × List Char} {ms ms' : List (List Char × List Char)}

/-- Members of other names are not looked at. -/
theorem member_unknown (h : ∀ p : Part, name ≠ p.name) (s : Slots) : record.member name s = none := by
  have hnames : name ≠ "type" ∧ name ≠ "id" ∧ name ≠ "from" ∧ name ≠ "to" ∧ name ≠ "sdp" ∧
      name ≠ "candidate" :=
    ⟨h .kind, h .id, h .sender, h .recipient, h .sdp, h .candidate⟩
  simp [record, Slots.member, hnames]

/-! ## The effect of one member -/

/-- A part is filled if it was empty before. -/
theorem namedEffect_part_eq_ok_iff {p : Part} :
    record.namedEffect s v p.name = .ok s' ↔
      s.get p = none ∧ ∃ c, alone p.read v = .ok c ∧ s' = s.put p c := by
  rw [Record.namedEffect, member_part, once]
  cases hget : s.get p with
  | some c => simp
  | none =>
      simp only [Option.isSome_none, Bool.false_eq_true, if_false, unplaced_map, alone]
      cases unplaced (p.read v) with
      | error cause => simp [Except.map]
      | ok r => simp [Except.map, eq_comm]

/-- **What a member does**: it has another name and does nothing, or it fills its part. -/
theorem effect_eq_ok_iff :
    record.effect s (key, v) = .ok s' ↔
      (∃ name, nameOf key = .ok name ∧ (∀ p : Part, name ≠ p.name) ∧ s' = s) ∨
        ∃ p : Part, nameOf key = .ok p.name ∧ s.get p = none ∧
          ∃ c, alone p.read v = .ok c ∧ s' = s.put p c := by
  rw [record.effect_eq]
  cases hname : nameOf key with
  | error cause => simp [Except.bind]
  | ok name =>
  simp only [Except.bind, Except.ok.injEq]
  by_cases hknown : ∃ p : Part, name = p.name
  · obtain ⟨p, rfl⟩ := hknown
    rw [namedEffect_part_eq_ok_iff]
    constructor
    · rintro ⟨hnone, hfill⟩
      exact .inr ⟨p, rfl, hnone, hfill⟩
    · rintro (⟨_, rfl, hunknown, -⟩ | ⟨q, hq, hnone, hfill⟩)
      · exact absurd rfl (hunknown p)
      · obtain rfl : p = q := Part.name_injective hq
        exact ⟨hnone, hfill⟩
  · rw [not_exists] at hknown
    rw [Record.namedEffect, member_unknown hknown]
    simp only [Except.ok.injEq]
    constructor
    · rintro rfl
      exact .inl ⟨name, rfl, hknown, rfl⟩
    · rintro (⟨_, rfl, -, rfl⟩ | ⟨q, hq, -⟩)
      · rfl
      · exact absurd hq (hknown q)

/-! ## Members in another order -/

/-- **Two members can be exchanged.** They have different names, or one of them would have failed.
-/
theorem effect_swap (h : record.effect s m = .ok s₁) (h' : record.effect s₁ m' = .ok s₂) :
    ∃ s', record.effect s m' = .ok s' ∧ record.effect s' m = .ok s₂ := by
  obtain ⟨key, v⟩ := m
  obtain ⟨key', v'⟩ := m'
  rcases effect_eq_ok_iff.mp h with ⟨name, hname, hunknown, rfl⟩ | ⟨p, hname, hnone, c, hc, rfl⟩
  · exact ⟨s₂, h', effect_eq_ok_iff.mpr (.inl ⟨name, hname, hunknown, rfl⟩)⟩
  rcases effect_eq_ok_iff.mp h' with ⟨name, hname', hunknown, rfl⟩ | ⟨q, hname', hnone', d, hd, rfl⟩
  · exact ⟨s, effect_eq_ok_iff.mpr (.inl ⟨name, hname', hunknown, rfl⟩), h⟩
  have hne : p ≠ q := by
    rintro rfl
    rw [s.get_put] at hnone'
    cases hnone'
  rw [s.get_put_ne hne] at hnone'
  refine ⟨s.put q d, effect_eq_ok_iff.mpr (.inr ⟨q, hname', hnone', d, hd, rfl⟩), ?_⟩
  have hstill : (s.put q d).get p = none := by rw [s.get_put_ne hne.symm, hnone]
  exact effect_eq_ok_iff.mpr (.inr ⟨p, hname, hstill, c, hc, s.put_comm hne c d⟩)

theorem foldlM_effect_cons :
    (m :: ms).foldlM record.effect s = .ok s' ↔
      ∃ s₁, record.effect s m = .ok s₁ ∧ ms.foldlM record.effect s₁ = .ok s' := by
  rw [List.foldlM_cons]
  cases record.effect s m with
  | error cause => simp [bind, Except.bind]
  | ok s₁ => simp [bind, Except.bind]

/-- **The order of the members does not matter.** -/
theorem foldlM_effect_perm (hperm : ms.Perm ms') (h : ms.foldlM record.effect s = .ok s') :
    ms'.foldlM record.effect s = .ok s' := by
  induction hperm generalizing s with
  | nil => exact h
  | cons m _ ih =>
      obtain ⟨s₁, hm, hms⟩ := foldlM_effect_cons.mp h
      exact foldlM_effect_cons.mpr ⟨s₁, hm, ih hms⟩
  | swap m m' ms =>
      obtain ⟨s₁, hm', hmore⟩ := foldlM_effect_cons.mp h
      obtain ⟨s₂, hm, hms⟩ := foldlM_effect_cons.mp hmore
      obtain ⟨s₃, hfirst, hsecond⟩ := effect_swap hm' hm
      exact foldlM_effect_cons.mpr ⟨s₃, hfirst, foldlM_effect_cons.mpr ⟨s₂, hsecond, hms⟩⟩
  | trans _ _ ih ih' => exact ih' (ih h)

/-! ## Members without effect -/

/-- The parts that a frame need not have. -/
def optionalParts : List Part := [.id, .sender, .recipient, .sdp, .candidate]

/-- A part that is filled with `null` is as good as empty. -/
theorem finish_put_null {p : Part} {c : p.Content} (hp : p ∈ optionalParts)
    (hnone : s.get p = none) (hc : alone p.read ['n', 'u', 'l', 'l'] = .ok c) :
    record.finish (s.put p c) = record.finish s := by
  cases p
  case kind => exact absurd hp (by decide)
  all_goals
    obtain rfl : none = c := Except.ok.inj hc
    rw [Slots.get] at hnone
    simp only [record, Slots.finish, Slots.put, hnone]
    rfl

theorem amount_eq_ok_iff {e : Envelope} :
    record.amount ms = .ok e ↔
      ∃ s, ms.foldlM record.effect record.empty = .ok s ∧ record.finish s = .ok e := by
  rw [Record.amount]
  cases ms.foldlM record.effect record.empty with
  | error cause => simp [Except.bind]
  | ok s => simp [Except.bind]

/-- A member of another name does nothing. -/
theorem effect_unknown (hkey : Spells key name.toList) (hname : ∀ p : Part, name ≠ p.name)
    (s : Slots) (v : List Char) : record.effect s (key, v) = .ok s :=
  effect_eq_ok_iff.mpr (.inl ⟨name, hkey.nameOf, hname, rfl⟩)

/-- Without a member that is `null` the same comes of the others. -/
theorem amount_of_null {e : Envelope} {p : Part} (hkey : Spells key p.name.toList)
    (hp : p ∈ optionalParts) (h : record.amount ((key, ['n', 'u', 'l', 'l']) :: ms) = .ok e) :
    record.amount ms = .ok e := by
  obtain ⟨s, hfold, hfinish⟩ := amount_eq_ok_iff.mp h
  -- the member is read after the others, so that only the end has to be compared
  have hlast : (ms ++ [(key, ['n', 'u', 'l', 'l'])]).foldlM record.effect record.empty = .ok s :=
    foldlM_effect_perm (List.perm_append_singleton _ ms).symm hfold
  rw [List.foldlM_append] at hlast
  cases hms : ms.foldlM record.effect record.empty with
  | error cause =>
      rw [hms] at hlast
      cases hlast
  | ok s₁ =>
      rw [hms] at hlast
      obtain ⟨s₂, hnull, hend⟩ := foldlM_effect_cons.mp hlast
      obtain rfl : s₂ = s := Except.ok.inj hend
      refine amount_eq_ok_iff.mpr ⟨s₁, hms, ?_⟩
      rw [← hfinish]
      rcases effect_eq_ok_iff.mp hnull with ⟨name, hname, hunknown, -⟩ | ⟨q, hq, hnone, c, hc, rfl⟩
      · obtain rfl : p.name = name := Except.ok.inj (hkey.nameOf.symm.trans hname)
        exact absurd rfl (hunknown p)
      · obtain rfl : p = q :=
          Part.name_injective (Except.ok.inj (hkey.nameOf.symm.trans hq))
        exact (finish_put_null hp hnone hc).symm

/-! ## Rearranged members -/

/-- One list of members comes from another by changes that do not matter to a frame: another order,
a member of another name that is added or taken away, a member taken away that is `null`, a name
spelled in another way. -/
inductive Rearranged : List (List Char × List Char) → List (List Char × List Char) → Prop
  | perm {ms ms' : List (List Char × List Char)} : ms.Perm ms' → Rearranged ms ms'
  | add {name : String} {key v : List Char} {ms : List (List Char × List Char)} :
      Spells key name.toList → (∀ p : Part, name ≠ p.name) → Value v →
      Rearranged ms ((key, v) :: ms)
  | remove {name : String} {key v : List Char} {ms : List (List Char × List Char)} :
      Spells key name.toList → (∀ p : Part, name ≠ p.name) → Rearranged ((key, v) :: ms) ms
  | removeNull {p : Part} {key : List Char} {ms : List (List Char × List Char)} :
      p ∈ optionalParts → Spells key p.name.toList →
      Rearranged ((key, ['n', 'u', 'l', 'l']) :: ms) ms
  | respell {name : String} {key key' v : List Char} {ms : List (List Char × List Char)} :
      Spells key name.toList → Spells key' name.toList →
      Rearranged ((key, v) :: ms) ((key', v) :: ms)
  | trans {ms ms' ms'' : List (List Char × List Char)} : Rearranged ms ms' →
      Rearranged ms' ms'' → Rearranged ms ms''

/-- Rearranged members are members again. -/
theorem Rearranged.good (h : Rearranged ms ms') (hms : ∀ m ∈ ms, TextBody m.1 ∧ Value m.2) :
    ∀ m ∈ ms', TextBody m.1 ∧ Value m.2 := by
  induction h with
  | perm hperm => exact fun m hm => hms m (hperm.mem_iff.mpr hm)
  | add hkey _ hv => exact List.forall_mem_cons.mpr ⟨⟨hkey.textBody, hv⟩, hms⟩
  | remove _ _ => exact (List.forall_mem_cons.mp hms).2
  | removeNull _ _ => exact (List.forall_mem_cons.mp hms).2
  | respell _ hkey' =>
      obtain ⟨⟨-, hv⟩, hmore⟩ := List.forall_mem_cons.mp hms
      exact List.forall_mem_cons.mpr ⟨⟨hkey'.textBody, hv⟩, hmore⟩
  | trans _ _ ih ih' => exact ih' (ih hms)

/-- **The same envelope comes of rearranged members.** -/
theorem Rearranged.amount {e : Envelope} (h : Rearranged ms ms')
    (hms : record.amount ms = .ok e) : record.amount ms' = .ok e := by
  induction h with
  | perm hperm =>
      obtain ⟨s, hfold, hfinish⟩ := amount_eq_ok_iff.mp hms
      exact amount_eq_ok_iff.mpr ⟨s, foldlM_effect_perm hperm hfold, hfinish⟩
  | @add name key v ms hkey hname _ =>
      obtain ⟨s, hfold, hfinish⟩ := amount_eq_ok_iff.mp hms
      have heffect := effect_unknown hkey hname record.empty v
      exact amount_eq_ok_iff.mpr ⟨s, foldlM_effect_cons.mpr ⟨_, heffect, hfold⟩, hfinish⟩
  | @remove name key v ms hkey hname =>
      obtain ⟨s, hfold, hfinish⟩ := amount_eq_ok_iff.mp hms
      obtain ⟨s₁, hunknown, hmore⟩ := foldlM_effect_cons.mp hfold
      rw [effect_unknown hkey hname] at hunknown
      obtain rfl := Except.ok.inj hunknown
      exact amount_eq_ok_iff.mpr ⟨s, hmore, hfinish⟩
  | removeNull hp hkey => exact amount_of_null hkey hp hms
  | @respell name key key' v ms hkey hkey' =>
      obtain ⟨s, hfold, hfinish⟩ := amount_eq_ok_iff.mp hms
      obtain ⟨s₁, hmember, hmore⟩ := foldlM_effect_cons.mp hfold
      rw [record.effect_eq, hkey.nameOf, ← hkey'.nameOf, ← record.effect_eq] at hmember
      exact amount_eq_ok_iff.mpr ⟨s, foldlM_effect_cons.mpr ⟨s₁, hmember, hmore⟩, hfinish⟩
  | trans _ _ ih ih' => exact ih' (ih hms)

/-! ## Frames -/

/-- An object with these members, with space wherever it may be. -/
inductive Written (ms : List (List Char × List Char)) : List Char → Prop
  | mk {sp cs sp' : List Char} : Blank sp → Members true ms cs → Blank sp' →
      Written ms (sp ++ '\x7b' :: (cs ++ sp'))

theorem readEnvelope_of_written {t : String} {e : Envelope} (h : Written ms t.toList)
    (hms : ∀ m ∈ ms, TextBody m.1 ∧ Value m.2) :
    Message.readEnvelope t = .ok e ↔ record.amount ms = .ok e := by
  rw [Message.readEnvelope_eq_ok_iff]
  generalize t.toList = u at h
  obtain @⟨sp, cs, sp', hsp, hcs, hsp'⟩ := h
  have hvalue : Value ('\x7b' :: cs) :=
    .object hcs (fun m hm => (hms m hm).1) (fun m hm => (hms m hm).2)
  have halone : alone read (sp ++ '\x7b' :: (cs ++ sp')) = record.amount ms := by
    rw [alone, read, ofValues.unplaced_read_object hcs hms hsp]
    cases record.amount ms <;> rfl
  rw [halone]
  exact and_iff_right (.mk hsp hvalue hsp')

end Envelope

/-- **A frame stays the same message when its members are rearranged.** -/
theorem Message.decode_of_rearranged {t t' : String} {ms ms' : List (List Char × List Char)}
    {m : Message} (ht : Envelope.Written ms t.toList)
    (hms : ∀ m ∈ ms, TextBody m.1 ∧ Value m.2) (h : Envelope.Rearranged ms ms')
    (ht' : Envelope.Written ms' t'.toList) (hm : decode t = .ok m) : decode t' = .ok m := by
  rw [decode] at hm ⊢
  split at hm
  · next e he =>
      have hamount := (Envelope.readEnvelope_of_written ht hms).mp he
      rw [(Envelope.readEnvelope_of_written ht' (h.good hms)).mpr (h.amount hamount)]
      exact hm
  · cases hm

/-! ## An offer in two ways -/

theorem value_text (s : String) (h : ∀ c ∈ s.toList, c ≠ '"' ∧ c ≠ '\\' ∧ ¬c < ' ') :
    Value ('"' :: (s.toList ++ ['"'])) :=
  .text (spells_self h).textBody

/-- The members of an offer, with an id that is `null`. -/
def offerMembers : List (List Char × List Char) :=
  [(['i', 'd'], ['n', 'u', 'l', 'l']), (['t', 'o'], '"' :: ("b".toList ++ ['"'])),
    (['t', 'y', 'p', 'e'], '"' :: ("offer".toList ++ ['"'])),
    (['f', 'r', 'o', 'm'], '"' :: ("a".toList ++ ['"'])),
    (['s', 'd', 'p'], '"' :: ("x".toList ++ ['"']))]

/-- The same offer in reverse order without its id, with another member, and with an escape in a
name. -/
def movedMembers : List (List Char × List Char) :=
  [(['s', 'd', 'p'], '"' :: ("x".toList ++ ['"'])),
    (['f', 'r', 'o', 'm'], '"' :: ("a".toList ++ ['"'])),
    (['t', 'y', 'p', 'e'], '"' :: ("offer".toList ++ ['"'])),
    (['t', '\\', 'u', '0', '0', '6', 'f'], '"' :: ("b".toList ++ ['"'])),
    (['z', 'z'], ['t', 'r', 'u', 'e'])]

theorem rearranged_offerMembers : Envelope.Rearranged offerMembers movedMembers := by
  have hid : Spells ['i', 'd'] Envelope.Part.id.name.toList := spells_self (by simp)
  have hto : Spells ['t', 'o'] "to".toList := spells_self (by simp)
  have hunit : CodeUnit ['0', '0', '6', 'f'] 0x6f := @CodeUnit.mk _ _ _ _ 0 0 6 15 rfl rfl rfl rfl
  have hescaped : Spells ['t', '\\', 'u', '0', '0', '6', 'f'] ['t', 'o'] :=
    .plain (by decide) (by decide) (by decide) (.unit hunit rfl rfl .nil)
  have hzz : Spells ['z', 'z'] "zz".toList := spells_self (by simp)
  have hunknown : ∀ p : Envelope.Part, "zz" ≠ p.name := by
    intro p
    cases p <;> decide
  have htrue : Value ['t', 'r', 'u', 'e'] := .word (by simp)
  refine .trans (.removeNull (by decide) hid) ?_
  refine .trans (.respell hto hescaped) ?_
  refine .trans (.add hzz hunknown htrue) ?_
  exact .perm (List.reverse_perm _).symm

theorem good_offerMembers : ∀ m ∈ offerMembers, TextBody m.1 ∧ Value m.2 := by
  have hname : ∀ {key : List Char}, (∀ c ∈ key, c ≠ '"' ∧ c ≠ '\\' ∧ ¬c < ' ') → TextBody key :=
    fun h => (spells_self h).textBody
  simp only [offerMembers, List.forall_mem_cons]
  exact ⟨⟨hname (by simp), .word (by simp)⟩, ⟨hname (by simp), value_text "b" (by simp)⟩,
    ⟨hname (by simp), value_text "offer" (by simp)⟩, ⟨hname (by simp), value_text "a" (by simp)⟩,
    ⟨hname (by simp), value_text "x" (by simp)⟩, List.forall_mem_nil _⟩

def plainOffer : String :=
  "\x7b\"id\":null,\"to\":\"b\",\"type\":\"offer\",\"from\":\"a\",\"sdp\":\"x\"\x7d"

def movedOffer : String :=
  "\x7b\"sdp\" : \"x\",\"from\":\"a\",\"type\":\"offer\",\"t\\u006f\":\"b\",\"zz\":true \x7d"

theorem written_plainOffer : Envelope.Written offerMembers plainOffer.toList := by
  have hmembers : Members true offerMembers _ :=
    .first (.mk .nil .nil .nil) (.next .nil (.mk .nil .nil .nil) (.next .nil (.mk .nil .nil .nil)
      (.next .nil (.mk .nil .nil .nil) (.next .nil (.mk .nil .nil .nil) (.close .nil)))))
  exact .mk .nil hmembers .nil

theorem written_movedOffer : Envelope.Written movedMembers movedOffer.toList := by
  have hmembers : Members true movedMembers _ :=
    .first (.mk .nil blank_space blank_space) (.next .nil (.mk .nil .nil .nil)
      (.next .nil (.mk .nil .nil .nil) (.next .nil (.mk .nil .nil .nil)
        (.next .nil (.mk .nil .nil .nil) (.close blank_space)))))
  exact .mk .nil hmembers .nil

theorem Message.decode_movedOffer :
    let m : Message := .signal ⟨.offer, ⟨"a"⟩, ⟨"b"⟩, ⟨"\"x\""⟩⟩
    decode plainOffer = .ok m ∧ decode movedOffer = .ok m := by
  intro m
  have hplain : decode plainOffer = .ok m := by cbv
  exact ⟨hplain, decode_of_rearranged written_plainOffer good_offerMembers rearranged_offerMembers
    written_movedOffer hplain⟩

end Switchboard
