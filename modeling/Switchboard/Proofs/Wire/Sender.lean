import Switchboard.Proofs.Wire.Anonymous

/-!
# A frame has no say in who sent it

A frame from a connection is received with the sender that the connection has, and a frame that must
be complete is decoded with the sender that it names. The two agree up to that
(`Message.decode_cases`), and what a frame says about its sender has no influence on what is
received.

`SenderDiffers` relates the texts of two frames of which one names its sender in another way than
the other, or not at all. Up to the sender the two texts are the beginning of an object or of a
list, as otherwise it cannot be said of a text where it names its sender; behind it they are the
same and may go on in any way, well-formed or not. What stands before the sender has the same effect
in both frames, and what stands behind it is read in the same way
(`Envelope.outcome_of_senderDiffers`). Only the place of a fault may differ, as it is counted from
the beginning of each text.
-/

namespace Switchboard

open Json

/-! ## Frames that differ in the sender -/

inductive Claim : List Char → Option ClientId → Prop
  | null : Claim ['n', 'u', 'l', 'l'] none
  | text {body : List Char} {s : String} : Spells body s.toList →
      Claim ('"' :: (body ++ ['"'])) (some ⟨s⟩)

theorem Claim.value {v : List Char} {x : Option ClientId} (h : Claim v x) : Value v := by
  cases h with
  | null => exact .word (by simp)
  | text hs => exact .text hs.textBody

/-- A member that makes a claim, with the comma before it unless it comes first. -/
inductive SenderMember (first : Bool) : List Char → Prop
  | mk {key v m : List Char} {x : Option ClientId} : Spells key "from".toList → Claim v x →
      Opening Member first [(key, v)] m → SenderMember first m

/-- The third element of a list, which makes a claim, with the comma before it. -/
inductive SenderElement : List Char → Prop
  | mk {v m : List Char} {x : Option ClientId} : Claim v x → Opening Element false [v] m →
      SenderElement m

/-- Two objects from after the opening brace, that differ in what they say about the sender, or of
which only the first says something about it. What comes after that is the same, whatever it is. -/
inductive MembersDiffer : List Char → List Char → Prop
  /-- A claim may be made again behind this one, which is a fault in either text. -/
  | changed {before : List (List Char × List Char)} {p m m' rest : List Char} :
      Opening Member true before p → (∀ m ∈ before, TextBody m.1 ∧ Value m.2) →
      SenderMember before.isEmpty m → SenderMember before.isEmpty m' →
      MembersDiffer (p ++ (m ++ rest)) (p ++ (m' ++ rest))
  /-- Only this claim is made, so that the second text says nothing about the sender. -/
  | dropped {before : List (List Char × List Char)} {p m rest : List Char} : before ≠ [] →
      Opening Member true before p → (∀ m ∈ before, TextBody m.1 ∧ Value m.2) →
      (∀ m ∈ before, ¬Spells m.1 "from".toList) → SenderMember false m → AfterValue rest →
      ¬Ahead "from" rest → MembersDiffer (p ++ (m ++ rest)) (p ++ rest)
  /-- The sender comes first, and the comma after it goes with it. -/
  | droppedFirst {m sp sp' sp'' rest : List Char} : SenderMember true m → Blank sp → Blank sp' →
      Blank sp'' → ¬Ahead "from" (sp ++ ',' :: (sp' ++ '"' :: rest)) →
      MembersDiffer (m ++ (sp ++ ',' :: (sp' ++ '"' :: rest))) (sp'' ++ '"' :: rest)
  | droppedOnly {m sp sp' rest : List Char} : SenderMember true m → Blank sp → Blank sp' →
      MembersDiffer (m ++ (sp ++ '\x7d' :: rest)) (sp' ++ '\x7d' :: rest)

/-- Two lists from after the opening bracket, that differ in the element that is the sender, or of
which the second ends before it. -/
inductive ElementsDiffer : List Char → List Char → Prop
  | changed {v w p m m' rest : List Char} : Opening Element true [v, w] p → Value v → Value w →
      SenderElement m → SenderElement m' → ElementsDiffer (p ++ (m ++ rest)) (p ++ (m' ++ rest))
  | dropped {v w p m rest : List Char} : Opening Element true [v, w] p → Value v → Value w →
      SenderElement m → AfterValue rest → (∀ sp r, Blank sp → rest ≠ sp ++ ',' :: r) →
      ElementsDiffer (p ++ (m ++ rest)) (p ++ rest)

/-- The characters of two frames that differ only in what they say about the sender, or of which
only the first says something about it. -/
inductive SenderDiffers : List Char → List Char → Prop
  | object {sp cs cs' : List Char} : Blank sp → MembersDiffer cs cs' →
      SenderDiffers (sp ++ '\x7b' :: cs) (sp ++ '\x7b' :: cs')
  | list {sp cs cs' : List Char} : Blank sp → ElementsDiffer cs cs' →
      SenderDiffers (sp ++ '[' :: cs) (sp ++ '[' :: cs')

namespace Envelope

variable {cs cs' rest : List Char}

/-! ## What a claim does -/

theorem readId_claim {v sp : List Char} {id : Option ClientId} (h : Claim v id) (hsp : Blank sp)
    (rest : List Char) : readId (sp ++ (v ++ rest)) = .ok (id, rest) := by
  rw [readId, Json.optional, h.value.skipSpace_append hsp]
  cases h with
  | null => rfl
  | @text body s hs =>
      have htext : readText (body ++ '"' :: rest) = .ok (s, rest) :=
        readText_eq_ok_iff.mpr ⟨body, hs, rfl⟩
      have hread : text ('"' :: (body ++ '"' :: rest)) = .ok (s, rest) := htext
      simp [Reader.map, hread]

/-- What a claim does to the members read so far. -/
theorem unplaced_readMember_from {key v sp sp' : List Char} {id : Option ClientId}
    (hkey : Spells key "from".toList) (hv : Claim v id) (hsp : Blank sp) (hsp' : Blank sp')
    (s : Slots) (rest : List Char) :
    unplaced (record.readMember s (key ++ '"' :: (sp ++ ':' :: (sp' ++ (v ++ rest))))) =
      if s.sender.isSome then .error (.duplicateField "from")
      else .ok (s.tell (some id), rest) := by
  have hname : readText (key ++ '"' :: (sp ++ ':' :: (sp' ++ (v ++ rest)))) =
      .ok ("from", sp ++ ':' :: (sp' ++ (v ++ rest))) := readText_eq_ok_iff.mpr ⟨key, hkey, rfl⟩
  simp only [Record.readMember, hname]
  -- a second one is a fault wherever it stands, and a first one is noted
  by_cases hs : s.sender.isSome
  · rw [readNamed_from hs, if_pos hs]
    rfl
  · have hmember : record.member "from" s = some (.ok (readId.map fun v => s.tell (some v))) := by
      show once "from" s.sender readId _ = _
      rw [once, if_neg hs]
      rfl
    simp only [Record.readNamed, hmember, hsp.colon_append, Reader.map, readId_claim hv hsp']
    rw [if_neg hs]
    rfl

theorem unplaced_readMembers_from {first : Bool} {m : List Char} (hm : SenderMember first m) :
    ∃ id, ∀ budget (s : Slots) rest,
      unplaced (readMembers record (budget + 1) first s (m ++ rest)) =
        if s.sender.isSome then .error (.duplicateField "from")
        else unplaced (readMembers record budget false (s.tell (some id)) rest) := by
  obtain @⟨key, v, m, id, hkey, hv, hm⟩ := hm
  refine ⟨id, fun budget s rest => ?_⟩
  obtain ⟨sp, sp', q, hsp, hsp', hq, hnext⟩ := hm.exists_nextName
  rw [unplaced_readMembers (hnext rest), unplaced_readMember_from hkey hv hsp hsp', hq.eq_nil]
  split <;> rfl

/-- An object is read on behind the claim about its sender. -/
theorem unplaced_readMembers_before {before : List (List Char × List Char)} {p m : List Char}
    (hp : Opening Member true before p) (hbefore : ∀ m ∈ before, TextBody m.1 ∧ Value m.2)
    (hm : SenderMember before.isEmpty m) :
    ∃ id, ∀ budget (s : Slots) rest,
      unplaced (readMembers record (budget + 1 + before.length) true s (p ++ (m ++ rest))) =
        (before.foldlM record.effect s).bind fun s' =>
          if s'.sender.isSome then .error (.duplicateField "from")
          else unplaced (readMembers record budget false (s'.tell (some id)) rest) := by
  obtain ⟨id, hread⟩ := unplaced_readMembers_from hm
  refine ⟨id, fun budget s rest => ?_⟩
  have hrest : before ≠ [] → AfterValue (m ++ rest) := by
    intro hne
    obtain @⟨key, v, m, x, -, -, hm⟩ := hm
    cases before with
    | nil => exact absurd rfl hne
    | cons _ _ => exact Opening.afterValue_cons hm rest
  rw [unplaced_readMembers_opening ofValues hp hbefore hrest]
  simp only [Bool.true_and, hread]

/-! ## The sender has no influence -/

theorem hushed_of_membersDiffer (h : MembersDiffer cs cs') :
    ∃ budget budget', cs.length < budget ∧ cs'.length < budget' ∧
      (unplaced (readMembers record budget true record.empty cs)).map hushed =
        (unplaced (readMembers record budget' true record.empty cs')).map hushed := by
  -- the two texts read alike up to the member, and on from it with different senders
  cases h with
  | @changed before p m m' rest hp hbefore hm hm' =>
      obtain ⟨id, hread⟩ := unplaced_readMembers_before hp hbefore hm
      obtain ⟨id', hread'⟩ := unplaced_readMembers_before hp hbefore hm'
      let budget := (p ++ (m ++ rest)).length + (p ++ (m' ++ rest)).length
      refine ⟨budget + 1 + before.length, budget + 1 + before.length, by omega, by omega, ?_⟩
      rw [hread, hread']
      cases before.foldlM record.effect record.empty with
      | error cause => rfl
      | ok s =>
          show Except.map hushed (if s.sender.isSome then _ else _) =
            Except.map hushed (if s.sender.isSome then _ else _)
          split
          · rfl
          · have hknown : Indifferent (some id') (s.tell (some id)) rest := .inl ⟨rfl, rfl⟩
            exact (hushed_tell hknown budget).symm
  | @dropped before p m rest hne hp hbefore hother hm hrest hahead =>
      have hempty : before.isEmpty = false := by simpa using hne
      rw [← hempty] at hm
      obtain ⟨id, hread⟩ := unplaced_readMembers_before hp hbefore hm
      let budget := (p ++ (m ++ rest)).length + (p ++ rest).length + 1
      refine ⟨budget + 1 + before.length, budget + before.length, by omega, by omega, ?_⟩
      rw [hread, unplaced_readMembers_opening ofValues hp hbefore (fun _ => hrest), hempty]
      cases heffect : before.foldlM record.effect record.empty with
      | error cause => rfl
      | ok s =>
          have hnone : s.sender = none :=
            sender_of_effects (fun m hm => (hbefore m hm).1) hother heffect
          show Except.map hushed (if s.sender.isSome then _ else _) = _
          rw [hnone]
          exact hushed_tell (.inr hahead) budget
  | @droppedFirst m sp sp' sp'' rest hm hsp hsp' hsp'' hahead =>
      obtain ⟨id, hread⟩ := unplaced_readMembers_from hm
      let budget := (m ++ (sp ++ ',' :: (sp' ++ '"' :: rest))).length + (sp'' ++ '"' :: rest).length
      refine ⟨budget + 1 + 1, budget + 1, by omega, by omega, ?_⟩
      have hsame : readMembers record (budget + 1) true record.empty (sp'' ++ '"' :: rest) =
          readMembers record (budget + 1) false record.empty
            (sp ++ ',' :: (sp' ++ '"' :: rest)) := by
        apply readMembers_congr
        · rw [nextName_quote hsp'', nextName_comma hsp hsp']
        · rw [nextName_comma hsp hsp']
          exact nofun
      rw [hread, hsame]
      exact hushed_tell (.inr hahead) (budget + 1)
  | @droppedOnly m sp sp' rest hm hsp hsp' =>
      obtain ⟨id, hread⟩ := unplaced_readMembers_from hm
      let budget := (m ++ (sp ++ '\x7d' :: rest)).length + (sp' ++ '\x7d' :: rest).length
      refine ⟨budget + 1 + 1, budget + 1, by omega, by omega, ?_⟩
      rw [hread, readMembers_brace hsp']
      show Except.map hushed (unplaced (readMembers record (budget + 1) false _ _)) = _
      rw [readMembers_brace hsp]
      rfl

/-- A list is read on behind its first two elements. -/
theorem unplaced_readElements_before {v w p : List Char} (hp : Opening Element true [v, w] p)
    (hv : Value v) (hw : Value w) (hrest : AfterValue rest) (s : Slots) :
    unplaced (readElements 0 s (p ++ rest) record.elements) =
      ((record.elements.zip [v, w]).foldlM elementEffect s).bind fun s' =>
        unplaced (readElements 2 s' rest (record.elements.drop 2)) := by
  have hp : Opening Element ((0 : Nat) == 0) [v, w] p := hp
  apply unplaced_readElements_opening (fun read hread s => ofValues.localElement hread s) hp
  · simp [hv, hw]
  · exact Nat.le_add_left 2 4
  · exact fun _ => hrest

/-- A list is read on behind the claim about its sender. -/
theorem unplaced_readElements_from {m : List Char} (hm : SenderElement m) :
    ∃ id, ∀ (s : Slots) rest,
      unplaced (readElements 2 s (m ++ rest) (record.elements.drop 2)) =
        unplaced (readElements 3 (s.tell (some id)) rest (record.elements.drop 3)) := by
  obtain @⟨v, m, id, hv, hm⟩ := hm
  refine ⟨id, fun s rest => ?_⟩
  obtain ⟨q, hq, hnext⟩ := hm.exists_nextElement hv.value
  have hread : (readId.map fun v => s.tell (some v)) (v ++ (q ++ rest)) =
      .ok (s.tell (some id), q ++ rest) := by
    rw [Reader.map, ← List.nil_append (v ++ (q ++ rest)), readId_claim hv .nil]
  have hnext : nextElement ((2 : Nat) == 0) (m ++ rest) = .ok (some (v ++ (q ++ rest))) :=
    hnext rest
  have hround := unplaced_readElements hnext s (fun s => readId.map fun v => s.tell (some v))
    (record.elements.drop 3)
  rw [hread, hq.eq_nil] at hround
  exact hround

theorem outcome_of_elementsDiffer (h : ElementsDiffer cs cs') {sp : List Char}
    (hsp : Blank sp) : outcome (sp ++ '[' :: cs) = outcome (sp ++ '[' :: cs') := by
  have hafter : ∀ {m}, SenderElement m → ∀ rest, AfterValue (m ++ rest) := by
    intro m hm rest
    obtain ⟨-, hm⟩ := hm
    exact hm.afterValue_cons rest
  rw [outcome_list hsp, outcome_list hsp]
  cases h with
  | @changed v w p m m' rest hp hv hw hm hm' =>
      obtain ⟨id, hread⟩ := unplaced_readElements_from hm
      obtain ⟨id', hread'⟩ := unplaced_readElements_from hm'
      rw [unplaced_readElements_before hp hv hw (hafter hm rest),
        unplaced_readElements_before hp hv hw (hafter hm' rest)]
      cases (record.elements.zip [v, w]).foldlM elementEffect record.empty with
      | error cause => rfl
      | ok s =>
          show Except.bind (unplaced (readElements 2 s (m ++ rest) _)) _ =
            Except.bind (unplaced (readElements 2 s (m' ++ rest) _)) _
          rw [hread, hread', hushed_elements_tell, hushed_elements_tell]
  | @dropped v w p m rest hp hv hw hm hrest hcomma =>
      obtain ⟨id, hread⟩ := unplaced_readElements_from hm
      rw [unplaced_readElements_before hp hv hw (hafter hm rest),
        unplaced_readElements_before hp hv hw hrest]
      cases (record.elements.zip [v, w]).foldlM elementEffect record.empty with
      | error cause => rfl
      | ok s =>
          show Except.bind (unplaced (readElements 2 s (m ++ rest) _)) _ =
            Except.bind (unplaced (readElements 2 s rest _)) _
          rw [hread, hushed_elements_tell]
          -- nothing is read any more, and two elements are as good as three
          rw [show record.elements.drop 3 = _ :: record.elements.drop 4 from rfl,
            show record.elements.drop 2 = _ :: record.elements.drop 3 from rfl,
            readElements_of_no_comma hcomma (by decide), readElements_of_no_comma hcomma (by decide)]
          cases nextElement false rest <;> rfl

/-- **What a frame says about its sender has no influence** on the rest of what is read. -/
theorem outcome_of_senderDiffers (h : SenderDiffers cs cs') :
    outcome cs = outcome cs' := by
  cases h with
  | object hsp h =>
      obtain ⟨budget, budget', hb, hb', hsame⟩ := hushed_of_membersDiffer h
      rw [outcome_object hsp hb, outcome_object hsp hb', hsame]
  | list hsp h => exact outcome_of_elementsDiffer h hsp

/-! ## With the sender and without -/

theorem payloadField_ne_from (topic : Topic) : topic.payloadField ≠ "from" := by
  cases topic <;> decide

/-- What becomes of an envelope without a sender of its own, and with one. -/
theorem toMessage_cases (e : Envelope) (sender : ClientId) :
    (∃ m, e.toMessage none = .ok m ∧ e.toMessage (some sender) = .ok (m.withSender sender)) ∨
      (∃ kind, e.toMessage none = .error (.missingField kind "from") ∧
        ∀ m, e.toMessage (some sender) = .ok m → m.sender? = some sender) ∨
      ∃ err, (∀ kind, err ≠ .missingField kind "from") ∧ e.toMessage none = .error err ∧
        e.toMessage (some sender) = .error err := by
  have hother : ∀ {kind : MessageKind} {name : String}, name ≠ "from" →
      ∀ kind', WireError.missingField kind name ≠ .missingField kind' "from" := by
    intro kind name hname kind' h
    exact hname (WireError.missingField.inj h).2
  rcases hkind : MessageKind.ofName? e.kind with _ | (_ | topic)
  · refine .inr (.inr ⟨.unknownKind e.kind, ?_, by simp [toMessage, hkind],
      by simp [toMessage, hkind]⟩)
    intro kind h
    cases h
  · cases hid : e.id with
    | none =>
        exact .inr (.inr ⟨.missingField .welcome "id", hother (by decide),
          by simp [toMessage, hkind, hid], by simp [toMessage, hkind, hid]⟩)
    | some id =>
        exact .inl ⟨.welcome id, by simp [toMessage, hkind, hid],
          by simp [toMessage, hkind, hid, Message.withSender]⟩
  -- only here does it matter who is to be the sender
  cases hsender : e.sender with
  | none =>
      refine .inr (.inl ⟨.signal topic, by simp [toMessage, hkind, hsender], ?_⟩)
      intro m hm
      simp only [toMessage, hkind] at hm
      split at hm <;> cases hm
      next hsome _ _ => exact hsome.symm
  | some claimed =>
  cases hrecipient : e.recipient with
  | none =>
      exact .inr (.inr ⟨.missingField (.signal topic) "to", hother (by decide),
        by simp [toMessage, hkind, hsender, hrecipient], by simp [toMessage, hkind, hrecipient]⟩)
  | some recipient =>
  cases hpayload : e.payload topic with
  | none =>
      exact .inr (.inr ⟨.missingField (.signal topic) topic.payloadField,
        hother (payloadField_ne_from topic),
        by simp [toMessage, hkind, hsender, hrecipient, hpayload],
        by simp [toMessage, hkind, hrecipient, hpayload]⟩)
  | some payload =>
      exact .inl ⟨.signal ⟨topic, claimed, recipient, payload⟩,
        by simp [toMessage, hkind, hsender, hrecipient, hpayload],
        by simp [toMessage, hkind, hrecipient, hpayload, Message.withSender]⟩

theorem toMessage_ne_json (e : Envelope) (sender : Option ClientId) (fault : Fault) :
    e.toMessage sender ≠ .error (.json fault) := by
  intro h
  simp only [toMessage] at h
  split at h
  · cases h
  · split at h <;> cases h
  · split at h <;> cases h

end Envelope

def WireError.unplaced : WireError → WireError
  | json fault => json { fault with place := none }
  | unknownKind name => unknownKind name
  | missingField kind name => missingField kind name

namespace Message

theorem unplaced_toMessage (e : Envelope) (sender : Option ClientId) :
    (e.toMessage sender).mapError WireError.unplaced = e.toMessage sender := by
  cases h : e.toMessage sender with
  | ok m => rfl
  | error err =>
      cases err with
      | json fault => exact absurd h (e.toMessage_ne_json sender fault)
      | unknownKind name => rfl
      | missingField kind name => rfl

/-- What is received depends on the frame but for what it says about its sender. -/
theorem unplaced_receive (sender : ClientId) (t : String) :
    (receive sender t).mapError WireError.unplaced =
      match Envelope.outcome t.toList with
      | .error cause => .error (.json ⟨cause, none⟩)
      | .ok (e, rest) =>
        match unplaced (atEnd rest) with
        | .error cause => .error (.json ⟨cause, none⟩)
        | .ok () => e.toMessage (some sender) := by
  rw [receive, readEnvelope, readWhole?, Envelope.outcome]
  cases Envelope.read t.toList with
  | error f => rfl
  | ok p =>
  obtain ⟨e, rest⟩ := p
  simp only [unplaced_ok, Except.map]
  -- the text is one envelope and nothing else
  cases atEnd rest with
  | error f => rfl
  | ok u => exact (unplaced_toMessage e (some sender)).trans (e.toMessage_anonymous sender).symm

/-- What becomes of a frame that must name its sender, and of a frame whose sender is known. -/
theorem decode_cases (t : String) (sender : ClientId) :
    (∃ m, decode t = .ok m ∧ receive sender t = .ok (m.withSender sender)) ∨
      (∃ kind, decode t = .error (.missingField kind "from") ∧
        ∀ m, receive sender t = .ok m → m.sender? = some sender) ∨
      ∃ err, (∀ kind, err ≠ .missingField kind "from") ∧ decode t = .error err ∧
        receive sender t = .error err := by
  rw [decode, receive]
  cases hread : readEnvelope t with
  | ok e => exact e.toMessage_cases sender
  | error err =>
      refine .inr (.inr ⟨err, ?_, rfl, rfl⟩)
      rintro kind rfl
      rw [readEnvelope] at hread
      split at hread <;> cases hread

/-- A message as `sender` would have sent it is a welcome or comes from `sender`. -/
theorem sender?_withSender (sender : ClientId) (m : Message) :
    (m.withSender sender).kind = .welcome ∨ (m.withSender sender).sender? = some sender := by
  cases m with
  | welcome id => exact .inl rfl
  | signal s => exact .inr rfl

/-- **A frame has no say in who sent it.** What is received from `sender` is what is decoded, as
`sender` would have sent it; a frame that is refused is refused in the same way, unless nothing but
its sender was missing. So two frames that differ in what they say about the sender are received
alike, up to the place of a fault in their texts. -/
theorem sender_has_no_say (sender : ClientId) :
    (∀ t m, decode t = .ok m → receive sender t = .ok (m.withSender sender)) ∧
      (∀ t err, decode t = .error err → (∀ kind, err ≠ .missingField kind "from") →
        receive sender t = .error err) ∧
      (∀ t m, receive sender t = .ok m →
        (m.kind = .welcome ∨ m.sender? = some sender) ∧
          ((∃ m', decode t = .ok m' ∧ m'.withSender sender = m) ∨
            ∃ kind, decode t = .error (.missingField kind "from"))) ∧
      ∀ t t' : String, SenderDiffers t.toList t'.toList ∨ SenderDiffers t'.toList t.toList →
        (receive sender t).mapError WireError.unplaced =
          (receive sender t').mapError WireError.unplaced := by
  refine ⟨?_, ?_, ?_, ?_⟩
  · intro t m hm
    obtain ⟨m', hdecode, hreceive⟩ | ⟨kind, hdecode, -⟩ | ⟨err, -, hdecode, -⟩ :=
      decode_cases t sender
    · rw [hreceive, Except.ok.inj (hm.symm.trans hdecode)]
    · cases hm.symm.trans hdecode
    · cases hm.symm.trans hdecode
  · intro t err herr hother
    obtain ⟨m', hdecode, -⟩ | ⟨kind, hdecode, -⟩ | ⟨err', -, hdecode, hreceive⟩ :=
      decode_cases t sender
    · cases herr.symm.trans hdecode
    · exact absurd (Except.error.inj (herr.symm.trans hdecode)) (hother kind)
    · rw [hreceive, Except.error.inj (herr.symm.trans hdecode)]
  · intro t m hm
    obtain ⟨m', hdecode, hreceive⟩ | ⟨kind, hdecode, hsender⟩ | ⟨err, -, -, hreceive⟩ :=
      decode_cases t sender
    · obtain rfl := Except.ok.inj (hm.symm.trans hreceive)
      exact ⟨sender?_withSender sender m', .inl ⟨m', hdecode, rfl⟩⟩
    · exact ⟨.inr (hsender m hm), .inr ⟨kind, hdecode⟩⟩
    · cases hm.symm.trans hreceive
  · intro t t' h
    rw [unplaced_receive, unplaced_receive]
    rcases h with h | h
    · rw [Envelope.outcome_of_senderDiffers h]
    · rw [Envelope.outcome_of_senderDiffers h]

/-! ### Frames that begin or end with a claim -/

theorem claim_text (s : String) (h : ∀ c ∈ s.toList, c ≠ '"' ∧ c ≠ '\\' ∧ ¬c < ' ') :
    Claim ('"' :: (s.toList ++ ['"'])) (some ⟨s⟩) :=
  .text (spells_self h)

def claimMember (claim : String) : List Char :=
  ['"', 'f', 'r', 'o', 'm', '"', ':'] ++ claim.toList

theorem member_claimMember (claim : String) :
    Member (['f', 'r', 'o', 'm'], claim.toList) (claimMember claim) :=
  @Member.mk [] [] [] ['f', 'r', 'o', 'm'] claim.toList .nil .nil .nil

theorem senderMember_true {claim : String} {x : Option ClientId} (h : Claim claim.toList x) :
    SenderMember true (claimMember claim) := by
  have hopening := Opening.first (member_claimMember claim) .nil
  rw [List.append_nil] at hopening
  exact .mk (spells_self (by simp)) h hopening

theorem senderMember_false {claim : String} {x : Option ClientId} (h : Claim claim.toList x) :
    SenderMember false (',' :: claimMember claim) := by
  have hopening := Opening.next .nil (member_claimMember claim) .nil
  rw [List.append_nil] at hopening
  exact .mk (spells_self (by simp)) h hopening

/-- An object that begins with a claim about its sender and goes on with `rest`. -/
def claiming (claim rest : String) : String := "\x7b\"from\":" ++ (claim ++ rest)

theorem senderDiffers_claiming {claim claim' : String} {x x' : Option ClientId}
    (h : Claim claim.toList x) (h' : Claim claim'.toList x') (rest : String) :
    SenderDiffers (claiming claim rest).toList (claiming claim' rest).toList := by
  have htext : ∀ claim, (claiming claim rest).toList =
      [] ++ '\x7b' :: ([] ++ (claimMember claim ++ rest.toList)) := by
    intro claim
    simp [claiming, claimMember]
  have hmembers : MembersDiffer ([] ++ (claimMember claim ++ rest.toList))
      ([] ++ (claimMember claim' ++ rest.toList)) :=
    .changed .nil (List.forall_mem_nil _) (senderMember_true h) (senderMember_true h')
  rw [htext, htext]
  exact .object .nil hmembers

/-- A claim at the end of an object may as well be left out. -/
theorem senderDiffers_of_last {before : List (List Char × List Char)} {p r : List Char}
    {claim : String} {x : Option ClientId} (hne : before ≠ []) (hp : Opening Member true before p)
    (hbefore : ∀ m ∈ before, TextBody m.1 ∧ Value m.2)
    (hother : ∀ m ∈ before, ¬Spells m.1 "from".toList) (h : Claim claim.toList x) :
    SenderDiffers ('\x7b' :: (p ++ (',' :: (claimMember claim ++ '\x7d' :: r))))
      ('\x7b' :: (p ++ '\x7d' :: r)) := by
  have hbrace : AfterValue ('\x7d' :: r) := .inr ⟨_, _, rfl, by simp⟩
  have hend : nextName false ('\x7d' :: r) = .ok none := nextName_brace .nil false r
  apply @SenderDiffers.object [] _ _ .nil
  exact .dropped hne hp hbefore hother (senderMember_false h) hbrace (not_ahead_of_nextName hend)

/-- The place of a fault is counted from the beginning of the text, so that it moves with what the
frame says about its sender. -/
theorem place_of_fault_moves :
    let rest := ",\"to\":5,\"type\":\"offer\"\x7d"
    let near := claiming "\"a\"" rest
    let far := claiming "\"bb\"" rest
    SenderDiffers near.toList far.toList ∧ receive ⟨"s"⟩ near ≠ receive ⟨"s"⟩ far := by
  intro rest near far
  have hnear : Claim "\"a\"".toList (some ⟨"a"⟩) := claim_text "a" (by simp)
  have hfar : Claim "\"bb\"".toList (some ⟨"bb"⟩) := claim_text "bb" (by simp)
  have hreceive : receive ⟨"s"⟩ near =
      .error (.json ⟨.unexpected (.integer 5) "a string", some ⟨1, 18⟩⟩) := by cbv
  have hreceive' : receive ⟨"s"⟩ far =
      .error (.json ⟨.unexpected (.integer 5) "a string", some ⟨1, 19⟩⟩) := by cbv
  refine ⟨senderDiffers_claiming hnear hfar rest, ?_⟩
  rw [hreceive, hreceive']
  decide

/-- An offer without content, which ends with a claim about its sender or does not make any. -/
theorem senderDiffers_offer {claim : String} {x : Option ClientId} (h : Claim claim.toList x) :
    SenderDiffers ("\x7b\"type\":\"offer\",\"from\":" ++ (claim ++ "\x7d")).toList
      "\x7b\"type\":\"offer\"\x7d".toList := by
  have hname : Spells ['t', 'y', 'p', 'e'] "type".toList := spells_self (by simp)
  have hvalue : Value ('"' :: ("offer".toList ++ ['"'])) := (claim_text "offer" (by simp)).value
  have hopening := Opening.first
    (@Member.mk [] [] [] ['t', 'y', 'p', 'e'] ('"' :: ("offer".toList ++ ['"'])) .nil .nil .nil) .nil
  have hdiffers := senderDiffers_of_last (r := []) (List.cons_ne_nil _ _) hopening
    (List.forall_mem_singleton.mpr ⟨hname.textBody, hvalue⟩)
    (List.forall_mem_singleton.mpr fun hfrom => absurd (hname.functional hfrom) (by decide)) h
  simpa [claimMember] using hdiffers

/-- An offer with a forged sender and without a sender, a welcome without an id, and an offer whose
claim stands last or is left out. -/
theorem sender_has_no_say_forgedOffer :
    let offer := ",\"to\":\"b\",\"type\":\"offer\",\"sdp\":1\x7d"
    let forged := claiming "\"eve\"" offer
    let unnamed := claiming "null" offer
    let welcome := claiming "\"eve\"" ",\"type\":\"welcome\"\x7d"
    let named := "\x7b\"type\":\"offer\",\"from\":" ++ ("\"eve\"" ++ "\x7d")
    let silent := "\x7b\"type\":\"offer\"\x7d"
    let m : Message := .signal ⟨.offer, ⟨"eve"⟩, ⟨"b"⟩, ⟨"1"⟩⟩
    receive ⟨"a"⟩ forged = .ok (m.withSender ⟨"a"⟩) ∧
      receive ⟨"a"⟩ welcome = .error (.missingField .welcome "id") ∧
      ((∃ m', decode unnamed = .ok m' ∧ m'.withSender ⟨"a"⟩ = m.withSender ⟨"a"⟩) ∨
        ∃ kind, decode unnamed = .error (.missingField kind "from")) ∧
      (receive ⟨"a"⟩ forged).mapError WireError.unplaced =
        (receive ⟨"a"⟩ unnamed).mapError WireError.unplaced ∧
      (receive ⟨"a"⟩ silent).mapError WireError.unplaced =
        (receive ⟨"a"⟩ named).mapError WireError.unplaced := by
  intro offer forged unnamed welcome named silent m
  obtain ⟨hok, herror, hback, hsame⟩ := sender_has_no_say ⟨"a"⟩
  have hdecode : decode forged = .ok m := by cbv
  have hwelcome : decode welcome = .error (.missingField .welcome "id") := by cbv
  have hunnamed : receive ⟨"a"⟩ unnamed = .ok (m.withSender ⟨"a"⟩) := by cbv
  have hid : ∀ kind, WireError.missingField .welcome "id" ≠ .missingField kind "from" := by
    intro kind h
    exact absurd (WireError.missingField.inj h).2 (by decide)
  have heve : Claim "\"eve\"".toList (some ⟨"eve"⟩) := claim_text "eve" (by simp)
  have hnull : Claim "null".toList none := .null
  have hforged : SenderDiffers forged.toList unnamed.toList :=
    senderDiffers_claiming heve hnull offer
  have hlast : SenderDiffers named.toList silent.toList :=
    senderDiffers_offer heve
  exact ⟨hok forged m hdecode, herror welcome _ hwelcome hid, (hback unnamed _ hunnamed).2,
    hsame forged unnamed (.inl hforged), hsame silent named (.inr hlast)⟩

end Message

end Switchboard
