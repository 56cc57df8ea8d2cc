import Switchboard.Proofs.Json.Unambiguous
import Switchboard.Wire.Envelope

/-!
# Where the payload of a frame comes from

`Carries topic v frame` says of the characters of a frame, without reading it, that `v` is what it
carries as the payload of a signal: the one member with the name that the topic asks for, or the
element with its index if the frame is a list. A payload that was read from a frame is carried by it
(`carries_of_readEnvelope`).
-/

namespace Switchboard

open Json

/-- Where the payload of a signal stands in a frame that is a list. -/
def Topic.payloadIndex : Topic → Nat
  | offer | answer => 4
  | candidate => 5

/-- The frame is one JSON value with nothing but space around it, and `v` is the value in it that is
the payload of a signal with this topic. -/
inductive Carries (topic : Topic) (v : List Char) : List Char → Prop
  | mk {sp w sp' : List Char} : Blank sp → Blank sp' →
      Holds topic.payloadField topic.payloadIndex v w → v ≠ ['n', 'u', 'l', 'l'] →
      Carries topic v (sp ++ (w ++ sp'))

theorem Carries.value {topic : Topic} {v frame : List Char} (h : Carries topic v frame) :
    Value v ∧ v ≠ ['n', 'u', 'l', 'l'] := by
  obtain ⟨-, -, hholds, hnull⟩ := h
  exact ⟨hholds.value.1, hnull⟩

/-- A frame carries one value as the payload. -/
theorem Carries.functional {topic : Topic} {v v' frame : List Char} (h : Carries topic v frame)
    (h' : Carries topic v' frame) : v = v' := by
  obtain @⟨sp, w, end₁, hsp, hend, hholds, -⟩ := h
  generalize heq : sp ++ (w ++ end₁) = frame at h'
  obtain ⟨hsp', hend', hholds', -⟩ := h'
  have hafter : ∀ {sp : List Char}, Blank sp → AfterValue sp := by
    intro sp hsp
    simpa using hsp.afterValue_append (.inl rfl)
  obtain ⟨rfl, -⟩ := hholds.value.2.spaced_inj hsp hsp' hholds'.value.2 (hafter hend)
    (hafter hend') heq
  exact hholds.functional hholds'

namespace Envelope

/-! ## The readers of the members -/

theorem takes_readId : readId.Takes fun _ _ => True := by
  have hid : (text.map ClientId.mk).Takes fun _ _ => True := takes_text.map fun _ _ _ => trivial
  exact (takes_optional hid).mono fun _ _ _ => trivial

/-- A payload is written as the value it was read from. -/
abbrev PayloadMeans : List Char → Option Payload → Prop := Nullable fun v p => p.text.toList = v

theorem takes_readPayload : readPayload.Takes PayloadMeans :=
  takes_optional (takes_raw.map fun _ _ h => h)

theorem once_eq_ok {σ α : Type} {name : String} {slot : Option α} {read : Reader α} {put : α → σ}
    {r : Reader σ} (h : once name slot read put = some (.ok r)) :
    slot = none ∧ r = read.map put := by
  cases slot with
  | none =>
    cases h
    exact ⟨rfl, rfl⟩
  | some a => cases h

/-! ## The slot of a payload -/

def Slots.payload (s : Slots) : Topic → Option (Option Payload)
  | .offer | .answer => s.sdp
  | .candidate => s.candidate

def Slots.setPayload (s : Slots) (topic : Topic) (p : Option Payload) : Slots :=
  match topic with
  | .offer | .answer => { s with sdp := some p }
  | .candidate => { s with candidate := some p }

/-- Topics with the same field share a slot. -/
theorem Slots.payload_setPayload (s : Slots) (topic topic' : Topic) (p : Option Payload) :
    (s.setPayload topic p).payload topic' =
      if topic.payloadField = topic'.payloadField then some p else s.payload topic' := by
  cases topic <;> cases topic' <;> rfl

theorem Slots.payload_congr (s : Slots) {topic topic' : Topic}
    (h : topic.payloadField = topic'.payloadField) : s.payload topic = s.payload topic' := by
  cases topic <;> cases topic' <;> first | rfl | exact absurd h (by decide)

theorem payloadIndex_eq_iff (topic topic' : Topic) :
    topic.payloadIndex = topic'.payloadIndex ↔ topic.payloadField = topic'.payloadField := by
  cases topic <;> cases topic' <;> decide

/-- What is read leaves the payloads as they are. -/
def Keeps (s : Slots) (read : Reader Slots) : Prop :=
  read.Takes fun _ s' => ∀ topic, s'.payload topic = s.payload topic

theorem keeps_map {α : Type} {s : Slots} {read : Reader α} {Means : List Char → α → Prop}
    (h : read.Takes Means) {put : α → Slots} (hsdp : ∀ a, (put a).sdp = s.sdp)
    (hcandidate : ∀ a, (put a).candidate = s.candidate) : Keeps s (read.map put) := by
  apply h.map
  intro _ a _ topic
  cases topic with
  | offer => exact hsdp a
  | answer => exact hsdp a
  | candidate => exact hcandidate a

theorem ne_payloadField {name : String} (hsdp : name ≠ "sdp") (hcandidate : name ≠ "candidate")
    (topic : Topic) : name ≠ topic.payloadField := by
  cases topic with
  | offer => exact hsdp
  | answer => exact hsdp
  | candidate => exact hcandidate

/-- A member is a payload that was not read before, or it leaves the payloads as they are. -/
theorem member_cases {name : String} {s : Slots} {read : Reader Slots}
    (h : record.member name s = some (.ok read)) :
    (∃ topic : Topic, name = topic.payloadField ∧ s.payload topic = none ∧
        read = readPayload.map (s.setPayload topic)) ∨
      (∀ topic : Topic, name ≠ topic.payloadField) ∧ Keeps s read := by
  simp only [record, Slots.member] at h
  split at h
  · next hname =>
    obtain ⟨-, rfl⟩ := once_eq_ok h
    subst hname
    exact .inr ⟨ne_payloadField (by decide) (by decide),
      keeps_map takes_text (fun _ => rfl) (fun _ => rfl)⟩
  split at h
  · next hname =>
    obtain ⟨-, rfl⟩ := once_eq_ok h
    subst hname
    exact .inr ⟨ne_payloadField (by decide) (by decide),
      keeps_map takes_readId (fun _ => rfl) (fun _ => rfl)⟩
  split at h
  · next hname =>
    obtain ⟨-, rfl⟩ := once_eq_ok h
    subst hname
    exact .inr ⟨ne_payloadField (by decide) (by decide),
      keeps_map takes_readId (fun _ => rfl) (fun _ => rfl)⟩
  split at h
  · next hname =>
    obtain ⟨-, rfl⟩ := once_eq_ok h
    subst hname
    exact .inr ⟨ne_payloadField (by decide) (by decide),
      keeps_map takes_readId (fun _ => rfl) (fun _ => rfl)⟩
  split at h
  · next hname =>
    obtain ⟨hnone, rfl⟩ := once_eq_ok h
    exact .inl ⟨.offer, hname, hnone, rfl⟩
  split at h
  · next hname =>
    obtain ⟨hnone, rfl⟩ := once_eq_ok h
    exact .inl ⟨.candidate, hname, hnone, rfl⟩
  · cases h

/-- The payload of a signal is looked for under its own name. -/
theorem member_payloadField (topic : Topic) (s : Slots) :
    record.member topic.payloadField s =
      once topic.payloadField (s.payload topic) readPayload (s.setPayload topic) := by
  cases topic <;> rfl

/-- An element is a payload, or it leaves the payloads as they are. -/
theorem element_cases {i : Nat} {read : Slots → Reader Slots}
    (h : record.elements[i]? = some read) :
    (∃ topic : Topic, i = topic.payloadIndex ∧
        read = fun s => readPayload.map (s.setPayload topic)) ∨
      (∀ topic : Topic, i ≠ topic.payloadIndex) ∧ ∀ s, Keeps s (read s) := by
  have hne : i < 4 → ∀ topic : Topic, i ≠ topic.payloadIndex := by
    intro hi topic
    cases topic <;> simp only [Topic.payloadIndex] <;> omega
  match i with
  | 0 =>
    obtain rfl := Option.some.inj h
    exact .inr ⟨hne (by omega), fun s => keeps_map takes_text (fun _ => rfl) (fun _ => rfl)⟩
  | 1 =>
    obtain rfl := Option.some.inj h
    exact .inr ⟨hne (by omega), fun s => keeps_map takes_readId (fun _ => rfl) (fun _ => rfl)⟩
  | 2 =>
    obtain rfl := Option.some.inj h
    exact .inr ⟨hne (by omega), fun s => keeps_map takes_readId (fun _ => rfl) (fun _ => rfl)⟩
  | 3 =>
    obtain rfl := Option.some.inj h
    exact .inr ⟨hne (by omega), fun s => keeps_map takes_readId (fun _ => rfl) (fun _ => rfl)⟩
  | 4 => exact .inl ⟨.offer, rfl, (Option.some.inj h).symm⟩
  | 5 => exact .inl ⟨.candidate, rfl, (Option.some.inj h).symm⟩
  | i + 6 => cases h

theorem takes_setPayload (s : Slots) {topic topic' : Topic}
    (h : topic.payloadField = topic'.payloadField) :
    (readPayload.map (s.setPayload topic)).Takes fun v s' =>
      ∃ p, s'.payload topic' = some p ∧ PayloadMeans v p := by
  apply takes_readPayload.map
  intro v p hmeans
  exact ⟨p, by rw [s.payload_setPayload, if_pos h], hmeans⟩

theorem keeps_setPayload (s : Slots) {topic topic' : Topic}
    (h : topic.payloadField ≠ topic'.payloadField) :
    (readPayload.map (s.setPayload topic)).Takes fun _ s' =>
      s'.payload topic' = s.payload topic' := by
  apply takes_readPayload.map
  intro v p _
  rw [s.payload_setPayload, if_neg h]

/-- The payload of a signal is filled from its member or its element alone. -/
theorem slot_payload (topic : Topic) :
    record.Slot topic.payloadField topic.payloadIndex (·.payload topic) PayloadMeans where
  empty := by cases topic <;> rfl
  known s := by rw [member_payloadField]; exact Option.some_ne_none _
  once s read h := by
    obtain ⟨topic', hfield, hnone, -⟩ | ⟨hne, -⟩ := member_cases h
    · exact (s.payload_congr hfield).trans hnone
    · exact absurd rfl (hne topic)
  own s read h := by
    obtain ⟨topic', hfield, -, rfl⟩ | ⟨hne, -⟩ := member_cases h
    · exact takes_setPayload s hfield.symm
    · exact absurd rfl (hne topic)
  other name' s read hname h := by
    obtain ⟨topic', rfl, -, rfl⟩ | ⟨-, hkeeps⟩ := member_cases h
    · exact keeps_setPayload s hname
    · exact hkeeps.mono fun _ s' hsame => hsame topic
  ownElement s read h := by
    obtain ⟨topic', hindex, rfl⟩ | ⟨hne, -⟩ := element_cases h
    · exact takes_setPayload s ((payloadIndex_eq_iff topic' topic).mp hindex.symm)
    · exact absurd rfl (hne topic)
  otherElement i s read hi h := by
    obtain ⟨topic', rfl, rfl⟩ | ⟨-, hkeeps⟩ := element_cases h
    · exact keeps_setPayload s (mt (payloadIndex_eq_iff topic' topic).mpr hi)
    · exact (hkeeps s).mono fun _ s' hsame => hsame topic

theorem payload_of_finish {s : Slots} {e : Envelope} (h : record.finish s = .ok e)
    (topic : Topic) : e.payload topic = (s.payload topic).join := by
  simp only [record, Slots.finish] at h
  split at h
  · cases h
  · cases h
    cases topic <;> rfl

end Envelope

/-- A signal has the sender, the recipient and the payload of its envelope. -/
theorem Envelope.signal_of_toMessage {e : Envelope} {sender : Option ClientId} {s : Signal}
    (h : e.toMessage sender = .ok (.signal s)) :
    sender.or e.sender = some s.sender ∧ e.recipient = some s.recipient ∧
      e.payload s.topic = some s.payload := by
  simp only [Envelope.toMessage] at h
  split at h
  · cases h
  · split at h <;> cases h
  · split at h
    · cases h
    · cases h
    · cases h
    · next hsender hrecipient hpayload =>
      cases h
      exact ⟨hsender, hrecipient, hpayload⟩

/-- **A payload is carried by the frame that it was read from.** -/
theorem carries_of_readEnvelope {frame : String} {e : Envelope} {topic : Topic} {p : Payload}
    (h : Message.readEnvelope frame = .ok e) (hp : e.payload topic = some p) :
    Carries topic p.text.toList frame.toList := by
  have hwhole : readWhole? Envelope.read frame = .ok e := by
    rw [Message.readEnvelope] at h
    split at h
    · next hread => rw [hread, Except.ok.inj h]
    · cases h
  obtain ⟨rest, hread, hrest⟩ := exists_of_readWhole? hwhole
  obtain ⟨sp, w, parts, hsp, -, heq, hfinish, hpart⟩ :=
    (Envelope.slot_payload topic).holds_of_read hread
  rw [Envelope.payload_of_finish hfinish, Option.join_eq_some_iff] at hp
  obtain ⟨v, hmeans, hholds⟩ := hpart (some p) hp
  cases hmeans with
  | value hnull hwritten =>
    rw [heq, hwritten]
    exact .mk hsp hrest hholds hnull

end Switchboard
