import Switchboard.Proofs.Json.Object
import Switchboard.Proofs.Wire.Envelope

/-!
# Messages survive the wire

A message that is written as a frame and read again is the same message, whatever its ids are and
however its payload is spaced. The one exception is a payload that is the word `null`: it is written
like any other, but counts as none when it is read. Since a payload that was read is never `null`,
every message that came in survives (`Message.decode_encode`).
-/

namespace Switchboard

open Json

/-! ## Payloads -/

/-- **Payloads are values.** A text holds a payload if it is one value, and the payload is that
value as it is written. -/
theorem Payload.exists_ofJson_iff (p : Payload) :
    (∃ text, Payload.ofJson text = .ok p) ↔ ∃ v, Value v ∧ p = .ofWritten v := by
  constructor
  · rintro ⟨text, h⟩
    rw [Payload.ofJson] at h
    cases hread : readWhole? raw text with
    | error fault =>
      rw [hread] at h
      cases h
    | ok s =>
      rw [hread] at h
      obtain rfl : Payload.mk s = p := Except.ok.inj h
      obtain ⟨rest, hraw, -⟩ := exists_of_readWhole? hread
      obtain ⟨sp, v, -, hv, rfl, -⟩ := takes_raw _ _ _ hraw
      exact ⟨s.toList, hv, by rw [Payload.ofWritten, String.ofList_toList]⟩
  · rintro ⟨v, hv, rfl⟩
    have hraw : raw v = .ok (String.ofList v, []) := by
      simpa using hv.raw_append (.inl rfl)
    exact ⟨String.ofList v, by rw [Payload.ofJson, readWhole?_ofList hraw]; rfl⟩

namespace Envelope

theorem readId_write (id : ClientId) (rest : List Char) :
    readId (id.write ++ rest) = .ok (some id, rest) := by
  have hid := Reader.map_ok (text_writeText id.text rest) ClientId.mk
  exact optional_append hid ⟨'"', _, rfl, rfl, by decide⟩

/-- A payload is read back unless it is `null`. -/
theorem readPayload_append {v rest : List Char} (hv : Value v) (hrest : EndsValue rest) :
    readPayload (v ++ rest) =
      .ok (if v = ['n', 'u', 'l', 'l'] then none else some (.ofWritten v), rest) := by
  split
  · next hnull =>
    subst hnull
    rfl
  · next hnull =>
    have hread : Payload.read (v ++ rest) = .ok (.ofWritten v, rest) :=
      Reader.map_ok (hv.raw_append hrest.afterValue) Payload.mk
    obtain ⟨c, r, hcs, hspace, -, hn⟩ := hv.head
    exact optional_append hread ⟨c, r, hcs, hspace, fun hc => hnull (hn hc)⟩

/-- What is read of a payload. -/
def kept (p : Payload) : Option Payload := if p.text = "null" then none else some p

theorem readPayload_text {p : Payload} {rest : List Char} (hv : Value p.text.toList)
    (hrest : EndsValue rest) : readPayload (p.text.toList ++ rest) = .ok (kept p, rest) := by
  have hnull : p.text.toList = ['n', 'u', 'l', 'l'] ↔ p.text = "null" :=
    @String.toList_inj p.text "null"
  rw [readPayload_append hv hrest, kept]
  simp only [hnull, Payload.ofWritten, String.ofList_toList]

/-! ## The members of a message -/

theorem readsMembers_welcome (id : ClientId) :
    ReadsMembers record record.empty (Message.welcome id).members
      { kind := some MessageKind.welcome.name, id := some (some id) } := by
  refine .cons rfl (fun rest _ => Reader.map_ok (text_writeText _ rest) _) ?_
  refine .cons rfl (fun rest _ => Reader.map_ok (readId_write id rest) _) ?_
  exact .nil _

/-- The slots of a signal before its payload is read. -/
def headSlots (s : Signal) : Slots where
  kind := some s.topic.name
  sender := some (some s.sender)
  recipient := some (some s.recipient)

/-- The slots of a signal, whose payload may have been lost. -/
def signalSlots (s : Signal) : Slots := (headSlots s).setPayload s.topic (kept s.payload)

theorem readsMembers_signal (s : Signal) (hv : Value s.payload.text.toList) :
    ReadsMembers record record.empty (Message.signal s).members (signalSlots s) := by
  have hhead : ReadsMembers record record.empty
      [("from", s.sender.write), ("to", s.recipient.write), ("type", writeText s.topic.name)]
      (headSlots s) := by
    refine .cons rfl (fun rest _ => Reader.map_ok (readId_write s.sender rest) _) ?_
    refine .cons rfl (fun rest _ => Reader.map_ok (readId_write s.recipient rest) _) ?_
    refine .cons rfl (fun rest _ => Reader.map_ok (text_writeText s.topic.name rest) _) ?_
    exact .nil _
  have hnone : (headSlots s).payload s.topic = none := by cases s.topic <;> rfl
  have hmember : record.member s.topic.payloadField (headSlots s) =
      some (.ok (readPayload.map ((headSlots s).setPayload s.topic))) := by
    rw [member_payloadField, hnone]
    rfl
  have hpayload : ReadsMembers record (headSlots s)
      [(s.topic.payloadField, s.payload.text.toList)] (signalSlots s) :=
    .cons hmember (fun rest hrest => Reader.map_ok (readPayload_text hv hrest) _) (.nil _)
  exact hhead.append hpayload

theorem exists_finish_signalSlots (s : Signal) :
    ∃ e, record.finish (signalSlots s) = .ok e ∧ e.kind = s.topic.name ∧
      e.sender = some s.sender ∧ e.recipient = some s.recipient ∧
      e.payload s.topic = kept s.payload := by
  obtain ⟨topic, sender, recipient, payload⟩ := s
  cases topic <;> exact ⟨_, rfl, rfl, rfl, rfl, rfl⟩

end Envelope

/-! ## Messages -/

namespace Message

/-- The envelope of a written message is the one with its members. -/
theorem readEnvelope_of_readsMembers {m : Message} {parts : Envelope.Slots} {e : Envelope}
    (h : ReadsMembers Envelope.record Envelope.record.empty m.members parts)
    (hfinish : Envelope.record.finish parts = .ok e) : readEnvelope m.encode = .ok e := by
  have hread : Envelope.read (writeObject m.members) = .ok (e, []) := by
    have hobject := Record.read_writeObject h []
    rw [List.append_nil] at hobject
    rw [Envelope.read, hobject, Record.close, hfinish]
  rw [readEnvelope, encode, readWhole?_ofList hread]

theorem decode_encode_welcome (id : ClientId) :
    decode (welcome id).encode = .ok (welcome id) := by
  rw [decode, readEnvelope_of_readsMembers (Envelope.readsMembers_welcome id) rfl]
  rfl

theorem receive_encode_welcome (sender id : ClientId) :
    receive sender (welcome id).encode = .ok (welcome id) := by
  rw [receive, readEnvelope_of_readsMembers (Envelope.readsMembers_welcome id) rfl]
  rfl

/-- What the envelope of a written signal comes to, whether or not its sender is known otherwise. -/
theorem exists_readEnvelope_encode (s : Signal) (hv : Value s.payload.text.toList) :
    ∃ e, readEnvelope (signal s).encode = .ok e ∧ ∀ sender : Option ClientId,
      e.toMessage sender =
        if s.payload.text = "null" then
          .error (.missingField (.signal s.topic) s.topic.payloadField)
        else .ok (signal { s with sender := sender.getD s.sender }) := by
  obtain ⟨e, hfinish, hkind, hsender, hrecipient, hpayload⟩ := Envelope.exists_finish_signalSlots s
  have hname : MessageKind.ofName? s.topic.name = some (.signal s.topic) :=
    MessageKind.ofName?_name (.signal s.topic)
  refine ⟨e, readEnvelope_of_readsMembers (Envelope.readsMembers_signal s hv) hfinish, ?_⟩
  intro sender
  by_cases hnull : s.payload.text = "null"
  · rw [Envelope.kept, if_pos hnull] at hpayload
    cases sender <;>
      simp [Envelope.toMessage, hkind, hname, hsender, hrecipient, hpayload, hnull]
  · rw [Envelope.kept, if_neg hnull] at hpayload
    cases sender <;>
      simp [Envelope.toMessage, hkind, hname, hsender, hrecipient, hpayload, hnull]

theorem decode_encode_signal (s : Signal) (hv : Value s.payload.text.toList) :
    decode (signal s).encode =
      if s.payload.text = "null" then
        .error (.missingField (.signal s.topic) s.topic.payloadField)
      else .ok (signal s) := by
  obtain ⟨e, he, hmessage⟩ := exists_readEnvelope_encode s hv
  rw [decode, he]
  exact hmessage none

/-- A signal that comes in is the one that was sent, but for its sender. -/
theorem receive_encode_signal (sender : ClientId) (s : Signal) (hv : Value s.payload.text.toList) :
    receive sender (signal s).encode =
      if s.payload.text = "null" then
        .error (.missingField (.signal s.topic) s.topic.payloadField)
      else .ok (signal { s with sender }) := by
  obtain ⟨e, he, hmessage⟩ := exists_readEnvelope_encode s hv
  rw [receive, he]
  exact hmessage (some sender)

/-- A payload that was read is a value other than `null`. -/
theorem value_of_toMessage {text : String} {e : Envelope} {sender : Option ClientId} {s : Signal}
    (he : readEnvelope text = .ok e) (h : e.toMessage sender = .ok (.signal s)) :
    Value s.payload.text.toList ∧ s.payload.text ≠ "null" := by
  have hp : e.payload s.topic = some s.payload := (Envelope.signal_of_toMessage h).2.2
  obtain ⟨hv, hnull⟩ := (carries_of_readEnvelope he hp).value
  exact ⟨hv, fun h => hnull (by rw [h]; rfl)⟩

theorem value_of_receive {sender : ClientId} {text : String} {s : Signal}
    (h : receive sender text = .ok (.signal s)) :
    Value s.payload.text.toList ∧ s.payload.text ≠ "null" := by
  rw [receive] at h
  split at h
  · next e he => exact value_of_toMessage he h
  · cases h

/-- What was read from some frame is read back: its payload is not `null`. -/
theorem decode_encode_of_read {text : String} {m : Message}
    (h : decode text = .ok m ∨ ∃ sender, receive sender text = .ok m) :
    decode m.encode = .ok m := by
  obtain ⟨e, sender, he, hm⟩ : ∃ e sender, readEnvelope text = .ok e ∧
      e.toMessage sender = .ok m := by
    rcases h with h | ⟨sender, h⟩
    · rw [decode] at h
      split at h
      · next e he => exact ⟨e, none, he, h⟩
      · cases h
    · rw [receive] at h
      split at h
      · next e he => exact ⟨e, some sender, he, h⟩
      · cases h
  cases m with
  | welcome id => exact decode_encode_welcome id
  | signal s =>
    obtain ⟨hv, hnull⟩ := value_of_toMessage he hm
    rw [decode_encode_signal s hv, if_neg hnull]

/-- **Messages survive the wire, all but one.** Every welcome is read back; a signal with any
payload is read back unless the payload is `null`, which is then missing. What was read from some
frame, by whom it may have been sent, is read back always. -/
theorem decode_encode :
    (∀ p : Payload, (∃ text, Payload.ofJson text = .ok p) ↔ ∃ v, Value v ∧ p = .ofWritten v) ∧
      (∀ id, decode (welcome id).encode = .ok (welcome id)) ∧
      (∀ s : Signal, (∃ text, Payload.ofJson text = .ok s.payload) →
        decode (signal s).encode =
          if s.payload.text = "null" then
            .error (.missingField (.signal s.topic) s.topic.payloadField)
          else .ok (signal s)) ∧
      ∀ text m, (decode text = .ok m ∨ ∃ sender, receive sender text = .ok m) →
        decode m.encode = .ok m := by
  refine ⟨Payload.exists_ofJson_iff, decode_encode_welcome, ?_, ?_⟩
  · intro s h
    obtain ⟨v, hv, hp⟩ := (Payload.exists_ofJson_iff s.payload).mp h
    have htext : s.payload.text.toList = v := by rw [hp, Payload.ofWritten, String.toList_ofList]
    exact decode_encode_signal s (htext ▸ hv)
  · intro text m h
    exact decode_encode_of_read h

/-- A frame with an escaped name, an escaped id and space around its payload. -/
def spacedFrame : String :=
  "\x7b\"t\\u006f\":\"\\u00e9\", \"sdp\": [ 1e5 ,null] ,\"type\":\"offer\"\x7d"

theorem decode_encode_spacedFrame :
    let m : Message := .signal ⟨.offer, ⟨"a\"\n"⟩, ⟨"é"⟩, ⟨"[ 1e5 ,null]"⟩⟩
    let lost : Signal := ⟨.candidate, ⟨"a"⟩, ⟨"b"⟩, ⟨"null"⟩⟩
    receive ⟨"a\"\n"⟩ spacedFrame = .ok m ∧ decode m.encode = .ok m ∧
      Payload.ofJson " null" = .ok lost.payload ∧
      decode (signal lost).encode = .error (.missingField (.signal .candidate) "candidate") := by
  intro m lost
  have hreceive : receive ⟨"a\"\n"⟩ spacedFrame = .ok m := by cbv
  have hnull : Payload.ofJson " null" = .ok lost.payload := by cbv
  obtain ⟨-, -, hsignal, hagain⟩ := decode_encode
  exact ⟨hreceive, hagain _ m (.inr ⟨_, hreceive⟩), hnull, hsignal lost ⟨_, hnull⟩⟩

end Message

end Switchboard
