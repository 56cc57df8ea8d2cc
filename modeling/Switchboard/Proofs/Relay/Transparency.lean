import Switchboard.Proofs.Relay.Operations
import Switchboard.Proofs.Wire.RoundTrip

/-!
# The relay is transparent

Whatever text a client sends, a frame that the relay queues for it says what that client is entitled
to say and nothing else: it is read as a signal from that client to the one whose outbox it is in,
with the very payload that the text carries (`Relay.route_transparent`). What the text claims about
its sender, and how it spells its names, has no part in it.
-/

namespace Switchboard

/-- A signal that came in has the sender that is known from its connection, and its payload is the
one value that the text carries as such. -/
theorem Message.signal_of_receive {sender : ClientId} {text : String} {s : Signal}
    (h : Message.receive sender text = .ok (.signal s)) :
    s.sender = sender ∧ ∀ v, Carries s.topic v text.toList ↔ v = s.payload.text.toList := by
  rw [Message.receive] at h
  split at h
  · next e he =>
    obtain ⟨hsender, -, hpayload⟩ := Envelope.signal_of_toMessage h
    have hcarries := carries_of_readEnvelope he hpayload
    refine ⟨(Option.some.inj hsender).symm, fun v => ⟨fun hv => hv.functional hcarries, ?_⟩⟩
    rintro rfl
    exact hcarries
  · cases h

/-- **The relay is transparent.** A text that is routed is a signal, its sender being the client
that sent it. One frame is queued, for the client that has the id of the recipient. The frame is
read as that very signal, and the payload is, character by character, the value that the text
carries. -/
theorem Relay.route_transparent {r r' : Relay} {sender : ClientId} {text : String} {d : Delivery}
    (h : r.route sender text = .ok (d, r')) :
    ∃ s frame handle o, Message.receive sender text = .ok (.signal s) ∧ s.sender = sender ∧
      d = ⟨s.topic, sender, s.recipient⟩ ∧ r.registry.find? s.recipient = some handle ∧
      r.outbox? handle.outbox = some o ∧
      r' = r.setOutbox handle.outbox { o with frames := o.frames ++ [frame] } ∧
      Message.decode frame = .ok (.signal s) ∧
      ∀ v, Carries s.topic v text.toList ↔ v = s.payload.text.toList := by
  obtain ⟨e, hr⟩ | ⟨s, hreceive, hr⟩ := r.route_cases sender text
  · rw [hr] at h
    cases h
  rw [hr] at h
  obtain ⟨e, hf⟩ | ⟨handle, o, hfind, ho, -, -, hf⟩ := r.forward_cases s
  · rw [hf] at h
    cases h
  rw [hf] at h
  cases h
  obtain ⟨hsender, hcarries⟩ := Message.signal_of_receive hreceive
  have hdecode := Message.decode_encode_of_read (.inr ⟨sender, hreceive⟩)
  exact ⟨s, (Message.signal s).encode, handle, o, hreceive, hsender, by rw [hsender], hfind, ho,
    rfl, hdecode, hcarries⟩

def lookout : Relay where
  registry := ({} : Registry).insert ⟨"b"⟩ { outbox := 0 }
  outboxes := [.ofCapacity 2]

/-- A text that claims a sender, has a member that looks like a welcome and a payload that seems to
close the frame. -/
def forgery : String :=
  "\x7b\"from\":\"b\",\"x\":\"\\\",\\\"type\\\":\\\"welcome\",\"sdp\": \x7b\"\\\"\x7d\":1\x7d ," ++
    "\"\\u0074o\":\"b\",\"type\":\"offer\"\x7d"

/-- What the forgery comes to. -/
def unforged : Signal := ⟨.offer, ⟨"a"⟩, ⟨"b"⟩, ⟨"\x7b\"\\\"\x7d\":1\x7d"⟩⟩

theorem Relay.route_transparent_forgery :
    ∃ r' frame, lookout.route ⟨"a"⟩ forgery = .ok (⟨.offer, ⟨"a"⟩, ⟨"b"⟩⟩, r') ∧
      r'.outbox? 0 = some ⟨2, [frame], false⟩ ∧ Message.decode frame = .ok (.signal unforged) ∧
      Carries .offer unforged.payload.text.toList forgery.toList := by
  have hsize : ¬lookout.frameLimit < forgery.utf8ByteSize := by cbv
  have hreceive : Message.receive ⟨"a"⟩ forgery = .ok (.signal unforged) := by cbv
  have hfind : lookout.registry.find? ⟨"b"⟩ = some { outbox := 0 } := by cbv
  have hroute : lookout.route ⟨"a"⟩ forgery = .ok (⟨.offer, ⟨"a"⟩, ⟨"b"⟩⟩,
      lookout.setOutbox 0 ⟨2, [(Message.signal unforged).encode], false⟩) := by
    rw [route, if_neg hsize, hreceive]
    simp only [forward, unforged, hfind]
    rfl
  obtain ⟨s, frame, handle, o, hs, -, -, hhandle, ho, hr, hdecode, hcarries⟩ :=
    route_transparent hroute
  obtain rfl : unforged = s := Message.signal.inj (Except.ok.inj (hreceive.symm.trans hs))
  obtain rfl : Handle.mk 0 none = handle := Option.some.inj (hfind.symm.trans hhandle)
  obtain rfl : Outbox.ofCapacity 2 = o := Option.some.inj ho
  exact ⟨_, frame, hroute, by rw [hr]; rfl, hdecode, (hcarries _).mpr rfl⟩

end Switchboard
