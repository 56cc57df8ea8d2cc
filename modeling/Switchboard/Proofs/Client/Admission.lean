import Switchboard.Proofs.Client.Network
import Switchboard.Proofs.Relay.Transparency

/-!
# What a relay makes of what a client says

What the relay reads in a frame is what the client has said in it, with the id of the client in the
place of its sender; all that gets lost on the way is a payload that is `null`. So the relay accepts
just what it has to accept (`Network.hear_cases`).
-/

namespace Switchboard

/-! ## Frames -/

/-- What a client writes is read at the relay as sent by that client. -/
theorem Writable.receive_encode (w : Writable) (id : ClientId) :
    Message.receive id (w.message.withSender id).encode =
      match w.message with
      | .welcome id' => .ok (.welcome id')
      | .signal s =>
        if s.payload.text = "null" then
          .error (.missingField (.signal s.topic) s.topic.payloadField)
        else .ok (.signal { s with sender := id }) := by
  obtain ⟨m, hm⟩ := w
  cases m with
  | welcome id' => exact Message.receive_encode_welcome id id'
  | signal s =>
      -- what can be written down carries the text of a JSON value
      obtain ⟨v, hv, hp⟩ := (Payload.exists_ofJson_iff s.payload).mp (hm s.payload rfl)
      have htext : s.payload.text.toList = v := by
        rw [hp, Payload.ofWritten, String.toList_ofList]
      exact Message.receive_encode_signal id { s with sender := id } (htext ▸ hv)

/-- A frame that the client has made carries its id. -/
def Parcel.Stamped (p : Parcel) (id : ClientId) : Prop :=
  ∀ w, p.own? = some w → p.frame = .text (w.message.withSender id).encode

/-- The signal that the relay reads in a frame is the one that the client says in it. -/
theorem Parcel.Stamped.receive_eq_signal_iff {p : Parcel} {id : ClientId} (hp : p.Stamped id)
    {text : String} (htext : p.frame.signal? = some text) (s' : Signal) :
    Message.receive id text = .ok (.signal s') ↔
      ∃ s, p.message? id = some (.signal s) ∧ s.payload.text ≠ "null" ∧
        { s with sender := id } = s' := by
  cases hown : p.own? with
  | some w =>
      -- what was written is read back
      have hmessage : p.message? id = some w.message := by rw [message?, hown]
      obtain rfl : (w.message.withSender id).encode = text := by
        rw [hp w hown] at htext
        exact Option.some.inj htext
      rw [hmessage, w.receive_encode id]
      cases w.message with
      | welcome id' => simp
      | signal s => by_cases hnull : s.payload.text = "null" <;> simp [hnull]
  | none =>
      -- what is said is what is read, and a payload that was read is not null
      have hmessage : p.message? id = (Message.receive id text).toOption := by
        rw [message?, hown, htext]
      rw [hmessage]
      cases hreceive : Message.receive id text with
      | error e => simp [Except.toOption]
      | ok m =>
          cases m with
          | welcome id' => simp [Except.toOption]
          | signal s =>
              obtain ⟨hsender, -⟩ := Message.signal_of_receive hreceive
              have hsame : { s with sender := id } = s := by rw [← hsender]
              constructor
              · intro hs
                obtain rfl : s = s' := Message.signal.inj (Except.ok.inj hs)
                exact ⟨s, rfl, (Message.value_of_receive hreceive).2, hsame⟩
              · rintro ⟨q, hq, -, rfl⟩
                obtain rfl : s = q := Message.signal.inj (Option.some.inj hq)
                rw [hsame]

/-! ## Acceptance -/

namespace Relay

variable {r : Relay} {text : String} {s : Signal}

/-- A signal is accepted that fits, has a payload, and finds room with its recipient. -/
theorem admits?_eq_some_iff {i : Nat} :
    r.admits? text s = some i ↔
      text.utf8ByteSize ≤ r.frameLimit ∧ s.payload.text ≠ "null" ∧
        ∃ h o, r.registry.find? s.recipient = some h ∧ r.outbox? h.outbox = some o ∧
          o.abandoned = false ∧ o.frames.length < o.capacity ∧ h.outbox = i := by
  unfold admits?
  split
  · next hfits =>
    cases r.registry.find? s.recipient with
    | none => simp
    | some h =>
        cases ho : r.outbox? h.outbox with
        | none => simp [ho]
        | some o =>
            by_cases hroom : o.abandoned = false ∧ o.frames.length < o.capacity
            · simp [ho, hfits, hroom]
            · simp [ho, hfits]
              grind
  · next hfits => grind

/-- The relay queues the signals that it has to accept, and drops all others. -/
theorem dispatch_admits {sender : ClientId}
    (hm : Message.receive sender text = .ok (.signal { s with sender }))
    (hnull : s.payload.text ≠ "null") :
    r.admits? text s = none ∧ (r.dispatch sender text).2 = none ∨
      ∃ h o, r.admits? text s = some h.outbox ∧ r.registry.find? s.recipient = some h ∧
        r.outbox? h.outbox = some o ∧
        (r.dispatch sender text).2 = some ⟨s.topic, sender, s.recipient⟩ := by
  unfold dispatch route
  -- too long; then by what becomes of the message: nobody reads, no room, or queued
  by_cases hsize : r.frameLimit < text.utf8ByteSize
  · left
    rw [if_pos hsize, admits?, if_neg (by omega)]
    exact ⟨rfl, rfl⟩
  rw [if_neg hsize, hm]
  have hfits : text.utf8ByteSize ≤ r.frameLimit := Nat.le_of_not_lt hsize
  obtain ⟨hf, hgone⟩ | ⟨h, o, hf, hfind, ho, -, hfull⟩ | ⟨h, o, hfind, ho, hread, hroom, hf⟩ :=
    r.forward_outcomes { s with sender } <;> simp only [hf]
  · left
    refine ⟨?_, trivial⟩
    rw [Option.eq_none_iff_forall_ne_some]
    intro i hi
    obtain ⟨-, -, h, o, hfind, ho, hread, -⟩ := admits?_eq_some_iff.mp hi
    rw [hgone h o hfind ho] at hread
    cases hread
  · left
    refine ⟨?_, trivial⟩
    rw [Option.eq_none_iff_forall_ne_some]
    intro i hi
    obtain ⟨-, -, h', o', hfind', ho', -, hroom, -⟩ := admits?_eq_some_iff.mp hi
    obtain rfl : h = h' := Option.some.inj (hfind.symm.trans hfind')
    obtain rfl : o = o' := Option.some.inj (ho.symm.trans ho')
    omega
  · right
    refine ⟨h, o, ?_, hfind, ho, trivial⟩
    exact admits?_eq_some_iff.mpr ⟨hfits, hnull, h, o, hfind, ho, hread, hroom, rfl⟩

end Relay

/-! ## One frame -/

/-- The relay passes a frame on just when it has to accept the signal that the client says in it. -/
theorem Parcel.Stamped.dispatch_cases {p : Parcel} {id : ClientId} (hp : p.Stamped id)
    {text : String} (htext : p.frame.signal? = some text) (r : Relay) :
    (r.dispatch id text).2 = none ∧
        (∀ s, p.message? id = some (.signal s) → r.admits? text s = none) ∨
      ∃ s h o, p.message? id = some (.signal s) ∧
        Message.receive id text = .ok (.signal { s with sender := id }) ∧
        r.admits? text s = some h.outbox ∧ r.registry.find? s.recipient = some h ∧
        r.outbox? h.outbox = some o ∧
        (r.dispatch id text).2 = some ⟨s.topic, id, s.recipient⟩ := by
  -- a text that is not read as a signal is dropped, and admitted to nobody
  by_cases hread : ∃ s', Message.receive id text = .ok (.signal s')
  · obtain ⟨s', hs'⟩ := hread
    obtain ⟨s, hm, hnull, rfl⟩ := (hp.receive_eq_signal_iff htext s').mp hs'
    obtain ⟨hadmits, hnone⟩ | ⟨h, o, hadmits, hfind, ho, hsome⟩ :=
      Relay.dispatch_admits (r := r) hs' hnull
    · left
      refine ⟨hnone, ?_⟩
      intro q hq
      rw [hm] at hq
      cases hq
      exact hadmits
    · exact .inr ⟨s, h, o, hm, hs', hadmits, hfind, ho, hsome⟩
  · left
    refine ⟨?_, ?_⟩
    · obtain ⟨hnone, -⟩ | ⟨s, h, o, hs, -⟩ := r.dispatch_cases id text
      · exact hnone
      · exact absurd ⟨s, hs⟩ hread
    · intro s hm
      have hnull : s.payload.text = "null" := by
        by_contra hnull
        exact hread ⟨_, (hp.receive_eq_signal_iff htext _).mpr ⟨s, hm, hnull, rfl⟩⟩
      rw [Relay.admits?, if_neg]
      intro hfits
      exact hfits.2 hnull

namespace Network

variable {n : Network} {i : Nat} {id : ClientId} {p : Parcel}

/-- Nothing has to be accepted of a frame that is not read as a signal. -/
theorem enters_eq_nil {text : String} (htext : p.frame.signal? = some text)
    (h : ∀ s, p.message? id = some (.signal s) → n.traffic.relay.admits? text s = none) :
    n.enters i id p = [] := by
  rw [enters, htext]
  cases hm : p.message? id with
  | none => rfl
  | some m =>
      cases m with
      | welcome id' => rfl
      | signal s => simp only [h s hm]

theorem enters_eq_singleton {text : String} (htext : p.frame.signal? = some text) {s : Signal}
    (hm : p.message? id = some (.signal s)) {j : Nat}
    (h : n.traffic.relay.admits? text s = some j) : n.enters i id p = [⟨i, id, j, s⟩] := by
  simp only [enters, htext, hm, h]

/-- When the loop of client `i` reads the frame `p`, the signal in it has to be accepted for the
client `c`, and the traffic `t` that comes of it says that it was. -/
structure Accepts (n : Network) (i : Nat) (id : ClientId) (p : Parcel) (t : Traffic) (e : Entry)
    (c : Client) : Prop where
  enters : n.enters i id p = [e]
  sender : e.sender = i
  senderId : e.id = id
  said : p.message? id = some (.signal e.signal)
  decodes : Message.decode e.message.encode = .ok e.message
  client : n.traffic.clients[e.recipient]? = some c
  recipient : c.id = e.signal.recipient
  clients : t.clients = n.traffic.clients.set e.recipient
    { c with accepted := c.accepted ++ [e.message.encode] }

/-- When a loop reads a frame, either it is accepted for nobody and has not to be, or it has to be
accepted for one client, and it is. -/
theorem hear_cases (ht : n.traffic.Sound) (hlistens : n.traffic.listens? i = some id)
    (hp : p.Stamped id) :
    n.enters i id p = [] ∧
        Traffic.SameRecords n.traffic (n.traffic.serve (.hear i p.frame)) ∨
      ∃ e c, n.Accepts i id p (n.traffic.serve (.hear i p.frame)) e c := by
  have hserve : n.traffic.serve (.hear i p.frame) =
      n.traffic.after (Traffic.take i id p.frame) := by
    simp only [Traffic.serve, Traffic.does, hlistens]
  rw [hserve]
  -- only a frame that signals something is passed on to the relay
  obtain ⟨text, htext, htake⟩ | ⟨htext, -⟩ := Traffic.take_cases i id p.frame
  · rw [htake]
    show _ ∧ Traffic.SameRecords _ (n.traffic.step (.dispatch id text)) ∨
      ∃ e c, n.Accepts i id p (n.traffic.step (.dispatch id text)) e c
    obtain ⟨hnone, hadmits⟩ | ⟨s, h, o, hm, hread, hadmits, hfind, ho, hsome⟩ :=
      hp.dispatch_cases htext n.traffic.relay
    · left
      refine ⟨enters_eq_nil htext hadmits, ?_⟩
      apply Traffic.sameRecords_of_eq
      rw [Traffic.step_dispatch_none hnone]
    · right
      obtain ⟨c, hc, hid, -⟩ := ht.recipient hfind ho
      have hpassed : Traffic.passedOn id text = (Entry.message ⟨i, id, h.outbox, s⟩).encode := by
        rw [Traffic.passedOn, hread]
        rfl
      have hclients := ht.clients_dispatch hsome hfind ho hc
      rw [hpassed] at hclients
      refine ⟨⟨i, id, h.outbox, s⟩, c, ?_⟩
      exact {
        enters := enters_eq_singleton htext hm hadmits
        sender := rfl
        senderId := rfl
        said := hm
        decodes := Message.decode_encode_of_read (.inr ⟨id, hread⟩)
        client := hc
        recipient := hid
        clients := hclients }
  · left
    refine ⟨?_, n.traffic.sameRecords_take i id htext⟩
    rw [enters, htext]

end Network

end Switchboard
