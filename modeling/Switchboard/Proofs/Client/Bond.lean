import Switchboard.Proofs.Client.Admission

/-!
# The two ends of a socket

Of every client it is known what the relay had to accept from it and for it. `Bond` says how this,
the relay's record of the client, the client itself and the frames on its socket fit together: the
client has read the welcome and then the frames that were accepted for it, as far as they have come,
and it has said all that the relay had to accept. Whatever happens at either end keeps it.
-/

namespace Switchboard

namespace Network

/-- How the end of a socket fits the relay's record of the client: `out` is what the relay had to
accept from the client, and `inn` what it had to accept for it. -/
structure Bond (out inn : List Entry) (m : Member) (c : Client) : Prop where
  id : c.id = m.id
  stamped : ∀ p ∈ m.up, p.Stamped m.id
  /-- What has left the relay was read by the client or is on its way. -/
  received : c.received = m.read ++ m.down
  stream : c.received <+: (Message.welcome m.id).encode :: c.accepted
  accepted : c.accepted = inn.map (·.message.encode)
  localId : m.client.localId = if m.read = [] then none else some m.id
  messages : m.messages = (inn.take (m.read.length - 1)).map (·.message)
  /-- What the relay had to accept, and what is still on its way, was said in this order. -/
  said : ((out.map fun e => Message.signal e.signal) ++
    m.up.filterMap (·.message? m.id)).Sublist m.said

namespace Bond

variable {out inn : List Entry} {m : Member} {c : Client}

/-! ## At the client -/

/-- A parcel that is handed over is on its way. -/
theorem post (h : Bond out inn m c) {p : Parcel} (hp : p.Stamped m.id) :
    Bond out inn (m.post p) c := by
  refine { h with stamped := ?_, said := ?_ }
  · intro q hq
    rcases List.mem_append.mp hq with hq | hq
    · exact h.stamped q hq
    · rw [List.mem_singleton] at hq
      subst hq
      exact hp
  · have hone : [p].filterMap (·.message? m.id) = (p.message? m.id).toList := by
      cases hp : p.message? m.id <;> simp [hp]
    show List.Sublist (_ ++ (m.up ++ [p]).filterMap (·.message? m.id))
      (m.said ++ (p.message? m.id).toList)
    rw [List.filterMap_append, hone, ← List.append_assoc]
    exact h.said.append (List.Sublist.refl _)

/-- Only its id and its inbox matter of a client. -/
theorem become (h : Bond out inn m c) {client : RelayClient}
    (hid : client.localId = m.client.localId) (hinbox : client.inbox = m.client.inbox) :
    Bond out inn { m with client } c := by
  refine { h with localId := hid.trans h.localId, messages := ?_ }
  show m.yielded ++ client.inbox = _
  rw [hinbox]
  exact h.messages

/-- What a client sends carries the id that it is known by. -/
theorem send (h : Bond out inn m c) (w : Writable) : Bond out inn (m.send w) c := by
  obtain ⟨id, hid, hsend⟩ | ⟨client, hid, hinbox, hsend⟩ := m.send_cases w
  · rw [hsend]
    -- a client that has an identity has the one it was welcomed with
    have hlocal := h.localId
    rw [hid] at hlocal
    obtain rfl : id = m.id := by
      split at hlocal
      · cases hlocal
      · exact Option.some.inj hlocal
    apply h.post
    intro w' hw
    cases hw
    rfl
  · rw [hsend]
    exact h.become hid hinbox

/-- What was handed on and what waits are together the same as before. -/
theorem yield (h : Bond out inn m c) : Bond out inn m.yield c := by
  cases hinbox : m.client.inbox with
  | nil =>
      rw [Member.yield_of_nil hinbox]
      exact h
  | cons message rest =>
      rw [Member.yield_of_cons hinbox]
      refine { h with messages := ?_ }
      have hmessages := h.messages
      rw [Member.messages, hinbox] at hmessages
      rw [← hmessages, Member.messages, List.append_assoc]
      rfl

/-! ### Frames from the relay -/

/-- The first frame that a client reads is its welcome. -/
theorem receive_welcome (h : Bond out inn m c) {down : List String} (hread : m.read = [])
    (hdown : m.down = (Message.welcome m.id).encode :: down) :
    Bond out inn
      { m with client := { m.client with localId := some m.id }, down,
               read := [(Message.welcome m.id).encode] } c := by
  refine { h with received := ?_, localId := rfl, messages := ?_ }
  · rw [h.received, hread, hdown]
    rfl
  · have hmessages := h.messages
    rw [hread] at hmessages
    exact hmessages

/-- Every further frame is a signal that was accepted for it. -/
theorem receive_signal (h : Bond out inn m c) {e : Entry} {down : List String}
    (hread : m.read ≠ []) (hdown : m.down = e.message.encode :: down)
    (he : inn[m.read.length - 1]? = some e) :
    Bond out inn
      { m with client := { m.client with inbox := m.client.inbox ++ [e.message] }, down,
               read := m.read ++ [e.message.encode] } c := by
  refine { h with received := ?_, localId := ?_, messages := ?_ }
  · rw [h.received, hdown, List.append_assoc]
    rfl
  · -- the welcome was read before, so the identity stays what it is
    have hlocal := h.localId
    rw [if_neg hread] at hlocal
    rw [if_neg (by simp)]
    exact hlocal
  · have hpos : 0 < m.read.length := List.length_pos_iff.mpr hread
    have hlength : (m.read ++ [e.message.encode]).length - 1 = m.read.length - 1 + 1 := by
      rw [List.length_append, List.length_singleton]
      omega
    have hmessages := h.messages
    rw [Member.messages] at hmessages
    rw [hlength, List.take_add_one, he, List.map_append, ← hmessages, Member.messages]
    simp

/-- The frame that a client reads is its welcome or the next one that was accepted for it. -/
theorem receive (h : Bond out inn m c)
    (hdecode : ∀ e ∈ inn, Message.decode e.message.encode = .ok e.message) :
    Bond out inn m.receive c := by
  by_cases hup : m.client.link = .up
  swap
  · rw [Member.receive, if_pos hup]
    exact h
  cases hdown : m.down with
  | nil =>
      have hsame : m.receive = m := by simp [Member.receive, hdown]
      rw [hsame]
      exact h
  | cons frame down =>
  rw [Member.receive_of_cons hup hdown]
  have hstream := h.stream
  rw [h.received, hdown] at hstream
  cases hread : m.read with
  | nil =>
      rw [hread] at hstream
      obtain rfl : frame = (Message.welcome m.id).encode := (List.cons_prefix_cons.mp hstream).1
      have hwelcome : m.client.note (Message.welcome m.id).encode =
          { m.client with localId := some m.id } := by
        simp only [RelayClient.note, Message.decode_encode_welcome]
      rw [hwelcome]
      exact h.receive_welcome hread hdown
  | cons first rest =>
      rw [hread] at hstream
      -- as many frames lie before this one as signals were accepted before its own
      obtain ⟨later, hlater⟩ := (List.cons_prefix_cons.mp hstream).2
      have hframe : c.accepted[rest.length]? = some frame := by
        rw [← hlater]
        simp
      rw [h.accepted, List.getElem?_map, Option.map_eq_some_iff] at hframe
      obtain ⟨e, he, rfl⟩ := hframe
      obtain ⟨s, hs⟩ : ∃ s, e.message = .signal s := ⟨_, rfl⟩
      have hsignal : m.client.note e.message.encode =
          { m.client with inbox := m.client.inbox ++ [e.message] } := by
        rw [RelayClient.note, hdecode e (List.mem_of_getElem? he), hs]
      have hne : m.read ≠ [] := by simp [hread]
      have hentry : inn[m.read.length - 1]? = some e := by
        rw [hread]
        exact he
      have hbond := h.receive_signal hne hdown hentry
      rw [hsignal, ← hread]
      exact hbond

/-! ## At the relay -/

/-- The relay puts the next frame of the client's stream on its socket. -/
theorem write (h : Bond out inn m c) {frame : String} {frames : List String}
    (hstream : c.received ++ frame :: frames = (Message.welcome c.id).encode :: c.accepted) :
    Bond out inn (m.arrive frame) { c with received := c.received ++ [frame] } := by
  refine { h with received := ?_, stream := ?_ }
  · show c.received ++ [frame] = m.read ++ (m.down ++ [frame])
    rw [h.received, List.append_assoc]
  · show c.received ++ [frame] <+: (Message.welcome m.id).encode :: c.accepted
    refine ⟨frames, ?_⟩
    rw [← h.id, ← hstream, List.append_assoc]
    rfl

/-! ### Frames for the relay -/

/-- The relay reads a frame and need not accept anything. -/
theorem sent (h : Bond out inn m c) : Bond out inn m.sent c := by
  refine { h with stamped := fun p hp => h.stamped p (List.mem_of_mem_tail hp), said := ?_ }
  have htail : (m.up.tail.filterMap (·.message? m.id)).Sublist
      (m.up.filterMap (·.message? m.id)) := (List.tail_sublist m.up).filterMap _
  exact ((List.Sublist.refl _).append htail).trans h.said

/-- The relay reads a frame with a signal that it has to accept. -/
theorem sent_accepted (h : Bond out inn m c) {p : Parcel} (hp : m.up.head? = some p) {e : Entry}
    (hm : p.message? m.id = some (.signal e.signal)) : Bond (out ++ [e]) inn m.sent c := by
  refine { h.sent with said := ?_ }
  obtain ⟨up, hup⟩ : ∃ up, m.up = p :: up := by
    cases hm : m.up with
    | nil =>
        rw [hm] at hp
        cases hp
    | cons q up =>
        rw [hm] at hp
        cases hp
        exact ⟨up, rfl⟩
  -- what moves to the journal was at the head of what is on its way
  have hsaid := h.said
  rw [hup, List.filterMap_cons, hm] at hsaid
  show List.Sublist (_ ++ m.up.tail.filterMap (·.message? m.id)) m.said
  rw [hup, List.map_append, List.append_assoc]
  exact hsaid

/-- A signal is accepted for the client. -/
theorem accept (h : Bond out inn m c) (e : Entry) :
    Bond out (inn ++ [e]) m { c with accepted := c.accepted ++ [e.message.encode] } := by
  refine { h with stream := ?_, accepted := ?_, messages := ?_ }
  · show c.received <+: (Message.welcome m.id).encode :: (c.accepted ++ [e.message.encode])
    rw [← List.cons_append]
    exact h.stream.trans (List.prefix_append _ _)
  · show c.accepted ++ [e.message.encode] = _
    rw [h.accepted, List.map_append]
    rfl
  · -- the client has read no more than was accepted for it before
    have hlength : m.read.length - 1 ≤ inn.length := by
      have hle := h.stream.length_le
      rw [h.received, h.accepted] at hle
      simp only [List.length_append, List.length_cons, List.length_map] at hle
      omega
    rw [List.take_append_of_le_length hlength]
    exact h.messages

/-- The record of a client may say that it has left. -/
theorem congr (h : Bond out inn m c) {c' : Client} (hc : Traffic.SameRecord c c') :
    Bond out inn m c' := by
  obtain ⟨hid, hreceived, haccepted⟩ := hc
  refine { h with id := hid.trans h.id, received := hreceived.trans h.received
                  stream := ?_, accepted := haccepted.trans h.accepted }
  rw [hreceived, haccepted]
  exact h.stream

end Bond

end Network

end Switchboard
