import Switchboard.Proofs.Relay.Delivery

/-!
# The sockets of a relay

A relay serves every client by a loop that reads the client's socket, one frame after the other, and
by a writer that puts the frames of the client's outbox on the socket. When the socket has ended the
loop ends, too: the client is disconnected, and its writer stops.

What such a loop or writer does is a few events of the traffic (`Traffic.does`), so what holds for
all traffic holds for clients behind sockets.
-/

namespace Switchboard

/-- What may happen at the sockets of a relay. The clients are named by their numbers. -/
inductive SocketEvent where
  | join (capacity : Nat) (remote : Option Address.TransportAddress) (draws : List ClientId)
  /-- The loop of a client reads a frame. -/
  | hear (i : Nat) (frame : SocketFrame)
  /-- The socket of a client ends, or cannot be read any more. -/
  | lose (i : Nat)
  /-- The writer of a client puts the oldest frame of its outbox on the socket. -/
  | write (i : Nat)
  /-- The socket of a client takes no more frames, so its writer stops. -/
  | stall (i : Nat)

namespace Traffic

variable {t : Traffic}

def listens? (t : Traffic) (i : Nat) : Option ClientId :=
  match t.clients[i]? with
  | none => none
  | some c => if c.connected then some c.id else none

/-- What the loop of client `i` does when it ends. -/
def hangUp (i : Nat) (id : ClientId) : List Event := [.disconnect id, .leave i]

def take (i : Nat) (id : ClientId) : SocketFrame → List Event
  | .close => hangUp i id
  | frame =>
    match frame.signal? with
    | some s => [.dispatch id s]
    | none => []

def does (t : Traffic) : SocketEvent → List Event
  | .join capacity remote draws => [.connect capacity remote draws]
  | .hear i frame =>
    match t.listens? i with
    | none => []
    | some id => take i id frame
  | .lose i =>
    match t.listens? i with
    | none => []
    | some id => hangUp i id
  | .write i => [.read i]
  | .stall i => [.leave i]

def serve (t : Traffic) (e : SocketEvent) : Traffic := t.after (t.does e)

theorem after_append (t : Traffic) (es es' : List Event) :
    t.after (es ++ es') = (t.after es).after es' := List.foldl_append

/-- What a socket does is part of a run. -/
theorem Reachable.serve (ht : t.Reachable) (e : SocketEvent) : (t.serve e).Reachable := by
  obtain ⟨frameLimit, es, rfl⟩ := ht
  exact ⟨frameLimit, es ++ _, after_append ..⟩

theorem listens?_eq_some_iff {i : Nat} {id : ClientId} :
    t.listens? i = some id ↔ ∃ c, t.clients[i]? = some c ∧ c.connected = true ∧ c.id = id := by
  unfold listens?
  cases t.clients[i]? with
  | none => simp
  | some c => simp

/-! ## Frames that come in -/

/-- A text is dispatched. Any other frame is the last one, or it does not matter. -/
theorem take_cases (i : Nat) (id : ClientId) (frame : SocketFrame) :
    (∃ s, frame.signal? = some s ∧ take i id frame = [.dispatch id s]) ∨
      frame.signal? = none ∧ (take i id frame = hangUp i id ∨ take i id frame = []) := by
  cases frame with
  | close => exact .inr ⟨rfl, .inl rfl⟩
  | text s => exact .inl ⟨s, rfl, rfl⟩
  | binary bytes =>
      simp only [take, SocketFrame.signal?]
      cases String.fromUTF8? bytes with
      | none => exact .inr ⟨rfl, .inr rfl⟩
      | some s => exact .inl ⟨s, rfl, rfl⟩
  | ping => exact .inr ⟨rfl, .inr rfl⟩
  | pong => exact .inr ⟨rfl, .inr rfl⟩

theorem relay_dispatch (t : Traffic) (sender : ClientId) (text : String) :
    (t.step (.dispatch sender text)).relay = (t.relay.dispatch sender text).1 := by
  cases hd : (t.relay.dispatch sender text).2 with
  | none => rw [step_dispatch_none hd]
  | some d => rw [step_dispatch_some hd]

/-- What the traffic makes of a frame is what the relay makes of it. -/
theorem relay_take (t : Traffic) (i : Nat) (id : ClientId) {frame : SocketFrame}
    (hframe : frame ≠ .close) :
    (t.after (take i id frame)).relay = t.relay.readFrame id frame := by
  cases frame with
  | close => exact absurd rfl hframe
  | text s => exact t.relay_dispatch id s
  | binary bytes =>
      simp only [take, Relay.readFrame, SocketFrame.signal?]
      cases String.fromUTF8? bytes with
      | none => rfl
      | some s => exact t.relay_dispatch id s
  | ping => rfl
  | pong => rfl

/-- When a loop has ended, nobody reads the outbox of its client. -/
theorem relay_take_close (t : Traffic) (i : Nat) (id : ClientId) :
    (t.after (take i id .close)).relay = (t.relay.readFrame id .close).abandon i := rfl

/-! ## Outboxes that nobody reads -/

/-- Nothing waits in an outbox that nobody reads. -/
def Emptied (t : Traffic) : Prop :=
  ∀ o ∈ t.relay.outboxes, o.abandoned = true → o.frames = []

theorem Emptied.set {r : Relay} {outboxes : List Outbox} {i : Nat} {o : Outbox}
    (h : ∀ o ∈ outboxes, o.abandoned = true → o.frames = [])
    (ho : o.abandoned = true → o.frames = []) (hr : r.outboxes = outboxes.set i o) :
    ∀ o ∈ r.outboxes, o.abandoned = true → o.frames = [] := by
  intro q hq
  rw [hr] at hq
  rcases List.mem_or_eq_of_mem_set hq with hq | rfl
  · exact h q hq
  · exact ho

/-- Nothing is queued for somebody who reads no more. -/
theorem Emptied.step (ht : t.Emptied) (e : Event) : (t.step e).Emptied := by
  cases e with
  | connect capacity remote draws =>
      obtain hnone | ⟨id, r, haccept, -, -, houtboxes⟩ :=
        t.relay.accept_cases capacity remote draws
      · simpa only [Traffic.step, hnone] using ht
      · simp only [Traffic.step, haccept, Emptied, houtboxes, List.mem_append,
          List.mem_singleton]
        rintro o (ho | rfl)
        · exact ht o ho
        · intro hgone
          cases hgone
  | disconnect id =>
      simpa only [Traffic.step, Emptied, Relay.outboxes_disconnect] using ht
  | dispatch sender text =>
      rw [Emptied, t.relay_dispatch]
      obtain ⟨-, houtboxes⟩ | ⟨s, h, o, -, -, -, hread, -, -, houtboxes⟩ :=
        t.relay.dispatch_cases sender text
      · rw [houtboxes]
        exact ht
      · -- only an outbox that is read takes a frame
        apply Emptied.set ht _ houtboxes
        intro hgone
        rw [hread] at hgone
        cases hgone
  | read i =>
      obtain hnone | ⟨o, frame, frames, ho, hf, hr⟩ := t.relay.takeFrame?_cases i
      · simpa only [Traffic.step, hnone] using ht
      · simp only [Traffic.step, hr]
        refine Emptied.set ht ?_ rfl
        intro hgone
        have hnil := ht o (List.mem_of_getElem? ho) hgone
        rw [hf] at hnil
        cases hnil
  | leave i =>
      simp only [Traffic.step, Relay.abandon]
      split
      · exact ht
      · exact Emptied.set ht (fun _ => rfl) rfl

/-- In any run the outboxes that nobody reads are empty. -/
theorem Reachable.emptied (ht : t.Reachable) : t.Emptied := by
  obtain ⟨frameLimit, es, rfl⟩ := ht
  have hstart : (start frameLimit).Emptied := fun o ho => by cases ho
  generalize start frameLimit = t at hstart
  induction es generalizing t with
  | nil => exact hstart
  | cons e es ih => exact ih _ (hstart.step e)

/-- A frame that waits is the next one in the stream of its client. -/
theorem Reachable.stream (ht : t.Reachable) {i : Nat} {o : Outbox}
    (ho : t.relay.outbox? i = some o) {frame : String} {frames : List String}
    (hf : o.frames = frame :: frames) :
    ∃ c, t.clients[i]? = some c ∧
      c.received ++ frame :: frames = (Message.welcome c.id).encode :: c.accepted := by
  obtain ⟨c, hc, hserved⟩ := ht.sound.client ho
  have hreading : c.reading = true := by
    cases hr : c.reading with
    | true => rfl
    | false =>
        -- then nothing could wait for the client
        have habandoned := hserved.abandoned
        rw [hr] at habandoned
        have hnil := ht.emptied o (List.mem_of_getElem? ho) habandoned
        rw [hf] at hnil
        cases hnil
  refine ⟨c, hc, ?_⟩
  rw [← hf]
  exact hserved.stream hreading

/-! ## What is on record of the clients -/

/-- The two have the same record of a client, though it may have left since. -/
def SameRecord (c c' : Client) : Prop :=
  c'.id = c.id ∧ c'.received = c.received ∧ c'.accepted = c.accepted

/-- The same clients, and the same record of each. -/
structure SameRecords (t t' : Traffic) : Prop where
  length : t'.clients.length = t.clients.length
  record : ∀ (i : Nat) (c' : Client), t'.clients[i]? = some c' →
    ∃ c, t.clients[i]? = some c ∧ SameRecord c c'

theorem sameRecords_of_eq {t' : Traffic} (h : t'.clients = t.clients) : SameRecords t t' where
  length := by rw [h]
  record i c' hc := ⟨c', by rw [← h]; exact hc, rfl, rfl, rfl⟩

theorem SameRecords.trans {t' t'' : Traffic} (h : SameRecords t t') (h' : SameRecords t' t'') :
    SameRecords t t'' where
  length := h'.length.trans h.length
  record i c'' hc := by
    obtain ⟨c', hc', hid', hreceived', haccepted'⟩ := h'.record i c'' hc
    obtain ⟨c, hc, hid, hreceived, haccepted⟩ := h.record i c' hc'
    exact ⟨c, hc, hid'.trans hid, hreceived'.trans hreceived, haccepted'.trans haccepted⟩

theorem sameRecords_leave (t : Traffic) (i : Nat) : SameRecords t (t.step (.leave i)) where
  length := List.length_modify ..
  record j c' hc := by
    simp only [step, List.getElem?_modify, Option.map_eq_map, Option.map_eq_some_iff] at hc
    obtain ⟨c, hc, rfl⟩ := hc
    exact ⟨c, hc, by split <;> exact ⟨rfl, rfl, rfl⟩⟩

theorem sameRecords_disconnect (t : Traffic) (id : ClientId) :
    SameRecords t (t.step (.disconnect id)) where
  length := List.length_map ..
  record j c' hc := by
    simp only [step, List.getElem?_map, Option.map_eq_some_iff] at hc
    obtain ⟨c, hc, rfl⟩ := hc
    refine ⟨c, hc, ?_⟩
    rw [Client.forget]
    split <;> exact ⟨rfl, rfl, rfl⟩

/-- Hanging up changes no record of what was sent. -/
theorem sameRecords_hangUp (t : Traffic) (i : Nat) (id : ClientId) :
    SameRecords t (t.after (hangUp i id)) :=
  (t.sameRecords_disconnect id).trans ((t.step (.disconnect id)).sameRecords_leave i)

/-- A frame without a text changes no record. -/
theorem sameRecords_take (t : Traffic) (i : Nat) (id : ClientId) {frame : SocketFrame}
    (hframe : frame.signal? = none) : SameRecords t (t.after (take i id frame)) := by
  obtain ⟨s, hs, -⟩ | ⟨-, htake | htake⟩ := take_cases i id frame
  · rw [hframe] at hs
    cases hs
  · rw [htake]
    exact t.sameRecords_hangUp i id
  · rw [htake]
    exact sameRecords_of_eq rfl

end Traffic

end Switchboard
