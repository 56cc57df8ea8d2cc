import Mathlib.Logic.Function.Iterate
import Switchboard.Client.RelayClient
import Switchboard.Proofs.Relay.Sockets

/-!
# A relay and its clients at the other ends of their sockets

Between a relay and each of its clients there is a socket, which carries frames in order in both
directions. A client puts its messages on the socket, and somebody may put other frames there: bad
ones, forged ones, or the last one. The loops and the writers of the relay are at the other end; the
frames that have left the relay are read by the client.

Beside the state there is a record of what should have happened. A client has *said* the messages
that were put on its socket, and the journal lists the signals that the relay had to accept when it
read them: those that fit, that have a payload, and whose recipient is there and has room. What the
relay answers and what is in its outboxes has no part in it.
-/

namespace Switchboard

/-- A message that can be written: its payload is a value. -/
structure Writable where
  message : Message
  written : ∀ p, message.payload? = some p → ∃ text, Payload.ofJson text = .ok p

structure Parcel where
  frame : SocketFrame
  own? : Option Writable := none

/-- What the client with the given id says in a frame. If it has not made the frame itself it says
what the frame is read as. -/
def Parcel.message? (p : Parcel) (id : ClientId) : Option Message :=
  match p.own? with
  | some w => some w.message
  | none =>
    match p.frame.signal? with
    | none => none
    | some text => (Message.receive id text).toOption

/-- One end of a socket: a client, and the frames that are on their way from and to it. -/
structure Member where
  /-- The id under which the relay knows the client. -/
  id : ClientId
  client : RelayClient := {}
  /-- On the way to the relay, oldest first. -/
  up : List Parcel := []
  /-- On the way to the client, oldest first. -/
  down : List String := []
  /-- All messages that were put on the socket. -/
  said : List Message := []
  /-- All frames that the client has read. -/
  read : List String := []
  /-- All messages that the client has handed on. -/
  yielded : List Message := []

namespace Member

def post (m : Member) (p : Parcel) : Member :=
  { m with up := m.up ++ [p], said := m.said ++ (p.message? m.id).toList }

def send (m : Member) (w : Writable) : Member :=
  match m.client.send w.message with
  | (client, .ok (some frame)) => { m with client }.post ⟨.text frame, some w⟩
  | (client, _) => { m with client }

def sent (m : Member) : Member := { m with up := m.up.tail }

def arrive (m : Member) (frame : String) : Member := { m with down := m.down ++ [frame] }

/-- The client reads the oldest frame. It does not read any more after its connection has ended. -/
def receive (m : Member) : Member :=
  if m.client.link ≠ .up then m
  else
    match m.down with
    | [] => m
    | frame :: down =>
      { m with client := m.client.read (.text frame), down, read := m.read ++ [frame] }

/-- The client hands on the oldest message. -/
def yield (m : Member) : Member :=
  match m.client.next? with
  | none => m
  | some (message, client) => { m with client, yielded := m.yielded ++ [message] }

def lose (m : Member) : Member := { m with client := m.client.lose }

def close (m : Member) : Member := { m with client := m.client.close }

/-- What the client hands on sooner or later of the frames that it has read. -/
def messages (m : Member) : List Message := m.yielded ++ m.client.inbox

/-- What a client sends carries its id, or nothing gets on its socket. -/
theorem send_cases (m : Member) (w : Writable) :
    (∃ id, m.client.localId = some id ∧
        m.send w = m.post ⟨.text (w.message.withSender id).encode, some w⟩) ∨
      ∃ client : RelayClient, client.localId = m.client.localId ∧
        client.inbox = m.client.inbox ∧ m.send w = { m with client } := by
  cases hid : m.client.localId with
  | none => exact .inr ⟨m.client, hid, rfl, by simp [send, RelayClient.send, hid]⟩
  | some id =>
      cases hlink : m.client.link with
      | up => exact .inl ⟨id, rfl, by simp [send, RelayClient.send, hid, hlink]⟩
      | lost =>
          exact .inr ⟨m.client.close, hid, rfl, by simp [send, RelayClient.send, hid, hlink]⟩
      | down => exact .inr ⟨m.client, hid, rfl, by simp [send, RelayClient.send, hid, hlink]⟩

theorem id_send (m : Member) (w : Writable) : (m.send w).id = m.id := by
  obtain ⟨id, -, hsend⟩ | ⟨client, -, -, hsend⟩ := m.send_cases w
  · rw [hsend]
    rfl
  · rw [hsend]

theorem id_receive (m : Member) : m.receive.id = m.id := by
  unfold receive
  split
  · rfl
  · split <;> rfl

theorem id_yield (m : Member) : m.yield.id = m.id := by
  unfold yield
  split <;> rfl

/-! ### What a client reads and hands on -/

/-- The next frame on the line is read. -/
theorem receive_of_cons {m : Member} {frame : String} {down : List String}
    (hup : m.client.link = .up) (hdown : m.down = frame :: down) :
    m.receive = { m with client := m.client.note frame, down, read := m.read ++ [frame] } := by
  simp [receive, hup, hdown, RelayClient.read, SocketFrame.signal?]

/-- Reading a frame does not cut the line. -/
theorem link_note (c : RelayClient) (frame : String) : (c.note frame).link = c.link := by
  unfold RelayClient.note
  split <;> rfl

/-- A client that is connected reads all that is on its way. -/
theorem iterate_receive {m : Member} (hup : m.client.link = .up) :
    ∃ client, receive^[m.down.length] m =
      { m with client, down := [], read := m.read ++ m.down } := by
  obtain ⟨down, hdown⟩ : ∃ down, m.down = down := ⟨_, rfl⟩
  rw [hdown]
  induction down generalizing m with
  | nil =>
      obtain ⟨id, client, up, down, said, read, yielded⟩ := m
      obtain rfl : down = [] := hdown
      exact ⟨client, by simp⟩
  | cons frame down ih =>
      rw [List.length_cons, Function.iterate_succ_apply, receive_of_cons hup hdown]
      have hlink : (m.client.note frame).link = .up := (link_note _ _).trans hup
      obtain ⟨client, hrest⟩ := ih (m := { m with
        client := m.client.note frame, down, read := m.read ++ [frame] }) hlink rfl
      exact ⟨client, by rw [hrest]; simp⟩

/-- **Yielding hands on the oldest message** that was read and not handed on yet. -/
theorem yield_of_cons {m : Member} {message : Message} {rest : List Message}
    (hinbox : m.client.inbox = message :: rest) :
    m.yield =
      { m with
        client := { m.client with inbox := rest }, yielded := m.yielded ++ [message] } := by
  simp [yield, RelayClient.next?, hinbox]

/-- Where all was handed on, there is nothing to yield. -/
theorem yield_of_nil {m : Member} (hinbox : m.client.inbox = []) : m.yield = m := by
  simp [yield, RelayClient.next?, hinbox]

/-- Whoever asks often enough gets all that was read. -/
theorem iterate_yield {m : Member} {k : Nat} (hk : m.client.inbox.length ≤ k) :
    yield^[k] m =
      { m with client := { m.client with inbox := [] }, yielded := m.messages } := by
  induction k generalizing m with
  | zero =>
      obtain ⟨id, ⟨localId, inbox, link⟩, up, down, said, read, yielded⟩ := m
      obtain rfl : inbox = [] := List.length_eq_zero_iff.mp (Nat.le_zero.mp hk)
      simp [messages]
  | succ k ih =>
      rw [Function.iterate_succ_apply]
      cases hinbox : m.client.inbox with
      | nil =>
          rw [yield_of_nil hinbox, ih (by simp [hinbox])]
      | cons message rest =>
          rw [hinbox, List.length_cons] at hk
          rw [yield_of_cons hinbox, ih (Nat.le_of_succ_le_succ hk)]
          simp [messages, hinbox]

end Member

/-- The outbox that a signal has to go to: the relay takes the text that it is in, the signal has a
payload, and its recipient is there and has room. -/
def Relay.admits? (r : Relay) (text : String) (s : Signal) : Option Nat :=
  if text.utf8ByteSize ≤ r.frameLimit ∧ s.payload.text ≠ "null" then
    match r.registry.find? s.recipient with
    | none => none
    | some h =>
      match r.outbox? h.outbox with
      | none => none
      | some o => if !o.abandoned && o.frames.length < o.capacity then some h.outbox else none
  else none

/-- A signal that the relay had to accept. Clients are named by their numbers. -/
structure Entry where
  sender : Nat
  /-- The id of the sender. -/
  id : ClientId
  recipient : Nat
  /-- The signal as it was sent. -/
  signal : Signal
deriving DecidableEq, Repr

def Entry.message (e : Entry) : Message := (Message.signal e.signal).withSender e.id

/-- A relay and all clients that have ever connected to it, in order. -/
structure Network where
  traffic : Traffic
  members : List Member := []
  /-- The signals that the relay had to accept, oldest first. -/
  journal : List Entry := []

namespace Network

inductive Event where
  | join (capacity : Nat) (remote : Option Address.TransportAddress) (draws : List ClientId)
  | send (i : Nat) (w : Writable)
  /-- A frame that the client has not made gets on its socket. -/
  | inject (i : Nat) (frame : SocketFrame)
  /-- The relay reads the oldest frame that comes from a client. -/
  | hear (i : Nat)
  /-- The relay finds that the socket of a client has ended. -/
  | drop (i : Nat)
  /-- The relay puts the oldest frame for a client on its socket. -/
  | write (i : Nat)
  | stall (i : Nat)
  /-- A client reads the oldest frame that comes from the relay. -/
  | receive (i : Nat)
  | yield (i : Nat)
  /-- A client finds that its socket has ended. -/
  | lose (i : Nat)
  | close (i : Nat)

def start (frameLimit : Nat) : Network := { traffic := .start frameLimit }

def change (n : Network) (i : Nat) (f : Member → Member) : Network :=
  { n with members := n.members.modify i f }

/-- What has to be accepted of a frame that comes from client `i`. -/
def enters (n : Network) (i : Nat) (id : ClientId) (p : Parcel) : List Entry :=
  match p.frame.signal?, p.message? id with
  | some text, some (.signal s) =>
    match n.traffic.relay.admits? text s with
    | none => []
    | some j => [⟨i, id, j, s⟩]
  | _, _ => []

def hear (n : Network) (i : Nat) (id : ClientId) (p : Parcel) : Network :=
  { traffic := n.traffic.serve (.hear i p.frame)
    members := n.members.modify i Member.sent
    journal := n.journal ++ n.enters i id p }

def step (n : Network) : Event → Network
  | .join capacity remote draws =>
    match n.traffic.relay.accept capacity remote draws with
    | none => n
    | some (id, _, _) =>
      { n with traffic := n.traffic.serve (.join capacity remote draws)
               members := n.members ++ [{ id }] }
  | .send i w => n.change i (·.send w)
  | .inject i frame => n.change i (·.post ⟨frame, none⟩)
  | .hear i =>
    match n.traffic.listens? i, n.members[i]?.bind (·.up.head?) with
    | some id, some p => n.hear i id p
    | _, _ => n
  | .drop i => { n with traffic := n.traffic.serve (.lose i) }
  | .write i =>
    match n.traffic.relay.takeFrame? i with
    | none => n
    | some (frame, _) =>
      { n with traffic := n.traffic.serve (.write i)
               members := n.members.modify i (·.arrive frame) }
  | .stall i => { n with traffic := n.traffic.serve (.stall i) }
  | .receive i => n.change i Member.receive
  | .yield i => n.change i Member.yield
  | .lose i => n.change i Member.lose
  | .close i => n.change i Member.close

def after (n : Network) (es : List Event) : Network := es.foldl step n

theorem change_change (n : Network) (i : Nat) (f g : Member → Member) :
    (n.change i f).change i g = n.change i (g ∘ f) := by
  simp only [change, List.modify_modify_eq]

/-- The same thing happens several times at one socket. -/
theorem after_replicate {e : Event} {i : Nat} {f : Member → Member}
    (hstep : ∀ n : Network, n.step e = n.change i f) (n : Network) (k : Nat) :
    n.after (List.replicate k e) = n.change i f^[k] := by
  induction k generalizing n with
  | zero => simp [after, change, List.modify_id]
  | succ k ih =>
      show (n.step e).after (List.replicate k e) = _
      rw [ih, hstep, change_change]
      rfl

/-- What the relay had to accept from client `i`. -/
def mailFrom (n : Network) (i : Nat) : List Entry := n.journal.filter (·.sender = i)

/-- What the relay had to accept for client `i`. -/
def mailFor (n : Network) (i : Nat) : List Entry := n.journal.filter (·.recipient = i)

end Network

end Switchboard
