import Switchboard.Relay.Routing

/-!
# A relay and its clients

A relay beside a record of what its clients have seen of it. Every client that connects has a fresh
outbox, so the clients are told apart by the numbers of their outboxes: an id may be given out again
when it is free. The record of a client says what it has read so far, and which frames the relay has
accepted for it; it is kept from what the relay answers, not from what is in the outboxes.
-/

namespace Switchboard

/-- What is known of a client that has connected at some time. -/
structure Client where
  id : ClientId
  /-- The capacity that was asked for. -/
  capacity : Nat
  connected : Bool := true
  reading : Bool := true
  /-- The frames that it has read, oldest first. -/
  received : List String := []
  /-- The frames that were accepted for it while it was connected, oldest first. -/
  accepted : List String := []
deriving DecidableEq, Repr

namespace Client

/-- Note that a frame was accepted for the client that is connected as `recipient`. -/
def accept (recipient : ClientId) (frame : String) (c : Client) : Client :=
  if c.connected && c.id = recipient then { c with accepted := c.accepted ++ [frame] } else c

def forget (id : ClientId) (c : Client) : Client :=
  if c.id = id then { c with connected := false } else c

end Client

/-- A relay and all clients that have ever connected to it, in order. -/
structure Traffic where
  relay : Relay
  clients : List Client := []

namespace Traffic

inductive Event where
  | connect (capacity : Nat) (remote : Option Address.TransportAddress) (draws : List ClientId)
  | disconnect (id : ClientId)
  | dispatch (sender : ClientId) (text : String)
  /-- A client reads the oldest frame that waits for it. -/
  | read (i : Nat)
  | leave (i : Nat)
deriving DecidableEq, Repr

def start (frameLimit : Nat) : Traffic := { relay := { frameLimit } }

/-- The frame in which what `sender` has sent is passed on. -/
def passedOn (sender : ClientId) (text : String) : String :=
  match Message.receive sender text with
  | .ok m => m.encode
  | .error _ => ""

def step (t : Traffic) : Event → Traffic
  | .connect capacity remote draws =>
    match t.relay.accept capacity remote draws with
    | none => t
    | some (id, _, relay) => { relay, clients := t.clients ++ [{ id, capacity }] }
  | .disconnect id =>
    { relay := t.relay.disconnect id, clients := t.clients.map (Client.forget id) }
  | .dispatch sender text =>
    match t.relay.dispatch sender text with
    | (relay, none) => { t with relay }
    | (relay, some d) =>
      { relay, clients := t.clients.map (Client.accept d.recipient (passedOn sender text)) }
  | .read i =>
    match t.relay.takeFrame? i with
    | none => t
    | some (frame, relay) =>
      { relay, clients := t.clients.modify i fun c => { c with received := c.received ++ [frame] } }
  | .leave i =>
    { relay := t.relay.abandon i
      clients := t.clients.modify i fun c => { c with reading := false } }

def after (t : Traffic) (es : List Event) : Traffic := es.foldl step t

/-- Some events lead from a relay without clients to `t`. -/
def Reachable (t : Traffic) : Prop := ∃ frameLimit es, (start frameLimit).after es = t

end Traffic

end Switchboard
