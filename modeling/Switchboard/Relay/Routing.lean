import Switchboard.Relay.Counters
import Switchboard.Relay.Outbox
import Switchboard.Relay.Registry
import Switchboard.Wire.Envelope

/-!
# Routing

A relay passes a frame of one client on to the client that the frame names. What the frame says
about its sender is never trusted: it is passed on with the id of the connection that it came by.
`route` says what becomes of a frame; `dispatch` counts it, too, and keeps the reason of a failure
to itself. `readFrame` is what happens to the frames that come out of a client's socket: nothing is
counted for bytes that are no text, and nothing for frames that carry no signal.
-/

namespace Switchboard

inductive RouteError where
  | malformed (e : WireError)
  | tooLarge (size limit : Nat)
  /-- Only the relay itself sends welcomes. -/
  | welcomeFrom (sender : ClientId)
  | unknownRecipient (id : ClientId)
  | backlogged (id : ClientId)
deriving DecidableEq, Repr

namespace RouteError

def message : RouteError → String
  | malformed e => "malformed message: " ++ e.message
  | tooLarge size limit =>
    "frame of " ++ toString size ++ " bytes exceeds the " ++ toString limit ++ " byte limit"
  | welcomeFrom sender => "client " ++ sender.text ++ " sent a server-only welcome frame"
  | unknownRecipient id => "recipient " ++ id.text ++ " is not registered"
  | backlogged id => "recipient " ++ id.text ++ " has a full outbound queue"

def reason : RouteError → DropReason
  | malformed _ | tooLarge _ _ => .malformed
  | welcomeFrom _ => .protocolViolation
  | unknownRecipient _ => .unknownRecipient
  | backlogged _ => .backlogged

end RouteError

/-- A frame that has reached the outbox of its recipient. -/
structure Delivery where
  topic : Topic
  sender : ClientId
  recipient : ClientId
deriving DecidableEq, Repr

structure Relay where
  /-- Longer frames, in bytes, are dropped. -/
  frameLimit : Nat := 65536
  registry : Registry := {}
  /-- All outboxes ever opened, in order. -/
  outboxes : List Outbox := []
  counters : Counters := {}

/-- An id whose place in the registry is taken, but not filled yet: nobody can find it there. -/
structure Reservation where
  relay : Relay
  id : ClientId
  handle : Handle

namespace Reservation

/-- Do something on the handle before it can be found. -/
def prepare (v : Reservation) (f : Relay → ClientId → Handle → Relay) : Reservation :=
  { v with relay := f v.relay v.id v.handle }

def fill (v : Reservation) : Relay :=
  { v.relay with registry := v.relay.registry.insert v.id v.handle }

end Reservation

namespace Relay

def defaultFrameLimit : Nat := 65536

def openOutbox (r : Relay) (capacity : Nat) : Relay × Nat :=
  ({ r with outboxes := r.outboxes ++ [.ofCapacity capacity] }, r.outboxes.length)

def outbox? (r : Relay) (i : Nat) : Option Outbox := r.outboxes[i]?

def setOutbox (r : Relay) (i : Nat) (o : Outbox) : Relay :=
  { r with outboxes := r.outboxes.set i o }

def push (r : Relay) (i : Nat) (frame : String) : Except Undeliverable Relay :=
  match r.outbox? i with
  | none => .error .gone
  | some o =>
    match o.push frame with
    | .ok o => .ok (r.setOutbox i o)
    | .error e => .error e

def takeFrame? (r : Relay) (i : Nat) : Option (String × Relay) :=
  match (r.outbox? i).bind Outbox.next? with
  | none => none
  | some (frame, o) => some (frame, r.setOutbox i o)

def abandon (r : Relay) (i : Nat) : Relay :=
  match r.outbox? i with
  | none => r
  | some o => r.setOutbox i o.abandon

/-- Take the place of the first drawn id that is not in use; nothing if all of them are. -/
def reserve? (r : Relay) (draws : List ClientId) (h : Handle) : Option Reservation :=
  (r.registry.firstFree? draws).map fun id => ⟨r, id, h⟩

/-- Register a client under the first drawn id that is not in use. What `beforeVisible` queues comes
before every frame that is routed to the new id. -/
def registerWith (r : Relay) (draws : List ClientId) (h : Handle)
    (beforeVisible : Relay → ClientId → Handle → Relay) : Option (ClientId × Relay) :=
  (r.reserve? draws h).map fun v => (v.id, (v.prepare beforeVisible).fill)

def register (r : Relay) (draws : List ClientId) (h : Handle) : Option (ClientId × Relay) :=
  r.registerWith draws h fun r _ _ => r

/-- Queue the welcome of a client that is going to be registered. -/
def welcome (r : Relay) (id : ClientId) (h : Handle) : Relay :=
  match r.push h.outbox (Message.welcome id).encode with
  | .ok r => r
  | .error _ => r

/-- Register a client that is welcomed before anybody can send it a frame, and count it. -/
def connect (r : Relay) (draws : List ClientId) (h : Handle) : Option (ClientId × Relay) :=
  (r.registerWith draws h welcome).map fun (id, r) =>
    (id, { r with counters := r.counters.connected r.registry.size })

def unregister (r : Relay) (id : ClientId) : Relay :=
  { r with registry := r.registry.erase id }

/-- A client has gone. Nothing is counted for an id that is not in use. -/
def disconnect (r : Relay) (id : ClientId) : Relay :=
  if r.registry.contains id then
    let r := r.unregister id
    { r with counters := r.counters.disconnected r.registry.size }
  else r

def forward (r : Relay) (s : Signal) : Except RouteError (Delivery × Relay) :=
  match r.registry.find? s.recipient with
  | none => .error (.unknownRecipient s.recipient)
  | some h =>
    match r.push h.outbox (Message.signal s).encode with
    | .ok r => .ok (⟨s.topic, s.sender, s.recipient⟩, r)
    -- a recipient that reads no more is about to be forgotten
    | .error .gone => .error (.unknownRecipient s.recipient)
    | .error .backlogged => .error (.backlogged s.recipient)

/-- Route one frame that came from `sender`. -/
def route (r : Relay) (sender : ClientId) (frame : String) :
    Except RouteError (Delivery × Relay) :=
  if r.frameLimit < frame.utf8ByteSize then
    .error (.tooLarge frame.utf8ByteSize r.frameLimit)
  else
    match Message.receive sender frame with
    | .error e => .error (.malformed e)
    | .ok (.welcome _) => .error (.welcomeFrom sender)
    | .ok (.signal s) => r.forward s

def count (r : Relay) : Except RouteError Delivery → Relay
  | .ok d => { r with counters := r.counters.countRouted d.topic }
  | .error e => { r with counters := r.counters.countDropped e.reason }

/-- Route one frame that came from `sender`, and count it. -/
def dispatch (r : Relay) (sender : ClientId) (frame : String) : Relay × Option Delivery :=
  match r.route sender frame with
  | .ok (d, r) => (r.count (.ok d), some d)
  | .error e => (r.count (.error e), none)

/-! ## The socket of a client -/

/-- A client connects: it gets an outbox and an id. Returns both. -/
def accept (r : Relay) (capacity : Nat) (remote : Option Address.TransportAddress)
    (draws : List ClientId) : Option (ClientId × Nat × Relay) :=
  let (r, outbox) := r.openOutbox capacity
  match r.connect draws { outbox, remote } with
  | none => none
  | some (id, r) => some (id, outbox, r)

/-- A frame comes in from a client. -/
def readFrame (r : Relay) (id : ClientId) : SocketFrame → Relay
  | .close => r.disconnect id
  | frame =>
    match frame.signal? with
    | some s => (r.dispatch id s).1
    | none => r

def drain (r : Relay) (i : Nat) : Relay × List String :=
  match r.outbox? i with
  | none => (r, [])
  | some o => (r.setOutbox i { o with frames := [] }, o.frames)

end Relay

end Switchboard
