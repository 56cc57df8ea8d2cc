import Switchboard.Client.Settings

/-!
# Clients of a relay

A client learns its id from the welcome of the relay and puts it on everything it sends. The welcome
is for the client itself; all other messages are handed on in the order in which they come. Frames
that are no messages are dropped.
-/

namespace Switchboard

inductive Link where
  | up
  /-- The relay has gone, and nothing has been sent since. -/
  | lost
  | down
deriving DecidableEq, Repr

structure RelayClient where
  localId : Option ClientId := none
  /-- Messages that nobody has taken yet, oldest first. -/
  inbox : List Message := []
  link : Link := .up
deriving DecidableEq, Repr

namespace RelayClient

def note (c : RelayClient) (frame : String) : RelayClient :=
  match Message.decode frame with
  | .error _ => c
  | .ok (.welcome id) => { c with localId := some id }
  | .ok (.signal s) => { c with inbox := c.inbox ++ [.signal s] }

/-- A frame comes in from the relay. Nothing is read once the connection has ended. -/
def read (c : RelayClient) (frame : SocketFrame) : RelayClient :=
  if c.link ≠ .up then c
  else match frame with
    | .close => { c with link := .lost }
    | frame => (frame.signal?.map c.note).getD c

def lose (c : RelayClient) : RelayClient := if c.link = .up then { c with link := .lost } else c

def close (c : RelayClient) : RelayClient := { c with link := .down }

def registered (c : RelayClient) : Except ClientError ClientId :=
  match c.localId with
  | some id => .ok id
  | none => .error (if c.link = .up then .notRegistered else .channelClosed)

/-- Send a message as one's own. Returns the frame that goes out; the first frame after the relay
has gone is lost. -/
def send (c : RelayClient) (m : Message) : RelayClient × Except ClientError (Option String) :=
  match c.localId, c.link with
  | none, _ => (c, .error .notRegistered)
  | some id, .up => (c, .ok (some (m.withSender id).encode))
  | some _, .lost => (c.close, .ok none)
  | some _, .down => (c, .error .channelClosed)

def next? (c : RelayClient) : Option (Message × RelayClient) :=
  match c.inbox with
  | [] => none
  | m :: ms => some (m, { c with inbox := ms })

/-- Whether no further message will ever come. -/
def isEnded (c : RelayClient) : Bool := c.inbox.isEmpty && c.link ≠ .up

end RelayClient

end Switchboard
