import Switchboard.Wire.Message

/-!
# Reading frames

A frame is read into an `Envelope` first, which has room for the members of every kind of message,
and then into the message of its kind. `Message.decode` wants a complete frame; `Message.receive`
is for a frame whose sender is known from its connection, so that what the frame says about it does
not matter.
-/

namespace Switchboard

inductive WireError where
  | json (fault : Json.Fault)
  | unknownKind (name : String)
  | missingField (kind : MessageKind) (name : String)
deriving DecidableEq, Repr

def WireError.message : WireError → String
  | json fault => "invalid json: " ++ fault.message
  | unknownKind name => "unknown message type " ++ Json.named name
  | missingField kind name =>
    Json.named kind.name ++ " message is missing " ++ Json.named name

structure Envelope where
  kind : String
  id : Option ClientId
  sender : Option ClientId
  recipient : Option ClientId
  sdp : Option Payload
  candidate : Option Payload
deriving DecidableEq, Repr

namespace Envelope

/-- The members read so far. A member that was `null` is read, but empty. -/
structure Slots where
  kind : Option String := none
  id : Option (Option ClientId) := none
  sender : Option (Option ClientId) := none
  recipient : Option (Option ClientId) := none
  sdp : Option (Option Payload) := none
  candidate : Option (Option Payload) := none
deriving DecidableEq, Repr

def readId : Json.Reader (Option ClientId) := Json.optional (Json.text.map ClientId.mk)

/-- A payload; `null` counts as none. -/
def readPayload : Json.Reader (Option Payload) := Json.optional Payload.read

def Slots.member (name : String) (s : Slots) :
    Option (Except Json.Cause (Json.Reader Slots)) :=
  if name = "type" then Json.once name s.kind Json.text fun v => { s with kind := some v }
  else if name = "id" then Json.once name s.id readId fun v => { s with id := some v }
  else if name = "from" then Json.once name s.sender readId fun v => { s with sender := some v }
  else if name = "to" then
    Json.once name s.recipient readId fun v => { s with recipient := some v }
  else if name = "sdp" then Json.once name s.sdp readPayload fun v => { s with sdp := some v }
  else if name = "candidate" then
    Json.once name s.candidate readPayload fun v => { s with candidate := some v }
  else none

def Slots.finish (s : Slots) : Except Json.Cause Envelope :=
  match Json.require "type" s.kind with
  | .error cause => .error cause
  | .ok kind =>
    .ok { kind, id := s.id.join, sender := s.sender.join, recipient := s.recipient.join,
          sdp := s.sdp.join, candidate := s.candidate.join }

/-- A frame is an object, or the list of all its members in this order. -/
def record : Json.Record Slots Envelope where
  title := "Envelope"
  empty := {}
  member := Slots.member
  elements := [
    fun s => Json.text.map fun v => { s with kind := some v },
    fun s => readId.map fun v => { s with id := some v },
    fun s => readId.map fun v => { s with sender := some v },
    fun s => readId.map fun v => { s with recipient := some v },
    fun s => readPayload.map fun v => { s with sdp := some v },
    fun s => readPayload.map fun v => { s with candidate := some v }]
  required := 1
  finish := Slots.finish

def read : Json.Reader Envelope := record.read

def payload (e : Envelope) : Topic → Option Payload
  | .offer | .answer => e.sdp
  | .candidate => e.candidate

/-- The message in an envelope; `sender` goes before the sender that the envelope names. Members
that are missing are reported in the order: sender, recipient, payload. -/
def toMessage (e : Envelope) (sender : Option ClientId) : Except WireError Message :=
  match MessageKind.ofName? e.kind with
  | none => .error (.unknownKind e.kind)
  | some .welcome =>
    match e.id with
    | none => .error (.missingField .welcome "id")
    | some id => .ok (.welcome id)
  | some (.signal topic) =>
    match sender.or e.sender, e.recipient, e.payload topic with
    | none, _, _ => .error (.missingField (.signal topic) "from")
    | some _, none, _ => .error (.missingField (.signal topic) "to")
    | some _, some _, none => .error (.missingField (.signal topic) topic.payloadField)
    | some sender, some recipient, some payload =>
      .ok (.signal { topic, sender, recipient, payload })

end Envelope

namespace Message

def readEnvelope (s : String) : Except WireError Envelope :=
  match Json.readWhole? Envelope.read s with
  | .ok e => .ok e
  | .error fault => .error (.json fault)

def decode (s : String) : Except WireError Message :=
  match readEnvelope s with
  | .ok e => e.toMessage none
  | .error err => .error err

/-- The message of a frame that came from `sender`, whatever the frame says about that. -/
def receive (sender : ClientId) (s : String) : Except WireError Message :=
  match readEnvelope s with
  | .ok e => e.toMessage (some sender)
  | .error err => .error err

/-- The meaning of an envelope as a value among other JSON values: a reason in words if it has
none. -/
def meaning (e : Envelope) : Except String Message :=
  match e.toMessage none with
  | .ok m => .ok m
  | .error err => .error err.message

/-- Read a whole text as one message value. A message is looked for as soon as the envelope is
read, before anything that follows it, and its absence has no place in the text. -/
def ofJson (s : String) : Except Json.Fault Message :=
  let cs := s.toList
  match Envelope.read cs with
  | .error f => .error (f.fault cs)
  | .ok (e, rest) =>
    match meaning e with
    -- the text may go on in any way: its rest is not looked at
    | .error reason => .error ⟨.refused reason, none⟩
    | .ok m =>
      match Json.atEnd rest with
      | .error f => .error (f.fault cs)
      | .ok () => .ok m

def listOfJson (s : String) : Except Json.Fault (List Message) :=
  Json.readWhole? (Json.listOf Envelope.read meaning) s

end Message

/-! ## Frames of a web socket -/

inductive SocketFrame where
  | text (s : String)
  | binary (bytes : ByteArray)
  | ping
  | pong
  | close

/-- The signaling frame that a socket frame carries. It may come as bytes. -/
def SocketFrame.signal? : SocketFrame → Option String
  | text s => some s
  | binary bytes => String.fromUTF8? bytes
  | ping | pong | close => none

end Switchboard
