import Switchboard.Json.Reader
import Switchboard.Json.Text
import Switchboard.Text.Blank

/-!
# Messages

A frame of the signaling protocol is a welcome, which only the relay sends and which tells a client
its id, or a signal from one client to another: an offer, an answer or a candidate, each with a
payload. `Message.encode` is the one way to write a frame.

A payload is one JSON value that the relay never looks into. It keeps the text it came with, less
the space around it, so that forwarding it changes no byte.

A client id is the name under which the relay knows one live connection. Ids are compared by their
bytes; since UTF-8 keeps the order of code points, that is the order of texts.

The ids that a relay hands out are random. They are written like other universally unique
identifiers: five groups of hexadecimal digits, with a fixed version digit and two fixed bits.
-/

namespace Switchboard

/-! ## Client ids -/

def hexDigits (n : Nat) : Nat → List Char
  | 0 => []
  | count + 1 => hexDigits (n / 16) count ++ [Nat.digitChar (n % 16)]

structure ClientId where
  text : String
deriving DecidableEq, Repr, Hashable

namespace ClientId

/-- An id without a visible character names nobody. -/
def isEmpty (id : ClientId) : Bool := Text.isAllBlank id.text

instance : LT ClientId := ⟨fun a b => a.text < b.text⟩

instance (a b : ClientId) : Decidable (a < b) := inferInstanceAs (Decidable (a.text < b.text))

instance : Ord ClientId := ⟨fun a b => if a < b then .lt else if b < a then .gt else .eq⟩

def write (id : ClientId) : List Char := Json.writeText id.text

theorem lt_asymm {a b : ClientId} (h : a < b) : ¬b < a := String.lt_asymm h

/-- Of two ids one is the lower. -/
theorem lt_of_not_lt {a b : ClientId} (hne : a ≠ b) (h : ¬a < b) : b < a :=
  Std.lt_of_le_of_ne (a := b.text) h fun ht => hne (congrArg mk ht.symm)

/-- The id made of random bits, of which 122 count. -/
def ofBits (n : Nat) : ClientId :=
  let group (place count : Nat) := hexDigits (n / Nat.pow 16 place) count
  let variant := Nat.digitChar (8 + n / Nat.pow 16 30 % 4)
  ⟨String.ofList <|
    group 0 8 ++ '-' :: group 8 4 ++ '-' :: '4' :: group 12 3 ++ '-' :: variant :: group 15 3 ++
      '-' :: group 18 12⟩

end ClientId

/-! ## Payloads and messages -/

/-- A JSON value as the text it was written with. -/
structure Payload where
  text : String
deriving DecidableEq, Repr

namespace Payload

/-- The payload that `s` holds, if `s` is one JSON value with nothing but space around it. -/
def ofJson (s : String) : Except Json.Fault Payload :=
  (Json.readWhole? Json.raw s).map Payload.mk

/-- The payload with the given characters, which must be those of a JSON value. -/
def ofWritten (cs : List Char) : Payload := ⟨String.ofList cs⟩

def decode {α : Type} (p : Payload) (read : Json.Reader α) : Except Json.Fault α :=
  Json.readWhole? read p.text

def read : Json.Reader Payload := Json.raw.map Payload.mk

end Payload

inductive Topic where
  | offer
  | answer
  | candidate
deriving DecidableEq, Repr

inductive MessageKind where
  | welcome
  | signal (topic : Topic)
deriving DecidableEq, Repr

def Topic.name : Topic → String
  | offer => "offer"
  | answer => "answer"
  | candidate => "candidate"

def Topic.payloadField : Topic → String
  | offer | answer => "sdp"
  | candidate => "candidate"

namespace MessageKind

def name : MessageKind → String
  | welcome => "welcome"
  | signal topic => topic.name

def known : List (String × MessageKind) :=
  [("welcome", .welcome), ("offer", .signal .offer), ("answer", .signal .answer),
    ("candidate", .signal .candidate)]

def ofName? (s : String) : Option MessageKind := known.lookup s

/-- A kind that stands alone as a JSON value. -/
def read : Json.Reader MessageKind := Json.variant known

theorem ofName?_name (k : MessageKind) : ofName? k.name = some k := by
  cases k with
  | welcome => rfl
  | signal topic => cases topic <;> rfl

end MessageKind

structure Signal where
  topic : Topic
  sender : ClientId
  recipient : ClientId
  payload : Payload
deriving DecidableEq, Repr

inductive Message where
  /-- The relay tells a fresh client its id. -/
  | welcome (id : ClientId)
  | signal (s : Signal)
deriving DecidableEq, Repr

namespace Message

def kind : Message → MessageKind
  | welcome _ => .welcome
  | signal s => .signal s.topic

def sender? : Message → Option ClientId
  | welcome _ => none
  | signal s => some s.sender

def recipient? : Message → Option ClientId
  | welcome _ => none
  | signal s => some s.recipient

def payload? : Message → Option Payload
  | welcome _ => none
  | signal s => some s.payload

def welcomed? : Message → Option ClientId
  | welcome id => some id
  | signal _ => none

/-- The message as `id` would have sent it. A welcome has no sender. -/
def withSender (id : ClientId) : Message → Message
  | welcome id' => welcome id'
  | signal s => signal { s with sender := id }

def members : Message → List (String × List Char)
  | welcome id => [("type", Json.writeText MessageKind.welcome.name), ("id", id.write)]
  | signal s =>
    [("from", s.sender.write), ("to", s.recipient.write), ("type", Json.writeText s.topic.name),
      (s.topic.payloadField, s.payload.text.toList)]

def encode (m : Message) : String := String.ofList (Json.writeObject m.members)

end Message

end Switchboard
