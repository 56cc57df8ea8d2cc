import Switchboard.Address.Target
import Switchboard.Client.RelayClient

/-!
# Dialing a relay

A dialed relay says first under which id it knows us. Then one message may be sent, and whatever
comes in is printed until the time is over or the relay goes away.
-/

namespace Switchboard

/-- The message that is sent by dialing. Its payload has to be JSON. -/
def dialMessage (sender recipient : ClientId) (topic : Topic) (payload : String) :
    Except Json.Fault Message :=
  (Payload.ofJson payload).map fun payload => .signal { topic, sender, recipient, payload }

structure DialSend where
  recipient : ClientId
  topic : Topic
  payload : String
deriving DecidableEq, Repr

inductive Unreachable where
  | badTarget (e : Address.TargetError)
  | noHost
  | badScheme
  | refused
deriving DecidableEq, Repr

namespace Unreachable

def message : Unreachable → String
  | badTarget e => "HTTP format error: " ++ e.message
  | noHost => "URL error: No host name in the URL"
  | badScheme => "URL error: URL scheme not supported"
  | refused => "IO error: Connection refused (os error 111)"

def ofAddress (url : String) : Unreachable :=
  match Address.Target.read url with
  | .error e => .badTarget e
  | .ok t =>
    if t.authority.isNone then .noHost
    else if t.hasPort then .refused
    else .badScheme

end Unreachable

inductive DialError where
  | unreachable (url : String) (reason : Unreachable)
  | noWelcome
  | badWelcome (e : WireError)
  | otherThanWelcome (kind : MessageKind)
  | closedEarly
  | badPayload
  /-- The connection has broken off before the welcome, or after it. -/
  | brokenOff (welcomed : Bool)
deriving DecidableEq, Repr

def DialError.message : DialError → String
  | unreachable url reason => "connection to " ++ url ++ " failed: " ++ reason.message
  | noWelcome => "no welcome within 5s"
  | badWelcome e => e.message
  | otherThanWelcome kind => "expected welcome, got " ++ kind.name
  | closedEarly => "relay closed the connection before welcome"
  | badPayload => "payload is not valid JSON"
  | brokenOff welcomed =>
    (if welcomed then "websocket error: " else "") ++
      "WebSocket protocol error: Connection reset without closing handshake"

inductive RelayAct where
  | send (frame : SocketFrame)
  | expect
  | drop

/-- What is left of a call to a relay. -/
structure Transcript where
  printed : List String := []
  /-- The frames that the relay has waited for and got. -/
  got : List String := []
  result : Except DialError Unit := .ok ()

namespace Transcript

/-- A line that was printed before all others. -/
def after (line : String) (t : Transcript) : Transcript := { t with printed := line :: t.printed }

/-- Listen until the relay goes away or does nothing more. `sent` is the frame that the relay has
not waited for yet. -/
def listen (sent : Option String) : List RelayAct → Transcript
  | [] => {}
  | .send (.text s) :: acts => (listen sent acts).after ("received: " ++ s)
  | .send .close :: _ => { printed := ["relay closed the connection"] }
  | .send _ :: acts => listen sent acts
  | .drop :: _ => { result := .error (.brokenOff true) }
  | .expect :: acts =>
    match sent with
    | none => {}
    | some frame =>
      let t := listen none acts
      { t with got := frame :: t.got }

/-- Do not listen at all; the relay may still get what was sent. -/
def hangUp (sent : Option String) : List RelayAct → Transcript
  | .expect :: _ => { got := sent.toList }
  | _ => {}

def welcomed (id : ClientId) (message : Option DialSend) (listens : Bool)
    (acts : List RelayAct) : Transcript :=
  let go := fun sent => if listens then listen sent acts else hangUp sent acts
  let t :=
    match message with
    | none => go none
    | some m =>
      match dialMessage id m.recipient m.topic m.payload with
      | .error _ => { result := .error .badPayload }
      | .ok m => (go (some m.encode)).after ("sent: " ++ m.encode)
  t.after ("assigned id: " ++ id.text)

def dial (message : Option DialSend) (listens : Bool) : List RelayAct → Transcript
  | [] | .expect :: _ => { result := .error .noWelcome }
  | .send (.text s) :: acts =>
    match Message.decode s with
    | .error e => { result := .error (.badWelcome e) }
    | .ok (.welcome id) => welcomed id message listens acts
    | .ok (.signal s) => { result := .error (.otherThanWelcome (.signal s.topic)) }
  | .send .close :: _ => { result := .error .closedEarly }
  | .send _ :: acts => dial message listens acts
  | .drop :: _ => { result := .error (.brokenOff false) }

end Transcript

end Switchboard
