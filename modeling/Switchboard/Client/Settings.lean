import Switchboard.Address.Url
import Switchboard.Environment
import Switchboard.Wire.Envelope

/-!
# The settings of a client

Where the relay is, and which servers help to find a path between two clients. The address of the
relay may be that of a web page; its socket is then looked for in the same place.
-/

namespace Switchboard

inductive ClientError where
  | invalidUrl (url reason : String)
  | connect (reason : String)
  /-- The relay has not said yet under which id it knows the client. -/
  | notRegistered
  | channelClosed
  | proto (e : WireError)
deriving DecidableEq, Repr

def ClientError.message : ClientError → String
  | invalidUrl url reason => "invalid signaling url " ++ url ++ ": " ++ reason
  | connect reason => "websocket connect failed: " ++ reason
  | notRegistered => "no welcome received from the relay"
  | channelClosed => "signaling channel closed"
  | proto e => e.message

def Address.Scheme.socket? : Address.Scheme → Option Address.Scheme
  | .http | .ws => some .ws
  | .https | .wss => some .wss
  | .ftp => none

def socketAddress (s : String) : Except ClientError Address.Url :=
  let invalid := fun reason => .error (.invalidUrl s reason)
  let unsupported := fun scheme => invalid ("unsupported scheme " ++ Json.named scheme)
  match Address.Url.read (String.ofList (Text.trim s.toList)) with
  | .error e => invalid e.message
  | .ok (.other scheme) => unsupported scheme
  | .ok (.web u) =>
    match u.scheme.socket? with
    | none => unsupported u.scheme.name
    | some scheme => .ok { u with scheme }

structure ClientSettings where
  iceServers : List String :=
    ["stun:stun.l.google.com:19302", "stun:stun1.l.google.com:19302"]
  signalingUrl : String := "ws://localhost:8080/ws"
deriving DecidableEq, Repr

namespace ClientSettings

/-- The settings for an environment and an address given by hand. The environment goes first. -/
def ofEnvironment (env : Environment) (url : Option String) : ClientSettings :=
  let default : ClientSettings := {}
  { default with
    signalingUrl :=
      ((env.visibleText? "SIGNALING_SERVER_URL").or url).getD default.signalingUrl }

def socketAddress (s : ClientSettings) : Except ClientError Address.Url :=
  Switchboard.socketAddress s.signalingUrl

end ClientSettings

end Switchboard
