import Switchboard.Call.Candidate
import Switchboard.Call.Media

/-!
# Connection states and events

What a connection says about itself, and what it reports of its own accord.
-/

namespace Switchboard

/-- Where the exchange of descriptions stands on a connection. -/
inductive SignalingState where
  | stable
  | haveLocalOffer
  | haveRemoteOffer
  | haveLocalPranswer
  | haveRemotePranswer
  | closed
deriving DecidableEq, Repr

namespace SignalingState

def title : SignalingState → String
  | stable => "Stable"
  | haveLocalOffer => "HaveLocalOffer"
  | haveRemoteOffer => "HaveRemoteOffer"
  | haveLocalPranswer => "HaveLocalPranswer"
  | haveRemotePranswer => "HaveRemotePranswer"
  | closed => "Closed"

def isStable : SignalingState → Bool
  | stable => true
  | _ => false

end SignalingState

/-- How the search for a path between the two sides is going. -/
inductive IceState where
  | new
  | checking
  | connected
  | completed
  | disconnected
  | failed
  | closed
deriving DecidableEq, Repr

namespace IceState

def name : IceState → String
  | new => "new"
  | checking => "checking"
  | connected => "connected"
  | completed => "completed"
  | disconnected => "disconnected"
  | failed => "failed"
  | closed => "closed"

def isConnecting : IceState → Bool
  | new | checking => true
  | _ => false

def isConnected : IceState → Bool
  | connected | completed => true
  | _ => false

/-- For display this is the end; nothing tries again by itself. -/
def isDisconnected : IceState → Bool
  | disconnected | failed | closed => true
  | _ => false

end IceState

inductive ConnectionEvent where
  | localCandidate (c : Candidate)
  | signalingChanged (s : SignalingState)
  | iceChanged (s : IceState)
  | remoteTrack (t : RemoteTrack)
deriving DecidableEq, Repr

end Switchboard
