import Switchboard.Call.Description
import Switchboard.Call.Event
import Switchboard.Wire.Envelope

/-!
# The loopback connection

One side of a call without a media engine. It keeps the rules of offer and answer, makes
descriptions that carry its label, and can be told to fail an operation once. Every operation
returns the connection after it together with its result, because a refusal uses up the failure it
was told of.

A connection is `established` once an exchange has completed. From then on a pending description
can no longer be rolled back.
-/

namespace Switchboard

/-! ## What can go wrong in a call -/

/-- Why an operation is refused before it does anything. -/
inductive Precondition where
  | noLocalMedia
  | noPeerSpecified
  | alreadyNegotiating
  /-- Another peer is adopted and has to be released first. -/
  | peerAlreadySet
deriving DecidableEq, Repr

def Precondition.message : Precondition → String
  | noLocalMedia => "no local media"
  | noPeerSpecified => "no peer specified"
  | alreadyNegotiating => "already negotiating"
  | peerAlreadySet => "a different peer is already set"

inductive ConnectionError where
  | rejected (reason : String)
  | closed
deriving DecidableEq, Repr

def ConnectionError.message : ConnectionError → String
  | rejected reason => "description rejected: " ++ reason
  | closed => "peer connection is closed"

inductive NegotiationError where
  | preconditionFailed (p : Precondition)
  /-- The connection refused its part. The exchange is given up; the session stays usable. -/
  | failure (e : ConnectionError)
  | malformed (e : WireError)
  | closed
deriving DecidableEq, Repr

def NegotiationError.message : NegotiationError → String
  | preconditionFailed p => "precondition failed: " ++ p.message
  | failure e => "negotiation failed: " ++ e.message
  | malformed e => "malformed payload: " ++ e.message
  | closed => "session is closed"

/-! ## The connection -/

/-- The operations that can be told to fail once. -/
inductive ConnectionOp where
  | createOffer
  | createAnswer
  | setLocalDescription
  | setRemoteDescription
  | addCandidate
  | addTrack
  | rollback
deriving DecidableEq, Repr

def ConnectionOp.title : ConnectionOp → String
  | createOffer => "CreateOffer"
  | createAnswer => "CreateAnswer"
  | setLocalDescription => "SetLocalDescription"
  | setRemoteDescription => "SetRemoteDescription"
  | addCandidate => "AddIceCandidate"
  | addTrack => "AddTrack"
  | rollback => "Rollback"

structure Connection where
  /-- Appears in the descriptions that the connection makes. -/
  label : String
  signaling : SignalingState := .stable
  localDescription : Option Description := none
  remoteDescription : Option Description := none
  /-- The candidates of the other side that were applied, oldest first. -/
  candidates : List Candidate := []
  /-- The tracks that are sent, in the order they were added. -/
  tracks : List Track := []
  established : Bool := false
  /-- The operations that fail the next time they are tried. -/
  armed : List ConnectionOp := []
  /-- Offers are never finished. -/
  stallsOffers : Bool := false
  offersCreated : Nat := 0
  answersCreated : Nat := 0
  /-- Reported events that nobody has taken yet, oldest first. -/
  events : List ConnectionEvent := []
deriving DecidableEq, Repr

namespace Connection

/-- What an operation leaves: the connection, and its result. -/
abbrev Attempt (α : Type) := Connection × Except ConnectionError α

def failNext (c : Connection) (op : ConnectionOp) : Connection :=
  { c with armed := if op ∈ c.armed then c.armed else op :: c.armed }

def emit (c : Connection) (e : ConnectionEvent) : Connection :=
  { c with events := c.events ++ [e] }

/-- Go to another signaling state and report it; staying is not reported. -/
def moveTo (c : Connection) (next : SignalingState) : Connection :=
  if c.signaling = next then c else { c with signaling := next }.emit (.signalingChanged next)

/-- Do `act` unless the connection is closed or was told to fail `op`. -/
def attempt {α : Type} (c : Connection) (op : ConnectionOp) (act : Attempt α) : Attempt α :=
  if c.signaling = .closed then (c, .error .closed)
  else if op ∈ c.armed then
    ({ c with armed := c.armed.filter (· ≠ op) },
      .error (.rejected ("injected " ++ op.title ++ " failure")))
  else act

def wrongState (c : Connection) (action : String) (kind : DescriptionKind) : ConnectionError :=
  .rejected ("cannot " ++ action ++ " " ++ kind.title ++ " in state " ++ c.signaling.title)

def createOffer (c : Connection) : Connection × Option (Except ConnectionError Description) :=
  match c.attempt .createOffer (c, .ok ()) with
  | (c, .error e) => (c, some (.error e))
  | (c, .ok ()) =>
    -- a refusal comes before the stall
    if c.stallsOffers then (c, none)
    else
      let count := c.offersCreated + 1
      ({ c with offersCreated := count },
        some (.ok ⟨.offer, "v=0 " ++ c.label ++ "-offer-" ++ toString count⟩))

def createAnswer (c : Connection) : Attempt Description :=
  c.attempt .createAnswer <|
    if c.signaling = .haveRemoteOffer then
      let count := c.answersCreated + 1
      ({ c with answersCreated := count },
        .ok ⟨.answer, "v=0 " ++ c.label ++ "-answer-" ++ toString count⟩)
    else (c, .error (.rejected ("cannot create answer in state " ++ c.signaling.title)))

def setLocalDescription (c : Connection) (d : Description) : Attempt Unit :=
  c.attempt .setLocalDescription <|
    match d.kind, c.signaling with
    | .offer, .stable | .offer, .haveLocalOffer =>
      ({ c with localDescription := some d }.moveTo .haveLocalOffer, .ok ())
    | .answer, .haveRemoteOffer =>
      ({ c with localDescription := some d, established := true }.moveTo .stable, .ok ())
    | _, _ => (c, .error (c.wrongState "apply local" d.kind))

def setRemoteDescription (c : Connection) (d : Description) : Attempt Unit :=
  c.attempt .setRemoteDescription <|
    match d.kind, c.signaling with
    | .offer, .stable =>
      ({ c with remoteDescription := some d }.moveTo .haveRemoteOffer, .ok ())
    | .answer, .haveLocalOffer =>
      ({ c with remoteDescription := some d, established := true }.moveTo .stable, .ok ())
    | _, _ => (c, .error (c.wrongState "apply remote" d.kind))

/-- Take candidates as if a description of the other side had been applied. -/
def assumeRemoteDescription (c : Connection) : Connection :=
  match c.remoteDescription with
  | some _ => c
  | none => { c with remoteDescription := some ⟨.offer, "v=0 assumed"⟩ }

def addCandidate (c : Connection) (candidate : Candidate) : Attempt Unit :=
  c.attempt .addCandidate <|
    match c.remoteDescription with
    | none => (c, .error (.rejected "remote description not set"))
    | some _ => ({ c with candidates := c.candidates ++ [candidate] }, .ok ())

def addTrack (c : Connection) (t : Track) : Attempt Unit :=
  c.attempt .addTrack ({ c with tracks := c.tracks ++ [t] }, .ok ())

def addTracks (c : Connection) : List Track → Attempt Unit
  | [] => (c, .ok ())
  | t :: ts =>
    match c.addTrack t with
    | (c, .error e) => (c, .error e)
    | (c, .ok ()) => c.addTracks ts

/-- Send the tracks of a media set unless tracks are sent already; returns how many were added. -/
def attach (c : Connection) (media : MediaSet) : Attempt Nat :=
  if c.tracks.isEmpty then
    match c.addTracks media.tracks with
    | (c, .error e) => (c, .error e)
    | (c, .ok ()) => (c, .ok media.size)
  else (c, .ok 0)

/-- Discard a pending description of a first exchange. Nothing is reported: what is left is as
good as new. -/
def rollback (c : Connection) : Attempt Unit :=
  c.attempt .rollback <|
    if c.signaling.isStable then (c, .error (.rejected "nothing to roll back"))
    else if c.established then (c, .error (.rejected "cannot roll back a renegotiation"))
    else
      ({ c with signaling := .stable, localDescription := none, remoteDescription := none,
                candidates := [], tracks := [] }, .ok ())

/-- Closing is never refused. -/
def close (c : Connection) : Attempt Unit := (c.moveTo .closed, .ok ())

def isClosed (c : Connection) : Bool := c.signaling = .closed

def trackKinds (c : Connection) : List TrackKind := c.tracks.filterMap Track.kind?

end Connection

end Switchboard
