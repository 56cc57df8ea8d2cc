import Switchboard.Call.Session

/-!
# Negotiating one call

A negotiation drives the exchange of offers and answers for one connection. This file holds its
operations, one at a time and with the session free; `Switchboard.Call.Endpoint` says what happens
when one has to wait.

When two offers cross, the side with the lower id withdraws its own and answers the other. A side
whose exchange fails gives it up: it rolls its connection back, which undoes a first exchange, and
takes its own state from the state that the connection is left in.
-/

namespace Switchboard

structure Negotiation where
  localId : ClientId
  connection : Connection
  session : Session := {}
  /-- The capture tracks, for as long as their owner keeps them. -/
  media : Option MediaSet := none
deriving DecidableEq, Repr

/-- What the handling of a message from the relay amounted to. -/
inductive RemoteOutcome where
  /-- An answer to deliver to the offering peer. -/
  | reply (answer : Message)
  | answerApplied
  | candidateApplied
  | candidateBuffered
  /-- An answer while no offer of ours is outstanding. -/
  | staleAnswer
  /-- An offer that crossed ours, while ours stands. -/
  | glare
  | ignored
deriving DecidableEq, Repr

inductive NegotiationEvent where
  | signal (m : Message)
  | iceChanged (s : IceState)
  | remoteTrack (peer : Option ClientId) (t : RemoteTrack)
deriving DecidableEq, Repr

/-- How far an operation came. -/
inductive Progress (α : Type) where
  | finished (result : Except NegotiationError α)
  /-- It waits for its connection, which never comes back to it. -/
  | stalled

namespace Negotiation

abbrev Attempt (α : Type) := Negotiation × Except NegotiationError α

def start (localId : ClientId) (connection : Connection) : Negotiation :=
  { localId, connection }

def setMedia (n : Negotiation) (m : Option MediaSet) : Negotiation := { n with media := m }

def liveMedia? (n : Negotiation) : Option MediaSet := n.media.filter (!·.isEmpty)

def onSession (n : Negotiation) (f : Session → Session) : Negotiation :=
  { n with session := f n.session }

def onConnection {α : Type} (n : Negotiation) (op : Connection → Connection.Attempt α) :
    Attempt α :=
  ({ n with connection := (op n.connection).1 }, (op n.connection).2.mapError .failure)

/-- Take from the connection whether tracks are sent. -/
def noteTracks (n : Negotiation) : Negotiation :=
  n.onSession fun s => { s with localStreamAttached := !n.connection.tracks.isEmpty }

def attachTracks (n : Negotiation) (media : MediaSet) : Attempt Unit :=
  match n.onConnection (·.attach media) with
  | (n, .error e) => (n, .error e)
  | (n, .ok _) => (n.noteTracks, .ok ())

def flushCandidates (n : Negotiation) : Negotiation :=
  let (buffer, connection, _) := n.session.pending.flush n.connection
  { n with connection, session := { n.session with pending := buffer } }

/-- Whether an exchange is under way that the connection has finished. -/
def isSettled (n : Negotiation) : Bool :=
  n.session.negotiating && n.connection.signaling.isStable

/-- No exchange is under way any more once the connection has finished it. -/
def settle (n : Negotiation) : Negotiation :=
  if n.isSettled then n.onSession fun s => { s with negotiating := false } else n

def complete (n : Negotiation) : Negotiation := (n.onSession Session.markStable).settle

/-- The state of a session over a connection that was left in the given state. -/
def stateAfter (s : Session) : SignalingState → NegotiationState
  | .haveLocalOffer | .haveRemotePranswer => .haveLocalOffer
  | .haveRemoteOffer | .haveLocalPranswer => .haveRemoteOffer
  | .stable | .closed => s.restingState

/-- Roll back whatever is pending on the connection, if it can be. -/
def undo (n : Negotiation) : Negotiation :=
  if n.connection.signaling.isStable then n
  else { n with connection := n.connection.rollback.1 }.noteTracks

/-- Put the session at rest after a failed exchange. -/
def abandon (n : Negotiation) : Negotiation :=
  let n := (n.onSession fun s => { s with negotiating := false }).undo
  n.onSession fun s => { s with state := stateAfter s n.connection.signaling }

def orAbandon {α : Type} : Attempt α → Attempt α
  | (n, .ok a) => (n, .ok a)
  | (n, .error e) => (n.abandon, .error e)

/-- Whether a crossing offer of `sender` goes before ours: it comes from our peer, and our id is
the lower one. -/
def yieldsTo (n : Negotiation) (sender : ClientId) : Bool :=
  (match n.session.peer with
    | none => true
    | some peer => peer == sender) && n.localId < sender

/-- Why a call to `peer` is refused before it does anything. -/
def callRefusal? (n : Negotiation) (peer : ClientId) : Option Precondition :=
  if n.liveMedia?.isNone then some .noLocalMedia
  else if peer.isEmpty then some .noPeerSpecified
  else if n.session.negotiating then some .alreadyNegotiating
  else if n.session.peer.any (· ≠ peer) then some .peerAlreadySet
  else none

/-- Apply an offer of ours and address it to `peer`. -/
def sendOffer (n : Negotiation) (peer : ClientId) (offer : Description) : Attempt Message :=
  match n.onConnection (·.setLocalDescription offer) with
  | (n, .error e) => (n, .error e)
  | (n, .ok ()) =>
    (n.onSession fun s =>
        { s with peer := some peer, state := .haveLocalOffer, negotiating := true },
      .ok (.signal ⟨.offer, n.localId, peer, offer.payload⟩))

def startCall (n : Negotiation) (peer : ClientId) : Negotiation × Progress Message :=
  let finish := fun (r : Attempt Message) => (r.1, Progress.finished r.2)
  if n.session.isClosed then (n, .finished (.error .closed))
  else match n.callRefusal? peer with
    | some p => (n, .finished (.error (.preconditionFailed p)))
    | none =>
      -- from here on a failure leaves traces on the connection
      match n.attachTracks (n.liveMedia?.getD ⟨[]⟩) with
      | (n, .error e) => finish (n.abandon, .error e)
      | (n, .ok ()) =>
        match n.connection.createOffer with
        | (c, none) => ({ n with connection := c }, .stalled)
        | (c, some (.error e)) => finish ({ n with connection := c }.abandon, .error (.failure e))
        | (c, some (.ok offer)) => finish (orAbandon ({ n with connection := c }.sendOffer peer offer))

/-- A call that waited for its offer is given up because the session closes. -/
def dropCall (n : Negotiation) : Negotiation :=
  n.onSession fun s => { s with negotiating := false }

def attachLiveMedia (n : Negotiation) : Attempt Unit :=
  match n.liveMedia? with
  | none => (n, .ok ())
  | some media => n.attachTracks media

def answerOffer (n : Negotiation) (sender : ClientId) (offer : Description) : Attempt Message :=
  match n.attachLiveMedia with
  | (n, .error e) => (n, .error e)
  | (n, .ok ()) =>
    match n.onConnection (·.setRemoteDescription offer) with
    | (n, .error e) => (n, .error e)
    | (n, .ok ()) =>
      let n := (n.onSession fun s => { s with state := .haveRemoteOffer }).flushCandidates
      match n.onConnection Connection.createAnswer with
      | (n, .error e) => (n, .error e)
      | (n, .ok answer) =>
        match n.onConnection (·.setLocalDescription answer) with
        | (n, .error e) => (n, .error e)
        | (n, .ok ()) =>
          (n.complete, .ok (.signal ⟨.answer, n.localId, sender, answer.payload⟩))

/-- Take up an offer that nothing stands against. -/
def takeOffer (n : Negotiation) (sender : ClientId) (offer : Description) :
    Attempt RemoteOutcome :=
  let n := n.onSession fun s => { s.adoptPeer sender with negotiating := true }
  match orAbandon (n.answerOffer sender offer) with
  | (n, .ok answer) => (n, .ok (.reply answer))
  | (n, .error e) => (n, .error e)

/-- Withdraw our own offer; `false` when the connection keeps it. -/
def withdraw (n : Negotiation) : Negotiation × Bool :=
  match n.connection.rollback with
  | (c, .error _) => ({ n with connection := c }, false)
  | (c, .ok ()) =>
    (({ n with connection := c }.onSession fun s =>
        { s with state := s.restingState, negotiating := false }).noteTracks, true)

def receiveOffer (n : Negotiation) (sender : ClientId) (offer : Description) :
    Attempt RemoteOutcome :=
  if n.session.state = .haveLocalOffer then
    -- the offers have crossed
    if n.yieldsTo sender then
      match n.withdraw with
      | (n, false) => (n, .ok .glare)
      | (n, true) => n.takeOffer sender offer
    else (n, .ok .glare)
  else n.takeOffer sender offer

def applyAnswer (n : Negotiation) (answer : Description) : Attempt RemoteOutcome :=
  match orAbandon (n.onConnection (·.setRemoteDescription answer)) with
  | (n, .error e) => (n, .error e)
  | (n, .ok ()) => (n.flushCandidates.complete, .ok .answerApplied)

/-- Apply a candidate of the other side, or keep it until a description of that side is known. -/
def receiveCandidate (n : Negotiation) (candidate : Candidate) : Attempt RemoteOutcome :=
  match n.connection.remoteDescription with
  | none =>
    (n.onSession fun s => { s with pending := s.pending.enqueue candidate },
      .ok .candidateBuffered)
  | some _ =>
    match n.onConnection (·.addCandidate candidate) with
    | (n, .error e) => (n, .error e)
    | (n, .ok ()) => (n, .ok .candidateApplied)

def receiveSignal (n : Negotiation) (s : Signal) : Attempt RemoteOutcome :=
  let malformed := fun fault => (n, .error (.malformed (.json fault)))
  match s.topic with
  | .offer =>
    match s.payload.decode Description.read with
    | .error fault => malformed fault
    | .ok offer => n.receiveOffer s.sender offer
  | .answer =>
    -- the payload of a stale answer is not even looked at
    if n.session.state ≠ .haveLocalOffer then (n, .ok .staleAnswer)
    else match s.payload.decode Description.read with
      | .error fault => malformed fault
      | .ok answer => n.applyAnswer answer
  | .candidate =>
    match s.payload.decode Candidate.read with
    | .error fault => malformed fault
    | .ok candidate => n.receiveCandidate candidate

def receive (n : Negotiation) (m : Message) : Attempt RemoteOutcome :=
  if n.session.isClosed then (n, .error .closed)
  else match m with
    | .welcome _ => (n, .ok .ignored)
    | .signal s => n.receiveSignal s

/-- The connection has reported an event. A signaling state may be out of date when it is
reported, so the present one decides. -/
def handle (n : Negotiation) (e : ConnectionEvent) : Attempt (Option NegotiationEvent) :=
  if n.session.isClosed then (n, .error .closed)
  else match e with
    | .localCandidate c =>
      -- without a peer there is nobody to tell
      (n, .ok (n.session.peer.map fun peer =>
        .signal (.signal ⟨.candidate, n.localId, peer, c.payload⟩)))
    | .signalingChanged s => (if s.isStable then n.settle else n, .ok none)
    | .iceChanged s =>
      (n.onSession fun session => { session with iceState := s }, .ok (some (.iceChanged s)))
    | .remoteTrack t => (n, .ok (some (.remoteTrack n.session.peer t)))

def resetPeer (n : Negotiation) : Attempt (Option ClientId) :=
  if n.session.isClosed then (n, .error .closed)
  else if n.session.negotiating then (n, .error (.preconditionFailed .alreadyNegotiating))
  else (n.onSession fun s => { s with peer := none }, .ok n.session.peer)

/-- Close the connection and let go of everything. Once that is done, there is nothing to close. -/
def close (n : Negotiation) : Attempt Unit :=
  if n.session.isClosed then (n, .ok ())
  else
    let (n, result) := n.onConnection Connection.close
    ({ n with
        media := none
        session := { n.session with
          pending := .empty, negotiating := false, localStreamAttached := false,
          state := .closed } },
      result)

theorem close_of_closed {n : Negotiation} (h : n.session.isClosed = true) :
    n.close = (n, .ok ()) := by
  rw [close, if_pos h]

theorem isClosed_close (n : Negotiation) : n.close.1.session.isClosed = true := by
  unfold close
  split
  · next h => exact h
  · rfl

/-- No connection refuses to be closed. -/
@[simp] theorem close_result (n : Negotiation) : n.close.2 = .ok () := by
  unfold close
  split <;> rfl

/-- Closing once more changes nothing. -/
@[simp] theorem close_close (n : Negotiation) : n.close.1.close = (n.close.1, .ok ()) :=
  close_of_closed n.isClosed_close

end Negotiation

end Switchboard
