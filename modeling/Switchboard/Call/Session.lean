import Switchboard.Call.Connection
import Switchboard.Wire.Message

/-!
# The session of one call

What a negotiation remembers about its peer and its exchange. A session adopts the first peer that
it hears of or calls, and knows whether an exchange has ever completed.

Candidates that arrive before the connection knows a description of the other side wait in a
buffer. `flush` empties it: each candidate is offered to the connection once, oldest first, also
if the connection refuses some of them. It asks nothing else of what it is flushed into, which need
not be a `Connection`.
-/

namespace Switchboard

/-! ## Early candidates -/

class TakesCandidates (σ : Type) where
  addCandidate : σ → Candidate → σ × Except ConnectionError Unit

instance : TakesCandidates Connection := ⟨Connection.addCandidate⟩

structure CandidateBuffer where
  pending : List Candidate := []
deriving DecidableEq, Repr

namespace CandidateBuffer

def empty : CandidateBuffer := {}

def enqueue (b : CandidateBuffer) (c : Candidate) : CandidateBuffer := ⟨b.pending ++ [c]⟩

def size (b : CandidateBuffer) : Nat := b.pending.length

def isEmpty (b : CandidateBuffer) : Bool := b.pending.isEmpty

/-- Offer candidates in order; returns how many were taken. -/
def offerAll {σ : Type} [TakesCandidates σ] (s : σ) : List Candidate → σ × Nat
  | [] => (s, 0)
  | x :: xs =>
    match TakesCandidates.addCandidate s x with
    | (s, .ok ()) => let (s, n) := offerAll s xs; (s, n + 1)
    | (s, .error _) => offerAll s xs

/-- Offer all waiting candidates; returns how many were taken. -/
def flush {σ : Type} [TakesCandidates σ] (b : CandidateBuffer) (s : σ) :
    CandidateBuffer × σ × Nat :=
  (empty, offerAll s b.pending)

variable {σ : Type} [TakesCandidates σ] {s s' : σ} {x : Candidate}

/-! ### Small laws -/

theorem offerAll_taken (h : TakesCandidates.addCandidate s x = (s', .ok ())) (xs : List Candidate) :
    offerAll s (x :: xs) = ((offerAll s' xs).1, (offerAll s' xs).2 + 1) := by
  rw [offerAll, h]

theorem offerAll_refused {e : ConnectionError}
    (h : TakesCandidates.addCandidate s x = (s', .error e)) (xs : List Candidate) :
    offerAll s (x :: xs) = offerAll s' xs := by
  rw [offerAll, h]

@[simp]
theorem pending_enqueue (b : CandidateBuffer) (c : Candidate) :
    (b.enqueue c).pending = b.pending ++ [c] := rfl

@[simp]
theorem pending_flush (b : CandidateBuffer) (s : σ) : (b.flush s).1.pending = [] := rfl

end CandidateBuffer

/-! ## Sessions -/

inductive NegotiationState where
  | idle
  | haveLocalOffer
  | haveRemoteOffer
  | stable
  | closed
deriving DecidableEq, Repr

def NegotiationState.title : NegotiationState → String
  | idle => "Idle"
  | haveLocalOffer => "HaveLocalOffer"
  | haveRemoteOffer => "HaveRemoteOffer"
  | stable => "Stable"
  | closed => "Closed"

structure Session where
  /-- The peer that was adopted. -/
  peer : Option ClientId := none
  negotiating : Bool := false
  localStreamAttached : Bool := false
  /-- Candidates of the peer that came too early. -/
  pending : CandidateBuffer := {}
  iceState : IceState := .new
  state : NegotiationState := .idle
  established : Bool := false
deriving DecidableEq, Repr

namespace Session

def isClosed (s : Session) : Bool := s.state = .closed

def markStable (s : Session) : Session := { s with state := .stable, established := true }

/-- The state to fall back to when an exchange is given up. -/
def restingState (s : Session) : NegotiationState := if s.established then .stable else .idle

def adoptPeer (s : Session) (id : ClientId) : Session := { s with peer := s.peer.or (some id) }

end Session

end Switchboard
