import Mathlib.Logic.Function.Basic
import Switchboard.Call.Endpoint

/-!
# Two sides of one call

Two negotiations, and for each of them the messages that are on their way to it. A message arrives
in the order in which it was sent, which is what the relay grants to every two clients. A `Turn` is
whatever may happen next: a side calls the other, the oldest message to a side arrives, a side
handles an event of its connection. Everything that a side has to say goes on its way at once.

`Reaches` collects the states of all runs whose turns are allowed. What is allowed is up to the
theorem: anything, or only what is `Orderly`.
-/

namespace Switchboard

inductive Side where
  | left
  | right
deriving DecidableEq, Repr

namespace Side

def other : Side → Side
  | left => right
  | right => left

@[simp] theorem other_other (s : Side) : s.other.other = s := by cases s <;> rfl

@[simp] theorem other_ne (s : Side) : s.other ≠ s := by cases s <;> simp [other]

@[simp] theorem ne_other (s : Side) : s ≠ s.other := s.other_ne.symm

/-- There is no third side. -/
theorem eq_or_eq_other (s t : Side) : t = s ∨ t = s.other := by
  cases s <;> cases t <;> simp [other]

end Side

/-! ## What is said -/

def Progress.message? : Progress Message → Option Message
  | finished (.ok m) => some m
  | _ => none

def RemoteOutcome.message? : RemoteOutcome → Option Message
  | reply m => some m
  | _ => none

def NegotiationEvent.message? : NegotiationEvent → Option Message
  | signal m => some m
  | _ => none

/-! ## Turns -/

/-- Two sides of a call and what is on its way between them. -/
structure Pair where
  party : Side → Negotiation
  /-- The messages on their way to a side, oldest first. -/
  inbox : Side → List Message
  /-- All messages that a side has sent so far, oldest first. -/
  sent : Side → List Message

inductive Turn where
  /-- The side calls the other one. -/
  | call (s : Side)
  /-- The oldest message on its way to the side arrives. -/
  | deliver (s : Side)
  /-- The side handles an event of its connection. -/
  | handle (s : Side) (e : ConnectionEvent)
deriving DecidableEq, Repr

namespace Pair

def start (id : Side → ClientId) (label : Side → String) (media : Side → Option MediaSet) :
    Pair where
  party s := { Negotiation.start (id s) { label := label s } with media := media s }
  inbox _ := []
  sent _ := []

def take (p : Pair) (s : Side) : Pair :=
  { p with inbox := Function.update p.inbox s (p.inbox s).tail }

def become (p : Pair) (s : Side) (n : Negotiation) : Pair :=
  { p with party := Function.update p.party s n }

def post (p : Pair) (s : Side) : Option Message → Pair
  | none => p
  | some m =>
    { p with
      inbox := Function.update p.inbox s.other (p.inbox s.other ++ [m])
      sent := Function.update p.sent s (p.sent s ++ [m]) }

def step (p : Pair) : Turn → Pair
  | .call s =>
    let (n, r) := (p.party s).startCall (p.party s.other).localId
    (p.become s n).post s r.message?
  | .deliver s =>
    match p.inbox s with
    | [] => p
    | m :: _ =>
      let (n, r) := (p.party s).receive m
      ((p.take s).become s n).post s (r.toOption.bind RemoteOutcome.message?)
  | .handle s e =>
    let (n, r) := (p.party s).handle e
    (p.become s n).post s (r.toOption.join.bind NegotiationEvent.message?)

/-- A side that has completed an exchange calls again only when no exchange is under way. -/
def Orderly (p : Pair) : Turn → Prop
  | .call s => (p.party s).session.established = true →
      ∀ t, (p.party t).session.negotiating = false ∧
        ∀ m ∈ p.inbox t, m.kind ≠ .signal .offer ∧ m.kind ≠ .signal .answer
  | .deliver _ | .handle _ _ => True

def Free (_ : Pair) (_ : Turn) : Prop := True

/-- The states of the runs from `p` whose turns are allowed. -/
inductive Reaches (allowed : Pair → Turn → Prop) (p : Pair) : Pair → Prop
  | refl : Reaches allowed p p
  | step {q : Pair} {t : Turn} : Reaches allowed p q → allowed q t → Reaches allowed p (q.step t)

def after (p : Pair) (ts : List Turn) : Pair := ts.foldl step p

/-- Turns that are always allowed lead on. -/
theorem Reaches.after {allowed : Pair → Turn → Prop} {p q : Pair} (h : Reaches allowed p q)
    {ts : List Turn} (hts : ∀ t ∈ ts, ∀ q, allowed q t) : Reaches allowed p (q.after ts) := by
  induction ts generalizing q with
  | nil => exact h
  | cons t ts ih =>
      have ht := hts t List.mem_cons_self q
      exact ih (h.step ht) fun t' ht' => hts t' (List.mem_cons_of_mem t ht')

end Pair

end Switchboard
