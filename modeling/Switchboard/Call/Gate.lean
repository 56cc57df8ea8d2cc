import Switchboard.Call.Negotiation

/-!
# The gate of a negotiation

Every operation has the session of its negotiation to itself. All of them finish at once but a call
whose offer the connection never finishes: that call keeps the session, and whatever comes later
waits, in order of arrival.

Whoever closes raises a flag first and waits for the session then. All others look at the flag when
they come, wait for the session or for the flag, whichever is first, and look at the flag again when
they have got the session. The call that keeps the session watches the flag, too, and gives up when
it is raised.

What happens at a gate is `Gate.arrive`, `Gate.giveUp` and `Gate.letIn`; `Gate.settle` goes on with
these until nothing is left to do.
-/

namespace Switchboard

/-- The operations that need the session. -/
inductive Operation where
  | call (peer : ClientId)
  | receive (m : Message)
  | handle (e : ConnectionEvent)
  | resetPeer
  | close
deriving DecidableEq, Repr

abbrev HandledEvent := ConnectionEvent × Except NegotiationError (Option NegotiationEvent)

inductive Completion where
  | called (result : Except NegotiationError Message)
  | received (result : Except NegotiationError RemoteOutcome)
  | handled (result : Except NegotiationError (Option NegotiationEvent))
  | released (result : Except NegotiationError (Option ClientId))
  | closed (result : Except NegotiationError Unit)
  /-- The reported events that were handled, oldest first. -/
  | pumped (events : List HandledEvent)

namespace Operation

/-- Do an operation with the session free; no completion if it stalls. -/
def run (n : Negotiation) : Operation → Negotiation × Option Completion
  | call peer =>
    match n.startCall peer with
    | (n, .finished r) => (n, some (.called r))
    | (n, .stalled) => (n, none)
  | receive m => ((n.receive m).1, some (.received (n.receive m).2))
  | handle e => ((n.handle e).1, some (.handled (n.handle e).2))
  | resetPeer => (n.resetPeer.1, some (.released n.resetPeer.2))
  | close => (n.close.1, some (.closed n.close.2))

/-- An operation ends with an error before it has begun. -/
def fail (e : NegotiationError) : Operation → Completion
  | call _ => .called (.error e)
  | receive _ => .received (.error e)
  | handle _ => .handled (.error e)
  | resetPeer => .released (.error e)
  | close => .closed (.error e)

end Operation

namespace Negotiation

def handleAll (n : Negotiation) : List ConnectionEvent → Negotiation × List HandledEvent
  | [] => (n, [])
  | e :: es =>
    let (n, result) := n.handle e
    let (n, results) := n.handleAll es
    (n, (e, result) :: results)

def withoutEvents (n : Negotiation) : Negotiation :=
  { n with connection := { n.connection with events := [] } }

/-- Handle all reported events. Handling an event reports no other. -/
def pump (n : Negotiation) : Negotiation × List HandledEvent :=
  n.withoutEvents.handleAll n.connection.events

/-- A closed session refuses every event. -/
theorem handleAll_of_closed {n : Negotiation} (h : n.session.isClosed = true)
    (es : List ConnectionEvent) : n.handleAll es = (n, es.map fun e => (e, .error .closed)) := by
  induction es with
  | nil => rfl
  | cons e es ih => simp [handleAll, handle, h, ih]

end Negotiation

/-! ## Those who wait -/

inductive Waiter where
  | operation (op : Operation)
  /-- Has taken the events that were reported so far, one at least, and handles them one by one. -/
  | pump (taken : List ConnectionEvent)
deriving DecidableEq, Repr

namespace Waiter

def closes : Waiter → Bool
  | operation .close => true
  | _ => false

theorem eq_close_of_closes {w : Waiter} (h : w.closes = true) : w = operation .close := by
  unfold closes at h
  split at h
  · rfl
  · cases h

def run (n : Negotiation) : Waiter → Negotiation × Option Completion
  | operation op => op.run n
  | pump taken => ((n.handleAll taken).1, some (.pumped (n.handleAll taken).2))

/-- Each event is handled for itself, and each comes to the same gate. -/
def fail (e : NegotiationError) : Waiter → Completion
  | operation op => op.fail e
  | pump taken => .pumped (taken.map fun event => (event, .error e))

/-- How it ends for somebody who finds the session closed: there is nothing left to close, and
nothing else to do. -/
def late (w : Waiter) : Completion := if w.closes then .closed (.ok ()) else w.fail .closed

/-- **A closed session refuses every operation** and is left as it is. -/
theorem run_of_closed {n : Negotiation} (h : n.session.isClosed = true) (w : Waiter) :
    w.run n = (n, some w.late) := by
  cases w with
  | operation op =>
    cases op with
    | call peer => simp [run, late, closes, fail, Operation.run, Operation.fail,
        Negotiation.startCall, h]
    | receive m => simp [run, late, closes, fail, Operation.run, Operation.fail,
        Negotiation.receive, h]
    | handle e => simp [run, late, closes, fail, Operation.run, Operation.fail,
        Negotiation.handle, h]
    | resetPeer => simp [run, late, closes, fail, Operation.run, Operation.fail,
        Negotiation.resetPeer, h]
    | close => simp [run, late, closes, Operation.run, Negotiation.close_of_closed h]
  | pump taken => simp [run, late, closes, fail, Negotiation.handleAll_of_closed h]

end Waiter

/-! ## The gate -/

/-- Operations are told apart by the tickets they come with. -/
abbrev Ended := Nat × Completion

/-- A negotiation together with the operations that are not finished. -/
structure Gate where
  negotiation : Negotiation
  /-- Somebody wants to close, and everybody is told. -/
  closing : Bool := false
  /-- The call that keeps the session. -/
  holder : Option Nat := none
  /-- Oldest first. -/
  waiting : List (Nat × Waiter) := []
deriving DecidableEq, Repr

namespace Gate

variable {g : Gate}

def unfinished (g : Gate) : List Nat := g.holder.toList ++ g.waiting.map Prod.fst

/-- What somebody is told who looks at the flag. Whoever closes does not look. -/
def barred? (g : Gate) (w : Waiter) : Option NegotiationError :=
  if g.closing && !w.closes then some .closed else none

/-! ### What happens at a gate -/

/-- Somebody comes to the gate, and is sent away or waits. Returns what ends by it. -/
def arrive (g : Gate) (ticket : Nat) (w : Waiter) : Gate × List Ended :=
  match g.barred? w with
  | some e => (g, [(ticket, w.fail e)])
  | none =>
    ({ g with closing := g.closing || w.closes, waiting := g.waiting ++ [(ticket, w)] }, [])

/-- Somebody has got the session. Whether it is closed already shows in there. -/
def letIn (g : Gate) (ticket : Nat) (w : Waiter) : Gate × List Ended :=
  match g.barred? w with
  | some e => (g, [(ticket, w.fail e)])
  | none =>
    match w.run g.negotiation with
    | (n, some c) => ({ g with negotiation := n }, [(ticket, c)])
    | (n, none) => ({ g with negotiation := n, holder := some ticket }, [])

/-- The call that keeps the session gives up if the flag is raised. -/
def giveUp (g : Gate) : Gate × List Ended :=
  match g.holder, g.closing with
  | some ticket, true =>
    ({ g with negotiation := g.negotiation.dropCall, holder := none },
      [(ticket, .called (.error .closed))])
  | _, _ => (g, [])

/-- The free session goes from one of the given waiters to the next, until a call keeps it. -/
def drain (g : Gate) : List (Nat × Waiter) → Gate × List Ended
  | [] => ({ g with waiting := [] }, [])
  | (ticket, w) :: rest =>
    if g.holder.isSome then ({ g with waiting := (ticket, w) :: rest }, [])
    else
      let (g, ended) := { g with waiting := rest }.letIn ticket w
      let (g, later) := g.drain rest
      (g, ended ++ later)

/-- Go on until nobody can. Returns what ends by it, in order. -/
def settle (g : Gate) : Gate × List Ended :=
  let (g, ended) := g.giveUp
  let (g, later) := g.drain g.waiting
  (g, ended ++ later)

/-! ### Small laws -/

theorem barred?_eq_some {w : Waiter} {e : NegotiationError} (h : g.barred? w = some e) :
    g.closing = true ∧ w.closes = false ∧ e = .closed := by
  unfold barred? at h
  split at h
  · next hc =>
    simp only [Bool.and_eq_true, Bool.not_eq_true'] at hc
    cases h
    exact ⟨hc.1, hc.2, rfl⟩
  · cases h

theorem barred?_eq (h : g.closing = true) {w : Waiter} (hw : w.closes = false) :
    g.barred? w = some .closed := by
  simp [barred?, h, hw]

theorem barred?_closes {w : Waiter} (hw : w.closes = true) : g.barred? w = none := by
  simp [barred?, hw]

/-- Nobody who comes to the session under a raised flag keeps it, and only closing does anything. -/
theorem letIn_of_closing (h : g.closing = true) (ticket : Nat) (w : Waiter) :
    g.letIn ticket w =
      ({ g with negotiation := if w.closes then g.negotiation.close.1 else g.negotiation },
        [(ticket, w.late)]) := by
  cases hw : w.closes with
  | false => simp [letIn, barred?_eq h hw, Waiter.late, hw]
  | true =>
    obtain rfl := Waiter.eq_close_of_closes hw
    simp [letIn, barred?_closes hw, Waiter.run, Operation.run, Waiter.late, hw]

/-- **A raised flag clears the queue**: whoever waits leaves empty-handed, or closes. -/
theorem drain_of_closing (h : g.closing = true) (hfree : g.holder = none)
    (ws : List (Nat × Waiter)) :
    g.drain ws =
      ({ g with
          negotiation := if ws.any (·.2.closes) then g.negotiation.close.1 else g.negotiation
          waiting := [] },
        ws.map fun w => (w.1, w.2.late)) := by
  induction ws generalizing g with
  | nil => rfl
  | cons first rest ih =>
    obtain ⟨ticket, w⟩ := first
    have hletIn := letIn_of_closing (g := { g with waiting := rest }) h ticket w
    rw [drain, if_neg (by simp [hfree])]
    simp only [hletIn]
    have hrest := ih (g := { g with
      negotiation := if w.closes then g.negotiation.close.1 else g.negotiation
      waiting := rest }) h hfree
    rw [hrest, List.any_cons]
    cases w.closes <;> cases rest.any (·.2.closes) <;> simp

/-- A session that somebody keeps is not handed on. -/
theorem drain_of_held (h : g.holder.isSome = true) (ws : List (Nat × Waiter)) :
    g.drain ws = ({ g with waiting := ws }, []) := by
  cases ws with
  | nil => rfl
  | cons first rest => rw [drain, if_pos h]

end Gate

end Switchboard
