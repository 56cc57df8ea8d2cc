import Mathlib.Logic.Relation
import Switchboard.Call.Endpoint

/-!
# Runs of one side of a call

A run starts with a fresh negotiation over a fresh loopback connection and goes on with any
`Action`s: operations are submitted, reported events are handled, the capture tracks come and go,
failures are armed, the connection is made to stall, events are reported. Apart from arming and
reporting, nobody but the negotiation touches the connection.

Most of what can be said of a run does not depend on who waits for the session. `Negotiation.Step`
lists what an action may do to the negotiation alone, and `invariant_of_step` turns what the steps
keep into what every run keeps. For what does depend on who waits there is `invariant_of_act`.
-/

namespace Switchboard

inductive Action where
  | submit (ticket : Nat) (op : Operation)
  | pump (ticket : Nat)
  /-- The capture tracks are set, replaced, cleared, or dropped by their owner. -/
  | setMedia (m : Option MediaSet)
  | failNext (op : ConnectionOp)
  | stallOffers (on : Bool)
  | emit (e : ConnectionEvent)
  /-- Somebody else takes the reported events. -/
  | takeEvents
deriving DecidableEq, Repr

namespace Negotiation

def failNext (n : Negotiation) (op : ConnectionOp) : Negotiation :=
  { n with connection := n.connection.failNext op }

def stallOffers (n : Negotiation) (on : Bool) : Negotiation :=
  { n with connection := { n.connection with stallsOffers := on } }

def emit (n : Negotiation) (e : ConnectionEvent) : Negotiation :=
  { n with connection := n.connection.emit e }

inductive Step : Negotiation → Negotiation → Prop
  | call (n : Negotiation) (peer : ClientId) : Step n (n.startCall peer).1
  | receive (n : Negotiation) (m : Message) : Step n (n.receive m).1
  | handle (n : Negotiation) (e : ConnectionEvent) : Step n (n.handle e).1
  | resetPeer (n : Negotiation) : Step n n.resetPeer.1
  | close (n : Negotiation) : Step n n.close.1
  /-- A call that has stalled is given up, because the session closes. -/
  | dropCall (n : Negotiation) : Step n n.dropCall.close.1
  | setMedia (n : Negotiation) (m : Option MediaSet) : Step n (n.setMedia m)
  | failNext (n : Negotiation) (op : ConnectionOp) : Step n (n.failNext op)
  | stallOffers (n : Negotiation) (on : Bool) : Step n (n.stallOffers on)
  | emit (n : Negotiation) (e : ConnectionEvent) : Step n (n.emit e)
  | takeEvents (n : Negotiation) : Step n n.withoutEvents

abbrev Steps : Negotiation → Negotiation → Prop := Relation.ReflTransGen Step

/-! ## Operations as steps -/

/-- An operation on a free session is one step, if not none. -/
theorem steps_run (n : Negotiation) (op : Operation) : Steps n (op.run n).1 := by
  cases op with
  | call peer =>
      have h := Step.call n peer
      rcases hr : n.startCall peer with ⟨n', r | _⟩ <;> rw [hr] at h <;>
        simpa only [Operation.run, hr] using Relation.ReflTransGen.single h
  | receive m => exact .single (.receive n m)
  | handle e => exact .single (.handle n e)
  | resetPeer => exact .single (.resetPeer n)
  | close => exact .single (.close n)

/-- Events are handled one step after the other. -/
theorem steps_handleAll (n : Negotiation) (es : List ConnectionEvent) :
    Steps n (n.handleAll es).1 := by
  induction es generalizing n with
  | nil => exact .refl
  | cons e es ih => exact .head (.handle n e) (ih _)

/-- The events are taken first, and handled then. -/
theorem steps_pump (n : Negotiation) : Steps n n.pump.1 :=
  .head (.takeEvents n) (steps_handleAll _ _)

end Negotiation

namespace Endpoint

/-! ## Endpoints in a run -/

def fresh (localId : ClientId) (label : String) : Endpoint :=
  { negotiation := .start localId { label } }

/-- One action; returns what ends by it, too. -/
def act (e : Endpoint) : Action → Endpoint × List Ended
  | .submit ticket op => e.submit ticket op
  | .pump ticket => e.pump ticket
  | .setMedia m => (e.modify (·.setMedia m), [])
  | .failNext op => (e.modify (·.failNext op), [])
  | .stallOffers on => (e.modify (·.stallOffers on), [])
  | .emit event => (e.modify (·.emit event), [])
  | .takeEvents => (e.takeEvents, [])

def after (e : Endpoint) (as : List Action) : Endpoint := as.foldl (fun e a => (e.act a).1) e

theorem after_append (e : Endpoint) (as bs : List Action) :
    e.after (as ++ bs) = (e.after as).after bs :=
  List.foldl_append

/-- An action is a sequence of steps for the negotiation, whoever waits for it. -/
theorem steps_act (e : Endpoint) (a : Action) :
    Negotiation.Steps e.negotiation (e.act a).1.negotiation := by
  cases a with
  | submit ticket op =>
      show Negotiation.Steps _ (e.submit ticket op).1.negotiation
      cases hheld : e.holder with
      | none =>
          rw [negotiation_submit hheld]
          exact e.negotiation.steps_run op
      | some holder =>
          -- while the lock is held only a close gets through
          by_cases hop : op = .close
          · subst hop
            rw [(submit_close_of_busy hheld ticket).1]
            exact .single (.dropCall _)
          · rw [(submit_of_busy hheld hop ticket).1]
  | pump ticket =>
      show Negotiation.Steps _ (e.pump ticket).1.negotiation
      obtain ⟨hleft, -⟩ | ⟨-, hleft, -⟩ := e.pump_cases ticket <;> rw [hleft]
      · exact e.negotiation.steps_pump
      · exact .single (.takeEvents _)
  | setMedia m => exact .single (.setMedia _ m)
  | failNext op => exact .single (.failNext _ op)
  | stallOffers on => exact .single (.stallOffers _ on)
  | emit event => exact .single (.emit _ event)
  | takeEvents => exact .single (.takeEvents _)

/-- A run is a sequence of steps for the negotiation. -/
theorem steps_after (e : Endpoint) (as : List Action) :
    Negotiation.Steps e.negotiation (e.after as).negotiation := by
  induction as generalizing e with
  | nil => exact .refl
  | cons a as ih => exact (e.steps_act a).trans (ih _)

/-! ## Invariants -/

/-- **Invariants of runs.** What holds of every fresh negotiation and is kept by every step holds
at every point of a run. -/
theorem invariant_of_step {P : Negotiation → Prop}
    (hstart : ∀ localId label, P (.start localId { label }))
    (hstep : ∀ n n', Negotiation.Step n n' → P n → P n')
    (localId : ClientId) (label : String) (as : List Action) :
    P ((fresh localId label).after as).negotiation := by
  have hsteps := (fresh localId label).steps_after as
  generalize ((fresh localId label).after as).negotiation = n at hsteps ⊢
  induction hsteps with
  | refl => exact hstart localId label
  | tail _ h ih => exact hstep _ _ h ih

/-- What every action keeps holds at every later point. -/
theorem invariant_of_act {P : Endpoint → Prop} (hact : ∀ e a, P e → P (e.act a).1) {e : Endpoint}
    (h : P e) (as : List Action) : P (e.after as) := by
  induction as generalizing e with
  | nil => exact h
  | cons a as ih => exact ih (hact e a h)

end Endpoint

end Switchboard
