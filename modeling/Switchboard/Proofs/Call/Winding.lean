import Switchboard.Proofs.Call.Closing
import Switchboard.Proofs.Call.Requests

/-!
# Closing while others wait

Whoever closes raises the flag at the gate and waits for the session like any other. A call that
keeps the session sees the flag and gives it up; those who wait see the flag, too, unless they come
to close themselves. Nobody says in which order all that happens. `Gate.Move` is one thing that
somebody at a gate may do next, and a `Winding` is a gate at which somebody has come to close, with
all that has come and ended since.

Under a raised flag every move ends one operation, and always in the same way (`Gate.Unwinds`); and
as long as something is unfinished there is a move. So every order comes to the same end, and the
order in which `Endpoint.submit` goes is one of them (`Gate.moves_settle`).

The main statement is `close_ends_all`. It takes any run before and after, also one in which the
connection is asked for anything at all behind the back of its negotiation.
-/

namespace Switchboard

namespace Gate

open Negotiation

variable {g g' g'' : Gate} {out : Gate × List Ended} {ticket : Nat} {w : Waiter}

/-! ## One move at a time -/

/-- One thing that somebody at a gate does next, and what ends by it. -/
inductive Move (g : Gate) : Gate × List Ended → Prop
  /-- The call that keeps the session sees the flag. -/
  | giveUp {ticket : Nat} (hheld : g.holder = some ticket) (hflag : g.closing = true) :
      Move g g.giveUp
  /-- Somebody who waits sees the flag, whether the session is free or not. -/
  | leave {front back : List (Nat × Waiter)} {ticket : Nat} {w : Waiter} {e : NegotiationError}
      (hw : g.waiting = front ++ (ticket, w) :: back) (hbarred : g.barred? w = some e) :
      Move g ({ g with waiting := front ++ back }, [(ticket, w.fail e)])
  /-- The session is free and goes to the one who has waited longest. -/
  | letIn {rest : List (Nat × Waiter)} {ticket : Nat} {w : Waiter} (hfree : g.holder = none)
      (hw : g.waiting = (ticket, w) :: rest) : Move g ({ g with waiting := rest }.letIn ticket w)

/-- Moves one after the other, and all that ends by them. -/
inductive Moves : Gate → Gate × List Ended → Prop
  | refl (g : Gate) : Moves g (g, [])
  | head {g g' g'' : Gate} {now later : List Ended} (hmove : g.Move (g', now))
      (hrest : g'.Moves (g'', later)) : Moves g (g'', now ++ later)

/-- Whoever is let in leaves the others waiting. -/
theorem waiting_letIn (g : Gate) (ticket : Nat) (w : Waiter) :
    (g.letIn ticket w).1.waiting = g.waiting := by
  unfold letIn
  split
  · rfl
  · split <;> rfl

/-- Handing the session on is one move after the other. -/
theorem moves_drain (g : Gate) (ws : List (Nat × Waiter)) :
    { g with waiting := ws }.Moves (g.drain ws) := by
  induction ws generalizing g with
  | nil => exact .refl _
  | cons first rest ih =>
      obtain ⟨ticket, w⟩ := first
      rw [drain]
      split
      · exact .refl _
      · next hheld =>
          have hfree : g.holder = none := Option.not_isSome_iff_eq_none.mp hheld
          -- whoever is let in leaves the others where they are
          have hsame {g : Gate} (hw : g.waiting = rest) : { g with waiting := rest } = g := by
            subst hw
            rfl
          have hrest := ih ({ g with waiting := rest }.letIn ticket w).1
          rw [hsame (waiting_letIn _ _ _)] at hrest
          exact .head (.letIn hfree rfl) hrest

/-- **Going on until nobody can** is a matter of moves. -/
theorem moves_settle (g : Gate) : g.Moves g.settle := by
  have hdrain := moves_drain g.giveUp.1 g.giveUp.1.waiting
  by_cases hcan : (∃ ticket, g.holder = some ticket) ∧ g.closing = true
  · obtain ⟨⟨ticket, hheld⟩, hflag⟩ := hcan
    exact .head (.giveUp hheld hflag) hdrain
  · have hstays : g.giveUp = (g, []) := by
      unfold Gate.giveUp
      split
      · next ticket hheld hflag => exact absurd ⟨⟨ticket, hheld⟩, hflag⟩ hcan
      · rfl
    rw [hstays] at hdrain
    simpa only [settle, hstays, List.nil_append] using hdrain

/-! ## Under a raised flag -/

/-- How everything ends that is unfinished when the flag is raised. -/
def ends (g : Gate) : List Ended :=
  g.holder.toList.map (fun ticket => (ticket, .called (.error .closed))) ++
    g.waiting.map fun w => (w.1, w.2.late)

/-- What is left once somebody has closed: a call that keeps the session gives up before. -/
def outcome (g : Gate) : Negotiation :=
  (if g.holder.isSome then g.negotiation.dropCall else g.negotiation).close.1

/-- Somebody has closed, or is going to. -/
def WillClose (g : Gate) : Prop :=
  g.negotiation.session.isClosed = true ∨ ∃ w ∈ g.waiting, w.2.closes = true

/-- What a move under a raised flag does. -/
structure Unwinds (g : Gate) (out : Gate × List Ended) : Prop where
  closing : out.1.closing = true
  one : out.2.length = 1
  ends : (out.2 ++ out.1.ends).Perm g.ends
  outcome : out.1.outcome = g.outcome
  recalls : Recalls g.negotiation out.1.negotiation
  willClose : g.WillClose → out.1.WillClose

/-- Everything unfinished ends once. -/
theorem length_ends (g : Gate) : g.ends.length = g.unfinished.length := by
  simp [ends, unfinished]

/-- The call that keeps the session ends as closed, and leaves the session to be closed. -/
theorem unwinds_giveUp (hflag : g.closing = true) (hheld : g.holder = some ticket) :
    g.Unwinds g.giveUp := by
  obtain ⟨n, closing, holder, waiting⟩ := g
  subst hheld hflag
  exact ⟨rfl, rfl, .refl _, rfl, recalls_dropCall n, id⟩

/-- Somebody who leaves the queue does not count any more, and the others do as before. -/
theorem unwinds_leave {front back : List (Nat × Waiter)} {e : NegotiationError}
    (hflag : g.closing = true) (hw : g.waiting = front ++ (ticket, w) :: back)
    (hbarred : g.barred? w = some e) :
    g.Unwinds ({ g with waiting := front ++ back }, [(ticket, w.fail e)]) := by
  obtain ⟨-, hcloses, rfl⟩ := barred?_eq_some hbarred
  refine ⟨hflag, rfl, ?_, rfl, .refl _, fun hwill => ?_⟩
  · have hlate : w.fail .closed = w.late := by simp [Waiter.late, hcloses]
    simp only [ends, hw, hlate, List.map_append, List.map_cons, List.singleton_append]
    exact ((List.perm_middle.append_left _).trans List.perm_middle).symm
  · obtain hclosed | ⟨other, hother, hcloser⟩ := hwill
    · exact .inl hclosed
    · refine .inr ⟨other, ?_, hcloser⟩
      rw [hw, List.mem_append, List.mem_cons] at hother
      -- who closes is not turned away, so the one that left was not it
      obtain hfront | rfl | hback := hother
      · exact List.mem_append_left _ hfront
      · simp [hcloses] at hcloser
      · exact List.mem_append_right _ hback

/-- Whoever gets the session closes it, or sees the flag after all. -/
theorem unwinds_letIn {rest : List (Nat × Waiter)} (hflag : g.closing = true)
    (hfree : g.holder = none) (hw : g.waiting = (ticket, w) :: rest) :
    g.Unwinds ({ g with waiting := rest }.letIn ticket w) := by
  rw [letIn_of_closing (g := { g with waiting := rest }) hflag]
  -- of those that are let in while the call is closing, only a close has an effect
  refine ⟨hflag, rfl, ?_, ?_, ?_, fun hwill => ?_⟩
  · simp [ends, hw, hfree]
  · cases hcloses : w.closes <;> simp [Gate.outcome, hfree]
  · cases hcloses : w.closes with
    | false => exact .refl _
    | true => exact recalls_close _
  · cases hcloses : w.closes with
    | true => exact .inl (isClosed_close _)
    | false =>
        obtain hclosed | ⟨other, hother, hcloser⟩ := hwill
        · exact .inl hclosed
        · rw [hw, List.mem_cons] at hother
          obtain rfl | hrest := hother
          · simp [hcloses] at hcloser
          · exact .inr ⟨other, hrest, hcloser⟩

/-- **Every move under a raised flag ends one operation**, as it has to end. -/
theorem Move.unwinds (hmove : g.Move out) (hflag : g.closing = true) : g.Unwinds out := by
  cases hmove with
  | giveUp hheld => exact unwinds_giveUp hflag hheld
  | leave hw hbarred => exact unwinds_leave hflag hw hbarred
  | letIn hfree hw => exact unwinds_letIn hflag hfree hw

/-- **Winding up does not go on for ever.** -/
theorem Move.unfinished_lt (hmove : g.Move out) (hflag : g.closing = true) :
    out.1.unfinished.length < g.unfinished.length := by
  have hunwinds := hmove.unwinds hflag
  have hlength := hunwinds.ends.length_eq
  rw [List.length_append, hunwinds.one, length_ends, length_ends] at hlength
  omega

/-- **Nobody is stuck under a raised flag.** -/
theorem exists_move (hflag : g.closing = true) (hleft : g.unfinished ≠ []) :
    ∃ out, g.Move out := by
  cases hheld : g.holder with
  | some ticket => exact ⟨_, .giveUp hheld hflag⟩
  | none =>
      cases hw : g.waiting with
      | nil => exact absurd (by simp [unfinished, hheld, hw]) hleft
      | cons first rest => exact ⟨_, .letIn hheld hw⟩

/-- Where nothing is unfinished and somebody has closed, only the outcome is left. -/
theorem eq_of_unfinished_eq_nil (hflag : g.closing = true) (hwill : g.WillClose)
    (hdone : g.unfinished = []) : g = { negotiation := g.outcome, closing := true } := by
  obtain ⟨n, closing, holder, waiting⟩ := g
  simp only [unfinished, List.append_eq_nil_iff, Option.toList_eq_nil_iff,
    List.map_eq_nil_iff] at hdone
  obtain ⟨rfl, rfl⟩ := hdone
  subst hflag
  obtain hclosed | ⟨w, hw, -⟩ := hwill
  · simp [outcome, close_of_closed hclosed]
  · cases hw

end Gate

/-! ## Any order -/

/-- A gate at which somebody has come to close, with what has happened since. -/
structure Winding where
  gate : Gate
  /-- Those who have come since, oldest first. -/
  arrived : List (Nat × Waiter) := []
  /-- What has ended, in order. -/
  ended : List Ended := []

namespace Winding

open Negotiation

variable {g : Gate} {r r' : Winding}

def start (g : Gate) (ticket : Nat) : Winding := { gate := (g.arrive ticket (.operation .close)).1 }

/-- Somebody else comes, or somebody moves. -/
inductive Step : Winding → Winding → Prop
  | arrive (r : Winding) (ticket : Nat) (w : Waiter) :
      Step r
        { gate := (r.gate.arrive ticket w).1
          arrived := r.arrived ++ [(ticket, w)]
          ended := r.ended ++ (r.gate.arrive ticket w).2 }
  | move {r : Winding} {out : Gate × List Ended} (hmove : r.gate.Move out) :
      Step r { r with gate := out.1, ended := r.ended ++ out.2 }

abbrev Steps : Winding → Winding → Prop := Relation.ReflTransGen Step

/-- How those end who have come since. -/
def turnedAway (r : Winding) : List Ended := r.arrived.map fun w => (w.1, w.2.late)

/-- What holds of a gate that was `g` when the flag was raised. -/
structure Sound (g : Gate) (r : Winding) : Prop where
  closing : r.gate.closing = true
  /-- All that was unfinished or has come since has ended once, or is still to end. -/
  accounted : (r.ended ++ r.gate.ends).Perm (g.ends ++ r.turnedAway)
  outcome : r.gate.outcome = g.outcome
  recalls : Recalls g.negotiation r.gate.negotiation
  willClose : r.gate.WillClose

/-! ### The flag goes up -/

/-- Whoever comes to close raises the flag and joins the queue. -/
theorem gate_start (g : Gate) (ticket : Nat) :
    (start g ticket).gate =
      { g with closing := true, waiting := g.waiting ++ [(ticket, .operation .close)] } := by
  simp [start, Gate.arrive, Gate.barred?, Waiter.closes]

/-- `Endpoint.submit` raises the flag, and goes on until nobody can. -/
theorem pass_close (g : Gate) (ticket : Nat) :
    g.pass ticket (.operation .close) = (start g ticket).gate.settle := by
  have harrive : g.arrive ticket (.operation .close) = ((start g ticket).gate, []) := by
    simp [start, Gate.arrive, Gate.barred?, Waiter.closes]
  simp only [Gate.pass, harrive, List.nil_append]

theorem sound_start (g : Gate) (ticket : Nat) : Sound (start g ticket).gate (start g ticket) where
  closing := by rw [gate_start]
  accounted := by simp [start, turnedAway]
  outcome := rfl
  recalls := .refl _
  willClose := .inr ⟨(ticket, .operation .close), by simp [gate_start], rfl⟩

/-! ### Whoever comes, whoever moves -/

/-- Somebody comes while the flag is up, and is sent away, or waits for the session to close it. -/
theorem Sound.arrive (h : Sound g r) (ticket : Nat) (w : Waiter) :
    Sound g
      { gate := (r.gate.arrive ticket w).1
        arrived := r.arrived ++ [(ticket, w)]
        ended := r.ended ++ (r.gate.arrive ticket w).2 } := by
  obtain ⟨hflag, haccounted, houtcome, hrecalls, hwill⟩ := h
  -- one more has arrived, and one more is accounted for
  have hone : ((ticket, w.late) :: (r.ended ++ r.gate.ends)).Perm
      (g.ends ++ r.turnedAway ++ [(ticket, w.late)]) :=
    (haccounted.cons _).trans (List.perm_append_singleton _ _).symm
  cases hcloses : w.closes with
  | false =>
      have harrive : r.gate.arrive ticket w = (r.gate, [(ticket, w.late)]) := by
        simp [Gate.arrive, Gate.barred?_eq hflag hcloses, Waiter.late, hcloses]
      rw [harrive]
      -- turned away at once
      refine ⟨hflag, ?_, houtcome, hrecalls, hwill⟩
      simp only [turnedAway, List.map_append, List.map_cons, List.map_nil, List.append_assoc,
        List.singleton_append] at hone ⊢
      exact List.perm_middle.trans hone
  | true =>
      have harrive : r.gate.arrive ticket w =
          ({ r.gate with waiting := r.gate.waiting ++ [(ticket, w)] }, []) := by
        simp [Gate.arrive, Gate.barred?_closes hcloses, hflag]
      rw [harrive]
      -- a close waits for the lock like anyone else
      refine ⟨hflag, ?_, houtcome, hrecalls, ?_⟩
      · simp only [turnedAway, Gate.ends, List.map_append, List.map_cons, List.map_nil,
          List.append_nil, ← List.append_assoc] at hone ⊢
        exact (List.perm_append_singleton _ _).trans hone
      · exact .inr ⟨(ticket, w), by simp, hcloses⟩

/-- Whoever comes and whoever moves, the account stays sound. -/
theorem Sound.step (h : Sound g r) (hstep : Step r r') : Sound g r' := by
  cases hstep with
  | arrive ticket w => exact h.arrive ticket w
  | move hmove =>
      have hunwinds := hmove.unwinds h.closing
      refine ⟨hunwinds.closing, ?_, hunwinds.outcome.trans h.outcome,
        h.recalls.trans hunwinds.recalls, hunwinds.willClose h.willClose⟩
      rw [List.append_assoc]
      exact (hunwinds.ends.append_left _).trans h.accounted

theorem Sound.steps (h : Sound g r) (hsteps : Steps r r') : Sound g r' := by
  induction hsteps with
  | refl => exact h
  | tail _ hstep ih => exact ih.step hstep

/-- **Every order comes to the same end**, as soon as nothing is unfinished. -/
theorem Sound.drained (h : Sound g r) (hdone : r.gate.unfinished = []) :
    r.gate = { negotiation := g.outcome, closing := true } ∧
      r.ended.Perm (g.ends ++ r.turnedAway) := by
  have hends : r.gate.ends = [] := by
    rw [← List.length_eq_zero_iff, Gate.length_ends, hdone]
    rfl
  refine ⟨?_, by simpa [hends] using h.accounted⟩
  rw [← h.outcome]
  exact Gate.eq_of_unfinished_eq_nil h.closing h.willClose hdone

/-! ### The order of an endpoint -/

/-- Moves of the gate are steps in which nobody comes. -/
theorem steps_of_moves {out : Gate × List Ended} (hmoves : r.gate.Moves out) :
    Steps r { r with gate := out.1, ended := r.ended ++ out.2 } := by
  obtain ⟨gate, arrived, ended⟩ := r
  dsimp only at hmoves ⊢
  induction hmoves generalizing ended with
  | refl g => simpa using .refl
  | @head g g' g'' now later hmove _ ih =>
      have hfirst : Step ⟨g, arrived, ended⟩ ⟨g', arrived, ended ++ now⟩ :=
        Step.move (r := ⟨g, arrived, ended⟩) hmove
      rw [← List.append_assoc]
      exact .head hfirst (ih (ended ++ now))

end Winding

/-! ## Behind the back of the negotiation -/

/-- What can be done to an endpoint or to its connection. -/
inductive Deed where
  | act (a : Action)
  /-- The connection is asked for something, and not by its negotiation. -/
  | ask (r : Connection.Request)
  | assumeRemote
deriving DecidableEq, Repr

namespace Negotiation

variable {n : Negotiation}

def ask (n : Negotiation) (r : Connection.Request) : Negotiation :=
  { n with connection := (n.connection.respond r).1 }

def assumeRemote (n : Negotiation) : Negotiation :=
  { n with connection := n.connection.assumeRemoteDescription }

/-- **A closed connection gives nothing away**, whatever it is asked for. -/
theorem Shut.ask (h : Shut n) (r : Connection.Request) : Frozen n (n.ask r) := by
  by_cases hop : r.op?.isSome
  · rw [Negotiation.ask, Connection.respond_of_closed h.signaling hop]
    exact .refl n
  · cases r with
    | close =>
        have hclosed : n.connection.close.1 = n.connection := by
          rw [Connection.close, Connection.moveTo, if_pos h.signaling]
        rw [Negotiation.ask, Connection.respond, hclosed]
        exact .refl n
    | failNext | stallOffers | emit | takeEvents => exact ⟨⟨rfl, rfl, rfl, rfl, rfl⟩, rfl⟩
    | _ => exact absurd rfl hop

/-- Only the description of the other side can be made up. -/
theorem still_assumeRemote (n : Negotiation) : Still n n.assumeRemote := by
  unfold assumeRemote Connection.assumeRemoteDescription
  split <;> exact ⟨rfl, rfl, rfl, rfl, rfl⟩

end Negotiation

namespace Endpoint

open Negotiation

variable {e : Endpoint}

def undergo (e : Endpoint) : Deed → Endpoint
  | .act a => (e.act a).1
  | .ask r => e.modify (·.ask r)
  | .assumeRemote => e.modify Negotiation.assumeRemote

def undergoAll (e : Endpoint) (ds : List Deed) : Endpoint := ds.foldl undergo e

/-- A deed leaves the session closed, if it is, and keeps it shut or leaves it open. -/
theorem shut_undergo (h : e.isClosed = true → Shut e.negotiation) (d : Deed) :
    (e.undergo d).isClosed = true → Shut (e.undergo d).negotiation := by
  cases d with
  | act a => exact (e.steps_act a).shut h
  | ask r => exact fun hc => (h hc).congr ((h hc).ask r).toStill
  | assumeRemote => exact fun hc => (h hc).congr e.negotiation.still_assumeRemote

/-- After any deeds, a closed session is shut. -/
theorem shut_undergoAll (h : e.isClosed = true → Shut e.negotiation) (ds : List Deed) :
    (e.undergoAll ds).isClosed = true → Shut (e.undergoAll ds).negotiation := by
  induction ds generalizing e with
  | nil => exact h
  | cons d ds ih => exact ih (shut_undergo h d)

/-! ## After the end -/

/-- Everybody knows that the session is shut. -/
structure Over (e : Endpoint) : Prop where
  closing : e.closing = true
  shut : Shut e.negotiation

/-- No call keeps the session when all is over. -/
theorem Over.free (h : Over e) : e.holder = none := (e.atRest.told h.closing).1

/-- Whoever comes when all is over finds it closed. -/
theorem Over.submit_eq (h : Over e) (ticket : Nat) (op : Operation) :
    e.submit ticket op = (e, [(ticket, (Waiter.operation op).late)]) := by
  have hrun : op.run e.negotiation = (e.negotiation, some (Waiter.operation op).late) :=
    Waiter.run_of_closed h.shut.isClosed (.operation op)
  have hprompt := e.atRest.prompt h.free
  refine Prod.ext (Endpoint.ext ?_) ?_
  · rw [toGate_submit h.free, hrun, h.closing]
    obtain ⟨⟨n, closing, holder, waiting⟩, hrest⟩ := e
    obtain rfl : closing = true := h.closing
    obtain rfl : holder = none := h.free
    obtain rfl : waiting = [] := hprompt
    rfl
  · rw [ended_submit h.free, hrun]
    rfl

/-- Events that are taken when all is over find the session closed. -/
theorem Over.pump_snd (h : Over e) (ticket : Nat) :
    (e.pump ticket).2 = [(ticket, (Waiter.pump e.negotiation.connection.events).late)] := by
  have hc : e.negotiation.withoutEvents.session.isClosed = true := h.shut.isClosed
  obtain ⟨-, hended⟩ | ⟨hbusy, -, -⟩ := e.pump_cases ticket
  · rw [hended, Negotiation.pump, handleAll_of_closed hc]
    rfl
  · rw [isBusy, h.free] at hbusy
    cases hbusy

/-- The flag stays up. -/
theorem closing_undergo (h : Over e) (d : Deed) : (e.undergo d).closing = true := by
  have hclosing := h.closing
  cases d with
  | act a =>
      cases a with
      | submit ticket op =>
          show (e.submit ticket op).1.closing = true
          rw [h.submit_eq]
          exact hclosing
      | pump ticket =>
          show (e.pump ticket).1.closing = true
          obtain ⟨hleft, -⟩ | ⟨-, hleft, -⟩ := e.pump_cases ticket <;> rw [hleft] <;> exact hclosing
      | setMedia | failNext | stallOffers | emit | takeEvents => exact hclosing
  | ask | assumeRemote => exact hclosing

/-- Whatever is done when all is over, nothing moves but what is made up. -/
theorem Over.undergo (h : Over e) (d : Deed) :
    Over (e.undergo d) ∧ Still e.negotiation (e.undergo d).negotiation ∧
      (d ≠ .assumeRemote → Frozen e.negotiation (e.undergo d).negotiation) := by
  have hclosing := closing_undergo h d
  have hfrozen (hf : Frozen e.negotiation (e.undergo d).negotiation) :
      Over (e.undergo d) ∧ Still e.negotiation (e.undergo d).negotiation ∧
        (d ≠ .assumeRemote → Frozen e.negotiation (e.undergo d).negotiation) :=
    ⟨⟨hclosing, h.shut.congr hf.toStill⟩, hf.toStill, fun _ => hf⟩
  cases d with
  | act a => exact hfrozen ((e.steps_act a).frozen h.shut)
  | ask r => exact hfrozen (h.shut.ask r)
  | assumeRemote =>
      have hstill := e.negotiation.still_assumeRemote
      exact ⟨⟨hclosing, h.shut.congr hstill⟩, hstill, fun hne => absurd rfl hne⟩

/-- **What is over stays over.** -/
theorem Over.undergoAll (h : Over e) (ds : List Deed) :
    Over (e.undergoAll ds) ∧ Still e.negotiation (e.undergoAll ds).negotiation ∧
      (.assumeRemote ∉ ds → Frozen e.negotiation (e.undergoAll ds).negotiation) := by
  induction ds generalizing e with
  | nil => exact ⟨h, .refl _, fun _ => .refl _⟩
  | cons d ds ih =>
      obtain ⟨hover, hstill, hfrozen⟩ := h.undergo d
      obtain ⟨hlast, hstill', hfrozen'⟩ := ih hover
      refine ⟨hlast, hstill.trans hstill', fun hnone => ?_⟩
      rw [List.mem_cons, not_or] at hnone
      exact (hfrozen (Ne.symm hnone.1)).trans (hfrozen' hnone.2)

/-! ## Closing an endpoint -/

/-! ### What is left in the end -/

/-- Closing an endpoint ends what is unfinished, and then itself. -/
theorem submit_close (e : Endpoint) (ticket : Nat) :
    (e.submit ticket .close).1.toGate = { negotiation := e.outcome, closing := true } ∧
      (e.submit ticket .close).2 = e.ends ++ [(ticket, .closed (.ok ()))] := by
  cases hheld : e.holder with
  | none =>
      have hprompt := e.atRest.prompt hheld
      rw [toGate_submit hheld, ended_submit hheld]
      simp [Operation.run, Gate.outcome, Gate.ends, Waiter.closes, hheld, hprompt]
  | some holder =>
      obtain ⟨hleft, hended⟩ := submit_close_of_busy hheld ticket
      rw [hleft, hended]
      simp [Gate.outcome, Gate.ends, hheld]

/-- What is left in the end is shut. -/
theorem shut_outcome (h : e.isClosed = true → Shut e.negotiation) : Shut e.outcome := by
  unfold Gate.outcome
  split
  · refine shut_close fun hc => ?_
    rw [(h hc).dropCall_eq]
    exact h hc
  · exact shut_close h

/-- The peer and the descriptions are left in the end. -/
theorem recalls_outcome (g : Gate) : Recalls g.negotiation g.outcome := by
  unfold Gate.outcome
  split
  · exact (recalls_dropCall _).trans (recalls_close _)
  · exact recalls_close _

/-- Closing an open session lets go of its media. -/
theorem media_outcome (hopen : e.isClosed = false) : e.outcome.media = none := by
  unfold Gate.outcome
  split
  · exact media_close (n := e.negotiation.dropCall) hopen
  · exact media_close hopen

/-- What is shut already stays as it is. -/
theorem outcome_of_shut (h : Shut e.negotiation) : e.outcome = e.negotiation := by
  unfold Gate.outcome
  split
  · rw [h.dropCall_eq, close_of_closed h.isClosed]
  · rw [close_of_closed h.isClosed]

/-- **Closing is the end of everything.** At any point of a run, also while a call keeps the session
and others wait for it, closing shuts the session and lets go of the capture tracks; what is closed
already stays as it is. The call ends as closed, and so does whoever waits or joins the others
before all is over, but for those who come to close themselves: they are told that it is done. It
does not matter in which order that happens. No order gets stuck or goes on for ever, none touches
the peer or the descriptions, and each leaves what `submit` leaves. From then on every operation
finds the session closed, and nothing changes in the session or on its connection, unless the
connection is told to make up a description of the other side. -/
theorem close_ends_all (localId : ClientId) (label : String) (ds : List Deed) (ticket : Nat) :
    let e := (fresh localId label).undergoAll ds
    let closed := e.submit ticket .close
    Shut closed.1.negotiation ∧ closed.1.closing = true ∧
    (e.isClosed = false → closed.1.negotiation.media = none) ∧
    (e.isClosed = true → closed.1.negotiation = e.negotiation) ∧
    Recalls e.negotiation closed.1.negotiation ∧
    closed.1.unfinished = [] ∧ closed.2 = e.ends ++ [(ticket, .closed (.ok ()))] ∧
    Winding.Steps (.start e.toGate ticket) ⟨closed.1.toGate, [], closed.2⟩ ∧
    (∀ r, Winding.Steps (.start e.toGate ticket) r →
      Recalls e.negotiation r.gate.negotiation ∧
      (r.gate.unfinished ≠ [] → ∃ out, r.gate.Move out) ∧
      (∀ out, r.gate.Move out → out.1.unfinished.length < r.gate.unfinished.length) ∧
      (r.gate.unfinished = [] →
        r.gate = closed.1.toGate ∧ r.ended.Perm (closed.2 ++ r.turnedAway))) ∧
    ∀ later, let e' := closed.1.undergoAll later
      Still closed.1.negotiation e'.negotiation ∧
      (.assumeRemote ∉ later → Frozen closed.1.negotiation e'.negotiation) ∧
      ∀ ticket', (∀ op, e'.submit ticket' op = (e', [(ticket', (Waiter.operation op).late)])) ∧
        (e'.pump ticket').2 =
          [(ticket', (Waiter.pump e'.negotiation.connection.events).late)] := by
  intro e closed
  have hfresh : (fresh localId label).isClosed = false := rfl
  have hkept : e.isClosed = true → Shut e.negotiation :=
    shut_undergoAll (fun hc => nomatch hfresh.symm.trans hc) ds
  obtain ⟨hleft, hended⟩ : closed.1.toGate = { negotiation := e.outcome, closing := true } ∧
      closed.2 = e.ends ++ [(ticket, .closed (.ok ()))] := e.submit_close ticket
  have hnegotiation : closed.1.negotiation = e.outcome := congrArg Gate.negotiation hleft
  have hclosing : closed.1.closing = true := congrArg Gate.closing hleft
  have hover : Over closed.1 := ⟨hclosing, by rw [hnegotiation]; exact shut_outcome hkept⟩
  -- raising the flag decides everything
  have hgate := Winding.gate_start e.toGate ticket
  have hstart := Winding.sound_start e.toGate ticket
  have houtcome : (Winding.start e.toGate ticket).gate.outcome = e.outcome := by rw [hgate]; rfl
  have hends : (Winding.start e.toGate ticket).gate.ends = closed.2 := by
    rw [hgate, hended]
    simp [Gate.ends, Waiter.late, Waiter.closes]
  have hnow : (Winding.start e.toGate ticket).gate.negotiation = e.negotiation := by rw [hgate]
  refine ⟨hover.shut, hclosing, fun hopen => ?_, fun hc => ?_, ?_, ?_, hended, ?_, ?_, ?_⟩
  · rw [hnegotiation, media_outcome hopen]
  · rw [hnegotiation, outcome_of_shut (hkept hc)]
  · rw [hnegotiation]
    exact recalls_outcome e.toGate
  · rw [hleft]
    rfl
  · have hmoves := Gate.moves_settle (Winding.start e.toGate ticket).gate
    rw [← Winding.pass_close] at hmoves
    exact Winding.steps_of_moves hmoves
  · intro r hsteps
    have hr := hstart.steps hsteps
    refine ⟨hnow ▸ hr.recalls, Gate.exists_move hr.closing,
      fun _ hmove => hmove.unfinished_lt hr.closing, fun hdone => ?_⟩
    obtain ⟨hend, hall⟩ := hr.drained hdone
    rw [hend, houtcome, hleft]
    exact ⟨rfl, hends ▸ hall⟩
  · intro later e'
    obtain ⟨hlast, hstill, hfrozen⟩ := hover.undergoAll later
    exact ⟨hstill, hfrozen, fun ticket' => ⟨hlast.submit_eq ticket', hlast.pump_snd ticket'⟩⟩

/-! ## A call that hangs -/

/-- A call hangs, and a message, an event and another call wait behind it. -/
def hangingCall : List Deed :=
  [.act (.setMedia (some ⟨[⟨"audio/opus", "t", "s"⟩]⟩)), .act (.stallOffers true),
    .act (.submit 0 (.call ⟨"b"⟩)),
    .act (.submit 1
      (.receive (.signal ⟨.offer, ⟨"b"⟩, ⟨"a"⟩, (⟨.offer, "v=0"⟩ : Description).payload⟩))),
    .act (.submit 2 (.handle (.iceChanged .failed))), .act (.submit 3 (.call ⟨"c"⟩))]

/-- All of them end, the session is shut, and one who comes later finds it closed. -/
theorem close_ends_hangingCall :
    let e := (fresh ⟨"a"⟩ "A").undergoAll hangingCall
    e.isClosed = false ∧ e.isBusy = true ∧
      (e.submit 4 .close).2 =
        [(0, .called (.error .closed)), (1, .received (.error .closed)),
          (2, .handled (.error .closed)), (3, .called (.error .closed)), (4, .closed (.ok ()))] ∧
      Shut (e.submit 4 .close).1.negotiation ∧ (e.submit 4 .close).1.negotiation.media = none ∧
      ((e.submit 4 .close).1.submit 5 .resetPeer).2 = [(5, .released (.error .closed))] := by
  intro e
  have hopen : e.isClosed = false := by cbv
  obtain ⟨hshut, -, hmedia, -, -, -, hended, -, -, hlater⟩ :=
    close_ends_all ⟨"a"⟩ "A" hangingCall 4
  refine ⟨hopen, by cbv, ?_, hshut, hmedia hopen, ?_⟩
  · rw [hended]
    cbv
  · exact congrArg Prod.snd (((hlater []).2.2 5).1 .resetPeer)

/-! ## What closing does not do -/

/-- Closing lets go of the capture tracks only once: those that are set on a closed endpoint stay
there when it is closed again. And the connection of a closed endpoint can still be told to make up
a description of the other side. -/
theorem close_keeps_lateMedia :
    let closed := ((fresh ⟨"a"⟩ "A").submit 0 .close).1
    let late := (closed.act (.setMedia (some ⟨[⟨"audio/opus", "t", "s"⟩]⟩))).1
    let again := late.submit 1 .close
    let told := closed.undergo .assumeRemote
    again.2 = [(1, .closed (.ok ()))] ∧ again.1.negotiation.liveMedia?.isSome ∧
      closed.negotiation.connection.remoteDescription = none ∧
      told.negotiation.connection.remoteDescription = some ⟨.offer, "v=0 assumed"⟩ := by
  refine ⟨?_, ?_, ?_, ?_⟩ <;> cbv

end Endpoint

end Switchboard
