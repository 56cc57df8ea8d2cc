import Switchboard.Call.Gate

/-!
# One side of a call

An endpoint is a gate at which nothing is left to do. What is done to it may make others go on, so
that more than one operation may end by it.

Where the session is free, an operation is simply done. Where a call keeps it, an operation waits
(`submit_of_busy`), unless it closes: then everything ends (`submit_close_of_busy`).
-/

namespace Switchboard

/-! ## Gates at rest -/

/-- Nobody waits for a session that is free, and a flag that is raised was seen by everybody. -/
structure Gate.AtRest (g : Gate) : Prop where
  prompt : g.holder = none → g.waiting = []
  told : g.closing = true → g.holder = none ∧ g.negotiation.session.isClosed = true

namespace Gate

variable {g : Gate} {holder : Nat} {w : Waiter}

/-- Somebody comes to the gate, and then everybody goes on who can. -/
def pass (g : Gate) (ticket : Nat) (w : Waiter) : Gate × List Ended :=
  let (g, now) := g.arrive ticket w
  let (g, later) := g.settle
  (g, now ++ later)

/-- A call that keeps the session would have given it up under a raised flag. -/
theorem AtRest.open_of_held (h : g.AtRest) (hheld : g.holder = some holder) :
    g.closing = false := by
  cases hc : g.closing with
  | false => rfl
  | true =>
    have hfree := (h.told hc).1
    rw [hheld] at hfree
    cases hfree

/-! ### Passing a gate at rest -/

/-- At a session that is free, whoever comes is done at once, or keeps it. -/
theorem AtRest.pass_of_free (h : g.AtRest) (hfree : g.holder = none) (ticket : Nat) (w : Waiter) :
    g.pass ticket w =
      ({ negotiation := (w.run g.negotiation).1
         closing := g.closing || w.closes
         holder := if (w.run g.negotiation).2.isSome then none else some ticket },
        ((w.run g.negotiation).2.map fun c => (ticket, c)).toList) := by
  have hprompt := h.prompt hfree
  have htold := h.told
  obtain ⟨n, closing, holder, waiting⟩ := g
  subst hfree hprompt
  cases hlook : barred? ⟨n, closing, none, []⟩ w with
  | none =>
    -- the flag that it may have raised itself does not keep it out
    have hagain : barred? ⟨n, closing || w.closes, none, []⟩ w = none := by
      revert hlook
      cases closing <;> cases hw : w.closes <;> simp [barred?, hw]
    rcases hrun : w.run n with ⟨n', _ | c⟩ <;>
      simp [pass, arrive, settle, giveUp, drain, letIn, hlook, hagain, hrun]
  | some e =>
    -- the flag was raised before, and the session says the same
    obtain ⟨rfl, hw, rfl⟩ := barred?_eq_some hlook
    rw [Waiter.run_of_closed (htold rfl).2]
    simp [pass, arrive, settle, giveUp, drain, hlook, hw, Waiter.late]

/-- While a call keeps the session, whoever comes waits. -/
theorem AtRest.pass_of_held (h : g.AtRest) (hheld : g.holder = some holder)
    (hw : w.closes = false) (ticket : Nat) :
    g.pass ticket w = ({ g with waiting := g.waiting ++ [(ticket, w)] }, []) := by
  have hopen := h.open_of_held hheld
  obtain ⟨n, closing, holder, waiting⟩ := g
  subst hheld hopen
  simp [pass, arrive, settle, giveUp, barred?, hw, drain_of_held]

/-- Whoever comes to close ends the call that keeps the session, and all that wait behind it. -/
theorem AtRest.pass_closes_of_held (h : g.AtRest) (hheld : g.holder = some holder)
    (hw : w.closes = true) (ticket : Nat) :
    g.pass ticket w =
      ({ negotiation := g.negotiation.dropCall.close.1, closing := true },
        (holder, .called (.error .closed)) :: (g.waiting ++ [(ticket, w)]).map fun w =>
          (w.1, w.2.late)) := by
  have hopen := h.open_of_held hheld
  obtain ⟨n, closing, holder, waiting⟩ := g
  subst hheld hopen
  simp [pass, arrive, settle, giveUp, barred?, hw, drain_of_closing]

/-- Somebody who passes leaves a gate at which nothing is left to do. -/
theorem AtRest.pass (h : g.AtRest) (ticket : Nat) (w : Waiter) : (g.pass ticket w).1.AtRest := by
  cases hheld : g.holder with
  | none =>
    rw [h.pass_of_free hheld]
    refine ⟨fun _ => rfl, fun hc => ?_⟩
    cases hw : w.closes with
    | false =>
      rw [Bool.or_eq_true] at hc
      have hclosed := (h.told (by simpa [hw] using hc)).2
      simp [Waiter.run_of_closed hclosed, hclosed]
    | true =>
      obtain rfl := Waiter.eq_close_of_closes hw
      exact ⟨rfl, Negotiation.isClosed_close _⟩
  | some holder =>
    cases hw : w.closes with
    | false =>
      rw [h.pass_of_held hheld hw]
      refine ⟨fun hfree => ?_, h.told⟩
      rw [hheld] at hfree
      cases hfree
    | true =>
      rw [h.pass_closes_of_held hheld hw]
      exact ⟨fun _ => rfl, fun _ => ⟨rfl, Negotiation.isClosed_close _⟩⟩

/-- What is done without the session does not call for anybody. -/
theorem AtRest.modify (h : g.AtRest) {f : Negotiation → Negotiation}
    (hf : ∀ n, (f n).session = n.session) :
    AtRest { g with negotiation := f g.negotiation } where
  prompt := h.prompt
  told hc := ⟨(h.told hc).1, (congrArg Session.isClosed (hf _)).trans (h.told hc).2⟩

end Gate

/-! ## Endpoints -/

/-- A negotiation with those who wait for a call to give up its session. -/
structure Endpoint extends Gate where
  atRest : toGate.AtRest := by exact ⟨fun _ => rfl, nofun⟩
deriving DecidableEq, Repr

namespace Endpoint

variable {e e' : Endpoint} {holder ticket : Nat} {op : Operation}

/-! ### What can be done -/

def isBusy (e : Endpoint) : Bool := e.holder.isSome

def isClosed (e : Endpoint) : Bool := e.negotiation.session.isClosed

/-- Somebody comes who needs the session. Returns what ends by it, in order. An operation that is
not the first to end has had to wait. -/
def enter (e : Endpoint) (ticket : Nat) (w : Waiter) : Endpoint × List Ended :=
  ({ toGate := (e.pass ticket w).1, atRest := e.atRest.pass ticket w }, (e.pass ticket w).2)

def submit (e : Endpoint) (ticket : Nat) (op : Operation) : Endpoint × List Ended :=
  e.enter ticket (.operation op)

/-- Change the negotiation without its session: its media, or the connection by itself. -/
def modify (e : Endpoint) (f : Negotiation → Negotiation)
    (hf : ∀ n, (f n).session = n.session := by exact fun _ => rfl) : Endpoint :=
  { e with negotiation := f e.negotiation, atRest := e.atRest.modify hf }

def takeEvents (e : Endpoint) : Endpoint := e.modify Negotiation.withoutEvents

/-- Take the reported events and handle them, or wait with them. Nobody waits with none. -/
def pump (e : Endpoint) (ticket : Nat) : Endpoint × List Ended :=
  let taken := e.negotiation.connection.events
  if taken.isEmpty then (e.takeEvents, [(ticket, .pumped [])])
  else e.takeEvents.enter ticket (.pump taken)

theorem ext (h : e.toGate = e'.toGate) : e = e' := by
  cases e
  cases e'
  cases h
  rfl

/-! ### What an operation does -/

/-- On a free session an operation is done at once, or keeps it. -/
theorem toGate_submit (hfree : e.holder = none) (ticket : Nat) (op : Operation) :
    (e.submit ticket op).1.toGate =
      { negotiation := (op.run e.negotiation).1
        closing := e.closing || Waiter.closes (.operation op)
        holder := if (op.run e.negotiation).2.isSome then none else some ticket } :=
  congrArg Prod.fst (e.atRest.pass_of_free hfree ticket (.operation op))

theorem negotiation_submit (hfree : e.holder = none) (ticket : Nat) (op : Operation) :
    (e.submit ticket op).1.negotiation = (op.run e.negotiation).1 :=
  congrArg Gate.negotiation (toGate_submit hfree ticket op)

theorem ended_submit (hfree : e.holder = none) (ticket : Nat) (op : Operation) :
    (e.submit ticket op).2 = ((op.run e.negotiation).2.map fun c => (ticket, c)).toList :=
  congrArg Prod.snd (e.atRest.pass_of_free hfree ticket (.operation op))

/-- An operation that is done at once changes nothing but the negotiation, unless it closes. -/
theorem submit_of_done (hfree : e.holder = none) (hop : op ≠ .close) {n : Negotiation}
    {c : Completion} (hrun : op.run e.negotiation = (n, some c)) (ticket : Nat) :
    (e.submit ticket op).1.toGate = { e.toGate with negotiation := n } ∧
      (e.submit ticket op).2 = [(ticket, c)] := by
  have hcloses : (Waiter.operation op).closes = false := by cases op <;> simp_all [Waiter.closes]
  have hprompt := e.atRest.prompt hfree
  rw [toGate_submit hfree, ended_submit hfree, hrun]
  obtain ⟨⟨n, closing, holder, waiting⟩, hrest⟩ := e
  obtain rfl : holder = none := hfree
  obtain rfl : waiting = [] := hprompt
  simp [hcloses]

theorem submit_eq_of_done (hfree : e.holder = none) (hop : op ≠ .close) {c : Completion}
    (hrun : op.run e.negotiation = (e'.negotiation, some c))
    (hsame : e'.toGate = { e.toGate with negotiation := e'.negotiation }) (ticket : Nat) :
    e.submit ticket op = (e', [(ticket, c)]) := by
  obtain ⟨hleft, hended⟩ := submit_of_done hfree hop hrun ticket
  exact Prod.ext (Endpoint.ext (hleft.trans hsame.symm)) hended

/-- An operation that does not close waits for a session that is kept. -/
theorem submit_of_busy (hheld : e.holder = some holder) (hop : op ≠ .close) (ticket : Nat) :
    (e.submit ticket op).1.toGate =
        { e.toGate with waiting := e.waiting ++ [(ticket, .operation op)] } ∧
      (e.submit ticket op).2 = [] := by
  have hw : (Waiter.operation op).closes = false := by cases op <;> simp_all [Waiter.closes]
  exact Prod.ext_iff.mp (e.atRest.pass_of_held hheld hw ticket)

/-- Closing ends the call that keeps the session, then all that wait, then itself. -/
theorem submit_close_of_busy (hheld : e.holder = some holder) (ticket : Nat) :
    (e.submit ticket .close).1.toGate =
        { negotiation := e.negotiation.dropCall.close.1, closing := true } ∧
      (e.submit ticket .close).2 =
        (holder, .called (.error .closed)) ::
          e.waiting.map (fun w => (w.1, w.2.late)) ++ [(ticket, .closed (.ok ()))] := by
  have hpass := Prod.ext_iff.mp (e.atRest.pass_closes_of_held hheld
    (w := .operation .close) rfl ticket)
  simpa [submit, enter, Waiter.late, Waiter.closes] using hpass

/-- **Closing closes**, whoever is at the gate. -/
theorem isClosed_submit_close (e : Endpoint) (ticket : Nat) :
    (e.submit ticket .close).1.isClosed = true := by
  unfold isClosed
  cases hheld : e.holder with
  | none =>
    rw [negotiation_submit hheld]
    exact Negotiation.isClosed_close _
  | some holder =>
    rw [(submit_close_of_busy hheld ticket).1]
    exact Negotiation.isClosed_close _

/-- An operation that leaves the session open has been done, or waits. -/
theorem submit_cases_of_open (hopen : (e.submit ticket op).1.isClosed = false) :
    op ≠ .close ∧
      (e.holder = none ∧ (e.submit ticket op).1.negotiation = (op.run e.negotiation).1 ∧
          (e.submit ticket op).2 = ((op.run e.negotiation).2.map fun c => (ticket, c)).toList ∨
        (e.submit ticket op).1.negotiation = e.negotiation ∧ (e.submit ticket op).2 = []) := by
  have hop : op ≠ .close := by
    rintro rfl
    exact nomatch hopen.symm.trans (e.isClosed_submit_close ticket)
  refine ⟨hop, ?_⟩
  cases hheld : e.holder with
  | none => exact .inl ⟨rfl, negotiation_submit hheld ticket op, ended_submit hheld ticket op⟩
  | some holder =>
    obtain ⟨hleft, hended⟩ := submit_of_busy hheld hop ticket
    exact .inr ⟨by rw [hleft], hended⟩

/-- What ends while a call keeps the session ends because the session is closed. -/
theorem late_of_busy (hheld : e.holder = some holder) {r : Ended}
    (hr : r ∈ (e.submit ticket op).2) : op = .close ∧ ∃ w : Waiter, r.2 = w.late := by
  by_cases hop : op = .close
  · subst hop
    rw [(submit_close_of_busy hheld ticket).2] at hr
    simp only [List.cons_append, List.mem_cons, List.mem_append, List.mem_map, List.not_mem_nil,
      or_false] at hr
    refine ⟨rfl, ?_⟩
    obtain rfl | ⟨w, -, rfl⟩ | rfl := hr
    · exact ⟨.operation (.call ⟨""⟩), rfl⟩
    · exact ⟨w.2, rfl⟩
    · exact ⟨.operation .close, rfl⟩
  · rw [(submit_of_busy hheld hop ticket).2] at hr
    cases hr

/-- The events are handled, or they wait for a call to give up the session. -/
theorem pump_cases (e : Endpoint) (ticket : Nat) :
    ((e.pump ticket).1.toGate = { e.toGate with negotiation := e.negotiation.pump.1 } ∧
        (e.pump ticket).2 = [(ticket, .pumped e.negotiation.pump.2)]) ∨
      e.isBusy = true ∧
        (e.pump ticket).1.toGate =
          { e.toGate with
            negotiation := e.negotiation.withoutEvents
            waiting := e.waiting ++ [(ticket, .pump e.negotiation.connection.events)] } ∧
        (e.pump ticket).2 = [] := by
  let e' := e.takeEvents
  cases hnone : e.negotiation.connection.events with
  | nil =>
    left
    simp [pump, hnone, Negotiation.pump, Negotiation.handleAll, takeEvents, modify]
  | cons event events =>
    have htaken : e.pump ticket = e'.enter ticket (.pump (event :: events)) := by
      simp [pump, hnone, e']
    rw [htaken]
    cases hheld : e.holder with
    | none =>
      left
      have hpass := Prod.ext_iff.mp
        (e'.atRest.pass_of_free hheld ticket (.pump (event :: events)))
      have hprompt := e.atRest.prompt hheld
      simpa [enter, e', takeEvents, modify, Waiter.run, Waiter.closes, Negotiation.pump, hnone, hheld,
        hprompt] using hpass
    | some holder =>
      right
      have hpass := Prod.ext_iff.mp
        (e'.atRest.pass_of_held hheld (w := .pump (event :: events)) rfl ticket)
      exact ⟨by rw [isBusy, hheld]; rfl, hpass⟩

/-- The events are handled, or at least taken. -/
theorem negotiation_pump (e : Endpoint) (ticket : Nat) :
    (e.pump ticket).1.negotiation = e.negotiation.pump.1 ∨
      (e.pump ticket).1.negotiation = e.negotiation.withoutEvents :=
  (e.pump_cases ticket).imp (fun h => congrArg Gate.negotiation h.1)
    fun h => congrArg Gate.negotiation h.2.1

end Endpoint

end Switchboard
