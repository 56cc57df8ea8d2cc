import Switchboard.Proofs.Call.Candidates
import Switchboard.Proofs.Call.Recovery

/-!
# Rejected operations

An operation is turned down for what it is: a call without media, a payload that cannot be read. Or
its outcome says that there was nothing to do: an answer to no offer of ours, an offer that crosses
ours while ours stands, a welcome. All that is decided before anything is changed, with one
exception. Whether our own offer stands can be up to the connection, which is asked to roll it back;
what it refuses then uses up the failure that it was told of, and nothing else.

The main statement is `rejection_changes_nothing`.
-/

namespace Switchboard

/-- The operation was turned down for what it is. -/
def NegotiationError.IsRejection : NegotiationError → Prop
  | .preconditionFailed _ | .malformed _ => True
  | .failure _ | .closed => False

/-- The message gave nothing to do. -/
def RemoteOutcome.IsRejection : RemoteOutcome → Prop
  | .staleAnswer | .glare | .ignored => True
  | .reply _ | .answerApplied | .candidateApplied | .candidateBuffered => False

/-- The operation was rejected; of reported events, that one of them was. -/
def Completion.IsRejection : Completion → Prop
  | .called (.error e) | .received (.error e) | .handled (.error e) | .released (.error e)
  | .closed (.error e) => e.IsRejection
  | .received (.ok outcome) => outcome.IsRejection
  | .pumped events => ∃ h ∈ events, ∃ e, h.2 = .error e ∧ e.IsRejection
  | .called (.ok _) | .handled (.ok _) | .released (.ok _) | .closed (.ok _) => False

namespace Negotiation

variable {n : Negotiation} {α : Type}

/-! ## What the connection refuses is no rejection -/

/-! ### Refusals -/

/-- What the connection refuses was begun already. -/
theorem Refused.not_isRejection {e : NegotiationError} (h : Refused e) : ¬e.IsRejection := by
  obtain ⟨cause, rfl⟩ := h
  exact id

/-- If the attempt fails, the connection has refused a stage of it. -/
abbrev FailsByRefusal (r : Attempt α) : Prop := Leaves (fun e _ => Refused e) (fun _ _ => True) r

/-- The connection is the only one that refuses it. -/
theorem failsByRefusal_onConnection (n : Negotiation) (op : Connection → Connection.Attempt α) :
    FailsByRefusal (n.onConnection op) := by
  rcases hr : op n.connection with ⟨c, e | a⟩ <;> rw [onConnection_eq op hr]
  · exact ⟨e, rfl⟩
  · trivial

theorem failsByRefusal_attachTracks (n : Negotiation) (m : MediaSet) :
    FailsByRefusal (n.attachTracks m) := by
  rcases hr : n.attachTracks m with ⟨n', e | ⟨⟩⟩
  · exact refused_attachTracks hr
  · trivial

theorem failsByRefusal_attachLiveMedia (n : Negotiation) : FailsByRefusal n.attachLiveMedia := by
  unfold attachLiveMedia
  split
  · trivial
  · exact n.failsByRefusal_attachTracks _

/-- An offer that was made fails on its way only if the connection refuses it. -/
theorem failsByRefusal_sendOffer (n : Negotiation) (peer : ClientId) (offer : Description) :
    FailsByRefusal (n.sendOffer peer offer) := by
  rw [sendOffer_eq]
  apply (n.failsByRefusal_onConnection _).andThen
  intro _ m _
  trivial

/-- An offer that is taken up fails only if the connection refuses a stage of the answer. -/
theorem failsByRefusal_answerOffer (n : Negotiation) (sender : ClientId) (offer : Description) :
    FailsByRefusal (n.answerOffer sender offer) := by
  rw [answerOffer_eq]
  apply n.failsByRefusal_attachLiveMedia.andThen
  intro _ m _
  apply (m.failsByRefusal_onConnection _).andThen
  intro _ m _
  unfold answerPending
  apply (failsByRefusal_onConnection _ _).andThen
  intro answer m _
  apply (m.failsByRefusal_onConnection _).andThen
  intro _ m _
  trivial

/-- What is given up keeps its cause. -/
theorem FailsByRefusal.orAbandon {r : Attempt α} (h : FailsByRefusal r) :
    FailsByRefusal (orAbandon r) :=
  Leaves.orAbandon h fun _ _ hrefused => hrefused

/-! ## Messages -/

/-- Where the attempt is a rejection, it leaves `n` as it was, unless a rollback that was made to
fail has kept an own offer in place. -/
def Rejects (n : Negotiation) (r : Attempt RemoteOutcome) : Prop :=
  Leaves (fun e m => e.IsRejection → m = n)
    (fun outcome m => outcome.IsRejection → m = n ∨
      outcome = .glare ∧ .rollback ∈ n.connection.armed ∧
        m = { n with connection := n.connection.disarm .rollback }) r

/-- The attempt is no rejection: it does something, or the connection refuses a stage of it. -/
abbrev Acts (r : Attempt RemoteOutcome) : Prop :=
  Leaves (fun e _ => Refused e) (fun outcome _ => ¬outcome.IsRejection) r

/-- What goes ahead is never rejected. -/
theorem Acts.rejects {r : Attempt RemoteOutcome} (h : Acts r) : Rejects n r := by
  obtain ⟨m, e | outcome⟩ := r
  · intro hrejected
    exact absurd hrejected (Refused.not_isRejection h)
  · intro hrejected
    exact absurd hrejected h

/-- An offer that is taken up is answered, or the connection refuses it. -/
theorem acts_takeOffer (n : Negotiation) (sender : ClientId) (offer : Description) :
    Acts (n.takeOffer sender offer) := by
  rw [takeOffer_eq]
  have hanswer := failsByRefusal_answerOffer
    (n.onSession fun s => { s.adoptPeer sender with negotiating := true }) sender offer
  apply hanswer.orAbandon.andThen
  intro answer m _
  exact id

/-- **A crossing offer** that ours stands against changes nothing. -/
theorem rejects_receiveOffer (n : Negotiation) (sender : ClientId) (offer : Description) :
    Rejects n (n.receiveOffer sender offer) := by
  unfold receiveOffer
  split
  · split
    · unfold withdraw
      rcases hr : n.connection.rollback with ⟨c, e | ⟨⟩⟩
      · intro _
        obtain rfl | ⟨harmed, rfl⟩ := Connection.of_rollback_eq_error hr
        · exact .inl rfl
        · exact .inr ⟨rfl, harmed, rfl⟩
      · exact (acts_takeOffer _ sender offer).rejects
    · exact fun _ => .inl rfl
  · exact (n.acts_takeOffer sender offer).rejects

/-- An answer that can be read goes ahead. -/
theorem acts_applyAnswer (n : Negotiation) (answer : Description) : Acts (n.applyAnswer answer) := by
  rw [applyAnswer_eq]
  have hremote := n.failsByRefusal_onConnection (·.setRemoteDescription answer)
  apply hremote.orAbandon.andThen
  intro _ m _
  exact id

/-- A candidate that can be read goes ahead. -/
theorem acts_receiveCandidate (n : Negotiation) (x : Candidate) : Acts (n.receiveCandidate x) := by
  unfold receiveCandidate
  split
  · exact id
  · have hadd := n.failsByRefusal_onConnection (·.addCandidate x)
    rcases hr : n.onConnection (·.addCandidate x) with ⟨m, e | ⟨⟩⟩ <;> rw [hr] at hadd
    · exact hadd
    · exact id

/-! ### Whole messages -/

/-- **A message that is rejected** changes nothing, whatever it is and whatever state it meets. -/
theorem rejects_receive (n : Negotiation) (m : Message) : Rejects n (n.receive m) := by
  have hreceives := n.receives m
  generalize n.receive m = r at hreceives ⊢
  cases hreceives with
  | nothing hr =>
      cases hr with
      | closed | malformed => exact fun _ => rfl
      | ignored | staleAnswer => exact fun _ => .inl rfl
  | offer => exact n.rejects_receiveOffer _ _
  | answer => exact (n.acts_applyAnswer _).rejects
  | candidate => exact (n.acts_receiveCandidate _).rejects

/-! ## The other operations -/

/-! ### Calls and releases -/

/-- **A call** is rejected before it attaches a track. -/
theorem startCall_rejected {peer : ClientId} {e : NegotiationError}
    (hr : (n.startCall peer).2 = .finished (.error e)) (hrejected : e.IsRejection) :
    (n.startCall peer).1 = n := by
  obtain ⟨cause, hstart, -⟩ | ⟨hopen, hcall⟩ := n.startCall_turnedDown_or peer
  · rw [hstart]
  obtain ⟨m, cause, ha, hstart⟩ | ⟨m, -, ⟨-, hstart⟩ | ⟨c, cause, -, hstart⟩ | ⟨-, hstart⟩⟩ :=
    n.startCall_cases hopen hcall <;> rw [hstart] at hr
  · cases hr
    -- past the checks a call fails only because the connection refuses
    exact absurd hrejected (refused_attachTracks ha).not_isRejection
  · cases hr
  · cases hr
    exact absurd hrejected id
  · have hsent := (failsByRefusal_sendOffer { m with connection :=
      { m.connection with offersCreated := m.connection.offersCreated + 1 } } peer
        m.connection.nextOffer).orAbandon
    generalize orAbandon _ = r at hr hsent
    obtain ⟨m', cause | offer⟩ := r
    · cases hr
      exact absurd hrejected (Refused.not_isRejection hsent)
    · cases hr

/-- A peer that is not released is still there. -/
theorem resetPeer_rejected {e : NegotiationError} (hr : n.resetPeer.2 = .error e) :
    n.resetPeer.1 = n := by
  unfold resetPeer at hr ⊢
  split
  · rfl
  · next hopen =>
      rw [if_neg hopen] at hr
      split
      · rfl
      · next hrest =>
          rw [if_neg hrest] at hr
          cases hr

/-- An event is handled unless the session is closed. -/
theorem handle_error_eq_closed {event : ConnectionEvent} {e : NegotiationError}
    (hr : (n.handle event).2 = .error e) : e = .closed := by
  unfold handle at hr
  split at hr
  · exact (Except.error.inj hr).symm
  · cases event <;> cases hr

/-- Only a closed session rejects events. -/
theorem handleAll_error_eq_closed {events : List ConnectionEvent} {h : HandledEvent}
    (hh : h ∈ (n.handleAll events).2) {e : NegotiationError} (hr : h.2 = .error e) :
    e = .closed := by
  induction events generalizing n with
  | nil => cases hh
  | cons event events ih =>
      obtain rfl | hh := List.mem_cons.mp hh
      · exact handle_error_eq_closed hr
      · exact ih hh

/-! ### Any operation -/

/-- **One operation.** If it is rejected, it has changed nothing, or a rollback that was made to
fail has kept an own offer in place. -/
theorem run_rejected {op : Operation} {c : Completion} (hr : (op.run n).2 = some c)
    (hrejected : c.IsRejection) :
    (op.run n).1 = n ∨
      c = .received (.ok .glare) ∧ .rollback ∈ n.connection.armed ∧
        (op.run n).1 = { n with connection := n.connection.disarm .rollback } := by
  cases op with
  | call peer =>
      left
      simp only [Operation.run] at hr ⊢
      rcases hcall : n.startCall peer with ⟨m, (e | offer) | _⟩ <;> rw [hcall] at hr <;> cases hr
      · have hsame := startCall_rejected (congrArg Prod.snd hcall) hrejected
        rw [hcall] at hsame
        exact hsame
      · cases hrejected
  | receive m =>
      have hreceive := n.rejects_receive m
      simp only [Operation.run, Option.some.injEq] at hr ⊢
      subst hr
      rcases hm : n.receive m with ⟨n', e | outcome⟩ <;> rw [hm] at hreceive hrejected
      · exact .inl (hreceive hrejected)
      · obtain hsame | ⟨rfl, hkept⟩ := hreceive hrejected
        · exact .inl hsame
        · exact .inr ⟨rfl, hkept⟩
  | handle event =>
      simp only [Operation.run, Option.some.injEq] at hr
      subst hr
      rcases hhandle : (n.handle event).2 with e | r <;> rw [hhandle] at hrejected
      · -- events are turned away by a closed session only, which is no rejection
        rw [handle_error_eq_closed hhandle] at hrejected
        cases hrejected
      · cases hrejected
  | resetPeer =>
      left
      simp only [Operation.run, Option.some.injEq] at hr ⊢
      subst hr
      rcases hreset : n.resetPeer.2 with e | r <;> rw [hreset] at hrejected
      · exact resetPeer_rejected hreset
      · cases hrejected
  | close =>
      cases hr
      simp [Completion.IsRejection] at hrejected

end Negotiation

namespace Endpoint

open Negotiation

variable {e : Endpoint}

/-- Who finds the session closed was not rejected. -/
theorem not_isRejection_late (w : Waiter) : ¬w.late.IsRejection := by
  cases w with
  | operation op => cases op <;> exact id
  | pump taken =>
      rintro ⟨h, hh, cause, hcause, hrejected⟩
      obtain ⟨event, -, rfl⟩ := List.mem_map.mp hh
      cases hcause
      exact hrejected

/-! ## The whole endpoint -/

/-- **Rejections change nothing.** Take a side in any state, and any action by which something ends
that was rejected: a precondition was not met, a payload could not be read, an answer came to no
offer, an offer crossed one that stands, or there was nothing in the message for a session. Then the
session, its connection with the events that it has reported, the media and those who wait are as
they were before. The one exception is a crossing offer that ours would have given way to: if the
connection was told to refuse the rollback, that failure is used up. -/
theorem rejection_changes_nothing (e : Endpoint) (a : Action) :
    ∀ ended ∈ (e.act a).2, ended.2.IsRejection →
      (e.act a).1 = e ∨
        ended.2 = .received (.ok .glare) ∧ .rollback ∈ e.negotiation.connection.armed ∧
          (e.act a).1 =
            e.modify fun n => { n with connection := n.connection.disarm .rollback } := by
  intro r hr hrejected
  cases a with
  | submit ticket op =>
      cases hheld : e.holder with
      | none =>
          -- the one answer is what the operation itself came to
          rw [act, ended_submit hheld] at hr
          rcases hrun : op.run e.negotiation with ⟨n, _ | c⟩ <;> rw [hrun] at hr
          · cases hr
          · obtain rfl := List.mem_singleton.mp hr
            have hop : op ≠ .close := by
              rintro rfl
              cases hrun
              simp [Completion.IsRejection] at hrejected
            have hleft := (submit_of_done hheld hop hrun ticket).1
            have hsession := run_rejected (congrArg Prod.snd hrun) hrejected
            simp only [hrun] at hsession
            obtain hsame | ⟨hglare, harmed, hspent⟩ := hsession
            · rw [hsame] at hleft
              exact .inl (Endpoint.ext hleft)
            · rw [hspent] at hleft
              exact .inr ⟨hglare, harmed, Endpoint.ext hleft⟩
      | some holder =>
          -- who is turned away for a holder is told that the session is closed
          obtain ⟨-, w, hw⟩ := late_of_busy hheld hr
          rw [hw] at hrejected
          exact absurd hrejected (not_isRejection_late w)
  | pump ticket =>
      obtain ⟨-, hended⟩ | ⟨-, -, hended⟩ := e.pump_cases ticket <;>
        simp only [act, hended] at hr
      · obtain rfl := List.mem_singleton.mp hr
        obtain ⟨h, hh, cause, hcause, hrejected⟩ := hrejected
        rw [handleAll_error_eq_closed hh hcause] at hrejected
        cases hrejected
      · cases hr
  | _ => cases hr

/-- A call that is not answered yet, with an offer that is not to be rolled back. -/
def heldOffer : List Action :=
  [.setMedia (some ⟨[⟨"audio/opus", "t", "s"⟩]⟩), .submit 0 (.call ⟨"b"⟩), .failNext .rollback]

/-- Our id is the lower one, so that we would give way to the offer of `b`. The rollback fails and
our offer stands; apart from the failure, all is as it was. -/
theorem rejection_changes_nothing_heldOffer :
    let e := (fresh ⟨"a"⟩ "A").after heldOffer
    let r := e.act (.submit 1
      (.receive (.signal ⟨.offer, ⟨"b"⟩, ⟨"a"⟩, (⟨.offer, "v=0 b"⟩ : Description).payload⟩)))
    r.2 = [(1, .received (.ok .glare))] ∧ e.negotiation.session.negotiating = true ∧
      e.negotiation.connection.armed = [.rollback] ∧
      r.1 = e.modify fun n => { n with connection := n.connection.disarm .rollback } := by
  intro e r
  have hended : r.2 = [(1, .received (.ok .glare))] := by cbv
  have harmed : e.negotiation.connection.armed = [.rollback] := by cbv
  have hspent : r.1.negotiation.connection.armed = [] := by cbv
  refine ⟨hended, by cbv, harmed, ?_⟩
  obtain hsame | ⟨-, -, hleft⟩ := rejection_changes_nothing e _ (1, .received (.ok .glare))
    (by rw [hended]; exact .head _) trivial
  · rw [show r.1 = e from hsame, harmed] at hspent
    cases hspent
  · exact hleft

end Endpoint

end Switchboard
