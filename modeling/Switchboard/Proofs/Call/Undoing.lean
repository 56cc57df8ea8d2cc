import Switchboard.Proofs.Call.Candidates
import Switchboard.Proofs.Call.Coherence
import Switchboard.Proofs.Call.Recovery

/-!
# A failed first exchange is undone

There are many places where a first exchange can fail: while tracks are attached, when a description
is made or applied, after an own offer was withdrawn for a crossing one, or over an offer that an
earlier failure has left pending. Wherever it fails, what is left can still be rolled back
(`Undoable`), and giving up leaves nothing of it (`Undoable.abandon`): the session is idle again
over a connection without descriptions and candidates.

The main statement is `first_exchange_undone`.
-/

namespace Switchboard

namespace Negotiation

variable {n : Negotiation} {p : Option ClientId} {α : Type}

structure Pristine (n : Negotiation) : Prop where
  signaling : n.connection.signaling = .stable
  localDescription : n.connection.localDescription = none
  remoteDescription : n.connection.remoteDescription = none
  candidates : n.connection.candidates = []
  state : n.session.state = .idle
  negotiating : n.session.negotiating = false

/-- What there is of a first exchange can be rolled back. The adopted peer is `p`. -/
structure Undoable (p : Option ClientId) (n : Negotiation) : Prop extends Aligned n where
  coherent : n.connection.Coherent
  first : n.connection.established = false
  unarmed : .rollback ∉ n.connection.armed
  peer : n.session.peer = p

/-! ## Giving up -/

/-- **Giving up a first exchange leaves nothing of it.** -/
theorem Undoable.abandon (h : Undoable p n) :
    Pristine n.abandon ∧ n.abandon.session.peer = p := by
  have hest : n.session.established = false := h.established.trans h.first
  rcases hs : n.connection.signaling.isStable with _ | _
  · -- an offer is pending, and the rollback takes everything
    have hopen : n.connection.signaling ≠ .closed := by
      rcases h.signaling with hs | hs | hs <;> simp [hs]
    have hr := Connection.rollback_of_ready ⟨hopen, h.unarmed⟩ hs h.first
    have habandon : n.abandon =
        { n with
          connection := { n.connection with
            signaling := .stable, localDescription := none, remoteDescription := none
            candidates := [], tracks := [] }
          session := { n.session with
            negotiating := false, localStreamAttached := false, state := .idle } } := by
      simp [Negotiation.abandon, Negotiation.undo, onSession, noteTracks, hs, hr, stateAfter,
        Session.restingState, hest]
    rw [habandon]
    exact ⟨⟨rfl, rfl, rfl, rfl, rfl, rfl⟩, h.peer⟩
  · -- nothing has been applied yet
    have hstable : n.connection.signaling = .stable := by
      rcases h.signaling with hsig | hsig | hsig
      · exact hsig
      all_goals rw [hsig] at hs; cases hs
    obtain ⟨hlocal, hremote⟩ := h.coherent.bare hstable h.first
    have habandon : n.abandon =
        n.onSession fun s => { s with negotiating := false, state := .idle } := by
      simp [Negotiation.abandon, Negotiation.undo, onSession, hstable, SignalingState.isStable,
        stateAfter, Session.restingState, hest]
    rw [habandon]
    exact ⟨⟨hstable, hlocal, hremote, h.coherent.applied hremote, rfl, rfl⟩, h.peer⟩

/-! ## Stages -/

/-- Using up a failure leaves the exchange undoable. -/
theorem Undoable.spends (h : Undoable p n) {c : Connection} (hc : n.connection.Spends c) :
    Undoable p { n with connection := c } := by
  obtain ⟨armed, hsub, rfl⟩ := hc
  exact { h with coherent := { h.coherent with }, unarmed := fun hmem => h.unarmed (hsub hmem) }

theorem Undoable.attachTracks (h : Undoable p n) (m : MediaSet) :
    Undoable p (n.attachTracks m).1 := by
  obtain ⟨tracks, armed, attached, hsub, hr⟩ := n.attachTracks_frame m
  rw [hr]
  exact { h with coherent := { h.coherent with }, unarmed := fun hmem => h.unarmed (hsub hmem) }

theorem Undoable.attachLiveMedia (h : Undoable p n) : Undoable p n.attachLiveMedia.1 := by
  unfold Negotiation.attachLiveMedia
  split
  · exact h
  · exact h.attachTracks _

/-- A stage that fails leaves what can be rolled back. -/
abbrev FailsUndoably (p : Option ClientId) (r : Attempt α) : Prop :=
  Leaves (fun _ => Undoable p) (fun _ _ => True) r

/-- What fails undoably is undone. -/
theorem FailsUndoably.abandon {r : Attempt α} (h : FailsUndoably p r) {e : NegotiationError}
    (hr : (orAbandon r).2 = .error e) :
    Pristine (orAbandon r).1 ∧ (orAbandon r).1.session.peer = p := by
  obtain ⟨n, e' | a⟩ := r
  · exact Undoable.abandon h
  · cases hr

/-- A first offer that cannot be sent can be undone. -/
theorem Undoable.sendOffer (h : Undoable p n) (peer : ClientId) (offer : Description) :
    FailsUndoably p (n.sendOffer peer offer) := by
  rw [sendOffer_eq]
  obtain ⟨c, e, hs, hr⟩ | ⟨-, -, hr⟩ | ⟨-, -, hr⟩ := n.connection.setLocalDescription_cases offer <;>
    rw [onConnection_eq (·.setLocalDescription offer) hr]
  · exact h.spends hs
  · trivial
  · trivial

/-- The candidates that were flushed are rolled back with the offer that they came after. -/
theorem Undoable.flushCandidates (h : Undoable p n) : Undoable p n.flushCandidates := by
  have hcoherent : n.flushCandidates.connection.Coherent :=
    h.coherent.steps (n.connection.steps_offerAll n.session.pending.pending)
  obtain ⟨taken, armed, -, hsub, hr⟩ := n.flushCandidates_frame
  rw [hr] at hcoherent ⊢
  exact { h with coherent := hcoherent, unarmed := fun hmem => h.unarmed (hsub hmem) }

/-- A first answer that cannot be applied can be undone. -/
theorem Undoable.answerPending (h : Undoable p n) (sender : ClientId) :
    FailsUndoably p (n.answerPending sender) := by
  unfold Negotiation.answerPending
  have hflush := h.flushCandidates
  generalize n.flushCandidates = n at hflush
  have hmade : Leaves (fun _ => Undoable p) (fun _ => Undoable p)
      (n.onConnection Connection.createAnswer) := by
    obtain ⟨c, e, hs, hr⟩ | ⟨-, hr⟩ := n.connection.createAnswer_cases <;>
      rw [onConnection_eq Connection.createAnswer hr]
    · exact hflush.spends hs
    · exact { hflush with coherent := { hflush.coherent with } }
  refine hmade.andThen fun answer m hm => ?_
  obtain ⟨c, e, hs, hr⟩ | ⟨-, -, hr⟩ | ⟨-, -, hr⟩ := m.connection.setLocalDescription_cases answer <;>
    rw [onConnection_eq (·.setLocalDescription answer) hr]
  · exact hm.spends hs
  · trivial
  · trivial

/-- A first offer that cannot be taken up can be undone. -/
theorem Undoable.answerOffer (h : Undoable p n) (hs : n.connection.signaling ≠ .haveLocalOffer)
    (sender : ClientId) (offer : Description) : FailsUndoably p (n.answerOffer sender offer) := by
  rw [answerOffer_eq]
  have hattach : Leaves (fun _ => Undoable p) (fun _ => Undoable p) n.attachLiveMedia :=
    leaves_iff_fst.mpr h.attachLiveMedia
  apply (hattach.attachLiveMedia hs).andThen
  intro _ m ⟨hm, hs⟩
  have hcoherent := hm.coherent.setRemoteDescription offer
  obtain ⟨c, e, hspends, hr⟩ | ⟨-, -, hr⟩ | ⟨-, hlocal, -⟩ :=
    m.connection.setRemoteDescription_cases offer
  · rw [onConnection_eq (·.setRemoteDescription offer) hr]
    exact hm.spends hspends
  · rw [hr, Connection.moveTo_eq] at hcoherent
    rw [onConnection_eq (·.setRemoteDescription offer) hr, Connection.moveTo_eq]
    show FailsUndoably p (Negotiation.answerPending _ sender)
    apply Undoable.answerPending
    exact ⟨⟨hm.established, .inr (.inr rfl)⟩, hcoherent, hm.first, hm.unarmed, hm.peer⟩
  · -- no own offer is pending, so none is answered
    exact absurd hlocal hs

/-! ## Operations -/

/-- Where the last stage cannot fail, an earlier one has. -/
theorem of_andThen_eq_error {β : Type} {r : Attempt α} {f : Negotiation → α → Attempt β}
    {e : NegotiationError} (hf : ∀ n a, (f n a).2 ≠ .error e) (h : (andThen r f).2 = .error e) :
    r.2 = .error e ∧ (andThen r f).1 = r.1 := by
  obtain ⟨n, e' | a⟩ := r
  · obtain rfl : e' = e := Except.error.inj h
    exact ⟨rfl, rfl⟩
  · exact absurd h (hf n a)

/-- An offer of the other side that cannot be answered leaves nothing but its sender as the peer. -/
theorem Undoable.takeOffer (h : Undoable p n) (hs : n.connection.signaling ≠ .haveLocalOffer)
    {sender : ClientId} {offer : Description} {e : NegotiationError}
    (hr : (n.takeOffer sender offer).2 = .error e) :
    Pristine (n.takeOffer sender offer).1 ∧
      (n.takeOffer sender offer).1.session.peer = p.or (some sender) := by
  have hadopt : Undoable (p.or (some sender))
      (n.onSession fun s => { s.adoptPeer sender with negotiating := true }) :=
    { h with peer := congrArg (Option.or · (some sender)) h.peer }
  rw [takeOffer_eq] at hr ⊢
  obtain ⟨hanswer, hsame⟩ := of_andThen_eq_error (by simp) hr
  rw [hsame]
  exact (hadopt.answerOffer hs sender offer).abandon hanswer

/-- Withdrawing an own offer is a rollback like any other. -/
theorem Undoable.withdraw (h : Undoable p n) {m : Negotiation} (hr : n.withdraw = (m, true)) :
    Undoable p m ∧ m.connection.signaling ≠ .haveLocalOffer := by
  have hcoherent := h.coherent.rollback
  unfold Negotiation.withdraw at hr
  obtain ⟨c, e, -, hrollback⟩ | ⟨-, -, hrollback⟩ := n.connection.rollback_cases <;>
    rw [hrollback] at hr hcoherent <;> cases hr
  exact ⟨⟨⟨h.established, .inl rfl⟩, hcoherent, h.first, h.unarmed, h.peer⟩,
    by simp [onSession, noteTracks]⟩

/-! ### Offers -/

/-- A first offer that fails leaves nothing behind but its sender as the peer. -/
theorem Undoable.receiveOffer (h : Undoable p n) (hm : Mirrors n) {sender : ClientId}
    {offer : Description} {e : NegotiationError}
    (hr : (n.receiveOffer sender offer).2 = .error e) :
    Pristine (n.receiveOffer sender offer).1 ∧
      (n.receiveOffer sender offer).1.session.peer = p.or (some sender) := by
  unfold Negotiation.receiveOffer at hr ⊢
  split at hr
  · next hstate =>
      rw [if_pos hstate]
      split at hr
      · next hyields =>
          rw [if_pos hyields]
          rcases hw : n.withdraw with ⟨m, _ | _⟩ <;> simp only [hw] at hr ⊢
          · -- the offer is glare, which is no failure
            cases hr
          · obtain ⟨hundoable, hs⟩ := h.withdraw hw
            exact hundoable.takeOffer hs hr
      · cases hr
  · next hstate =>
      rw [if_neg hstate]
      refine h.takeOffer (fun hs => hstate ?_) hr
      rw [hm.state, hs]
      rfl

/-! ### Answers and calls -/

/-- An answer that does not fit, or that the connection refuses, ends the exchange. -/
theorem Undoable.applyAnswer (h : Undoable p n) {answer : Description} {e : NegotiationError}
    (hr : (n.applyAnswer answer).2 = .error e) :
    Pristine (n.applyAnswer answer).1 ∧ (n.applyAnswer answer).1.session.peer = p := by
  rw [applyAnswer_eq] at hr ⊢
  obtain ⟨hremote, hsame⟩ := of_andThen_eq_error (by simp) hr
  rw [hsame]
  refine FailsUndoably.abandon ?_ hremote
  obtain ⟨c, e, hs, hr⟩ | ⟨-, -, hr⟩ | ⟨-, -, hr⟩ := n.connection.setRemoteDescription_cases answer <;>
    rw [onConnection_eq (·.setRemoteDescription answer) hr]
  · exact h.spends hs
  · trivial
  · trivial

/-- A first call that fails leaves nothing behind but the peer that it was made to, or none. -/
theorem Undoable.startCall (h : Undoable p n) {peer : ClientId} {cause : ConnectionError}
    (hr : (n.startCall peer).2 = .finished (.error (.failure cause))) :
    Pristine (n.startCall peer).1 ∧ (n.startCall peer).1.session.peer = p := by
  obtain ⟨e, hstart, rfl | ⟨p, rfl⟩⟩ | ⟨hopen, hcall⟩ := n.startCall_turnedDown_or peer
  · -- a call that is turned down does not fail at the connection
    simp [hstart] at hr
  · simp [hstart] at hr
  have hattach := h.attachTracks (n.liveMedia?.getD ⟨[]⟩)
  obtain ⟨m, e, ha, hstart⟩ | ⟨m, ha, ⟨-, hstart⟩ | ⟨c, e, hs, hstart⟩ | ⟨-, hstart⟩⟩ :=
    n.startCall_cases hopen hcall <;> rw [ha] at hattach <;> rw [hstart] at hr ⊢
  · exact hattach.abandon
  · cases hr
  · exact (hattach.spends hs).abandon
  · have hmade : Undoable p { m with connection :=
        { m.connection with offersCreated := m.connection.offersCreated + 1 } } :=
      { hattach with coherent := { hattach.coherent with } }
    exact (hmade.sendOffer peer m.connection.nextOffer).abandon (Progress.finished.inj hr)

end Negotiation

/-! ### Operations that exchange -/

def Operation.IsExchange : Operation → Prop
  | .call _ => True
  | .receive (.signal s) => s.topic ≠ .candidate
  | _ => False

/-- Whose offer the operation takes up. -/
def Operation.offerer? : Operation → Option ClientId
  | .receive (.signal ⟨.offer, sender, _, _⟩) => some sender
  | _ => none

namespace Negotiation

/-- A first exchange that a message fails to bring about is undone. -/
theorem Undoable.receive (h : Undoable p n) (hm : Mirrors n) {m : Message}
    (hop : (Operation.receive m).IsExchange) {cause : ConnectionError}
    (hr : (n.receive m).2 = .error (.failure cause)) :
    Pristine (n.receive m).1 ∧
      (n.receive m).1.session.peer = p.or (Operation.receive m).offerer? := by
  have hreceives := n.receives m
  generalize n.receive m = r at hreceives hr ⊢
  cases hreceives with
  | nothing hnothing => cases hnothing <;> cases hr
  | @offer s offer htopic =>
      cases s
      cases htopic
      exact h.receiveOffer hm hr
  | @answer s answer htopic =>
      -- an answer makes nobody the peer
      have hnobody : (Operation.receive (.signal s)).offerer? = none := by
        cases s
        cases htopic
        rfl
      rw [hnobody, Option.or_none]
      exact h.applyAnswer hr
  | candidate htopic => exact absurd htopic hop

/-- **An operation that fails leaves nothing of the exchange**, whatever it failed at. -/
theorem Undoable.run (h : Undoable p n) (hm : Mirrors n) {op : Operation} (hop : op.IsExchange)
    {c : Completion} (hr : (op.run n).2 = some c) (hrefused : c.IsRefusal) :
    Pristine (op.run n).1 ∧ (op.run n).1.session.peer = p.or op.offerer? := by
  cases op with
  | call peer =>
      simp only [Operation.run, Operation.offerer?, Option.or_none] at hr ⊢
      rcases hcall : n.startCall peer with ⟨m, (e | offer) | _⟩ <;> rw [hcall] at hr <;> cases hr
      · obtain ⟨cause, rfl⟩ := hrefused
        have hundone := h.startCall (by rw [hcall])
        rw [hcall] at hundone
        exact hundone
      · cases hrefused
  | receive m =>
      simp only [Operation.run, Option.some.injEq] at hr ⊢
      subst hr
      cases hs : (n.receive m).2 with
      | ok outcome =>
          rw [hs] at hrefused
          cases hrefused
      | error e =>
          rw [hs] at hrefused
          obtain ⟨cause, rfl⟩ := hrefused
          exact h.receive hm hop hs
  | handle event => exact hop.elim
  | resetPeer => exact hop.elim
  | close => exact hop.elim

end Negotiation

namespace Endpoint

open Negotiation

/-! ## Any run -/

/-- **A failed first exchange is undone.** At any point of any run at which no exchange has
completed and rolling back is not made to fail, a call, or an offer or answer of the other side,
that the connection refuses at any stage leaves an idle session over a connection without
descriptions and candidates. The adopted peer is the one it was; if there was none, it is whoever
made the offer. -/
theorem first_exchange_undone (localId : ClientId) (label : String) (as : List Action)
    (hopen : ((fresh localId label).after as).isClosed = false)
    (hfirst : ((fresh localId label).after as).negotiation.connection.established = false)
    (hunarmed : .rollback ∉ ((fresh localId label).after as).negotiation.connection.armed)
    {op : Operation} (hop : op.IsExchange) (ticket : Nat) :
    let e := (fresh localId label).after as
    ∀ ended ∈ (e.submit ticket op).2, ended.2.IsRefusal →
      Pristine (e.submit ticket op).1.negotiation ∧
        (e.submit ticket op).1.negotiation.session.peer =
          e.negotiation.session.peer.or op.offerer? := by
  intro e ended hended hrefused
  have hm : Mirrors e.negotiation := mirrors_after localId label as hopen
  have h : Undoable e.negotiation.session.peer e.negotiation :=
    { hm with
      coherent := coherent_after localId label as
      first := hfirst
      unarmed := hunarmed
      peer := rfl }
  cases hholder : e.holder with
  | some holder =>
      -- while a call keeps the session, nothing but closing ends anything
      have hclose : op ≠ .close := by
        rintro rfl
        exact hop
      rw [(submit_of_busy hholder hclose ticket).2] at hended
      cases hended
  | none =>
      rw [negotiation_submit hholder]
      rw [ended_submit hholder] at hended
      rcases hr : op.run e.negotiation with ⟨n, _ | c⟩ <;> rw [hr] at hended
      · cases hended
      · obtain rfl := List.mem_singleton.mp hended
        have hrun := h.run hm hop (congrArg Prod.snd hr) hrefused
        rw [hr] at hrun
        exact hrun

/-- The answer to a first offer is refused, and so is the rollback that should undo the exchange. -/
def leftover : List Action :=
  [.failNext .createAnswer, .failNext .rollback,
    .submit 0 (.receive (offerFrom ⟨"a"⟩ "v=0 1"))]

/-- The offer is still pending, so that another one does not fit. Its refusal undoes the first one,
too. -/
theorem first_exchange_undone_leftover :
    let e := (fresh ⟨"b"⟩ "b").after leftover
    let op : Operation := .receive (offerFrom ⟨"c"⟩ "v=0 2")
    e.negotiation.session.state = .haveRemoteOffer ∧
      Pristine (e.submit 1 op).1.negotiation ∧
      (e.submit 1 op).1.negotiation.session.peer = some ⟨"a"⟩ := by
  intro e op
  have harmed : ((fresh ⟨"b"⟩ "b").after leftover).negotiation.connection.armed = [] := by cbv
  let ended : Ended := (1, .received (.error (.failure (.rejected
    "cannot apply remote Offer in state HaveRemoteOffer"))))
  have hended : (e.submit 1 op).2 = [ended] := by cbv
  have hop : op.IsExchange := by simp [op, offerFrom, Operation.IsExchange]
  obtain ⟨hpristine, hpeer⟩ := first_exchange_undone ⟨"b"⟩ "b" leftover (by cbv) (by cbv)
    (by simp [harmed]) hop 1 ended (by rw [hended]; exact .head _) ⟨_, rfl⟩
  exact ⟨by cbv, hpristine, hpeer⟩

end Endpoint

end Switchboard
