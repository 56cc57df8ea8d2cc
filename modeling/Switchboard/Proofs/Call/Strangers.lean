import Switchboard.Proofs.Call.Outstanding

/-!
# Messages of strangers

While an offer of ours waits for the answer of the peer, anybody else may write to us. A stranger's
offer is glare, and a stranger's candidate does not touch the exchange. A stranger's answer does:
who has sent an answer is not looked at. So an exchange that waits for the peer is ended by any
answer that can be read, and by nothing else that a stranger can send.

The main statement is `stranger_disturbs_iff`.
-/

namespace Switchboard

namespace Negotiation

variable {n : Negotiation} {peer : ClientId}

/-! ## While an offer is outstanding -/

/-- An offer of ours waits for the answer of `peer`. -/
structure AwaitsAnswer (peer : ClientId) (n : Negotiation) : Prop where
  negotiating : n.session.negotiating = true
  peer : n.session.peer = some peer
  state : n.session.state = .haveLocalOffer
  signaling : n.connection.signaling = .haveLocalOffer

namespace AwaitsAnswer

/-! ### What each message does -/

/-- A session that awaits an answer is open to signals. -/
theorem receive_eq (h : AwaitsAnswer peer n) (s : Signal) :
    n.receive (.signal s) = n.receiveSignal s := by
  unfold Negotiation.receive
  simp [Session.isClosed, h.state]

/-- We go on waiting for the answer of the peer, whoever else calls. -/
theorem receiveOffer_stranger (h : AwaitsAnswer peer n) {sender : ClientId} (hs : sender ≠ peer)
    (offer : Description) : n.receiveOffer sender offer = (n, .ok .glare) := by
  have hstands : n.yieldsTo sender = false := by simp [yieldsTo, h.peer, hs.symm]
  simp [receiveOffer, h.state, hstands]

/-- **An answer** is applied unless it is no answer or the connection was told to refuse it. -/
theorem applyAnswer_cases (h : AwaitsAnswer peer n) (answer : Description) :
    (¬(answer.kind = .answer ∧ .setRemoteDescription ∉ n.connection.armed) ∧
        ∃ e, (n.applyAnswer answer).2 = .error e) ∨
      ((answer.kind = .answer ∧ .setRemoteDescription ∉ n.connection.armed) ∧
        (n.applyAnswer answer).2 = .ok .answerApplied ∧
        (n.applyAnswer answer).1.exchange =
          ⟨.stable, false, some peer, .stable, n.connection.localDescription, some answer⟩) := by
  have hopen : n.connection.signaling ≠ .closed := by simp [h.signaling]
  rw [applyAnswer_eq]
  obtain ⟨c, e, -, hr⟩ | ⟨-, hstable, -⟩ | ⟨hk, -, hr⟩ :=
    n.connection.setRemoteDescription_cases answer
  · rw [onConnection_eq (·.setRemoteDescription answer) hr]
    -- an answer that nothing is armed against is not refused
    refine .inl ⟨fun ⟨hk, harmed⟩ => ?_, _, rfl⟩
    rw [Connection.setRemoteDescription_answer ⟨hopen, harmed⟩ hk h.signaling] at hr
    cases hr
  · rw [h.signaling] at hstable
    cases hstable
  · by_cases harmed : .setRemoteDescription ∈ n.connection.armed
    · obtain ⟨c, e, -, hr'⟩ : ∃ c e, n.connection.Spends c ∧
          n.connection.setRemoteDescription answer = (c, .error e) :=
        Connection.attempt_of_armed harmed _
      rw [hr'] at hr
      cases hr
    · refine .inr ⟨⟨hk, harmed⟩, ?_⟩
      rw [onConnection_eq (·.setRemoteDescription answer) hr, Connection.moveTo_eq]
      refine ⟨rfl, ?_⟩
      show (complete (flushCandidates _)).exchange = _
      rw [complete_eq (signaling_flushCandidates _)]
      obtain ⟨taken, armed, -, -, hflush⟩ := flushCandidates_frame _
      rw [hflush]
      simp [exchange, onSession, h.peer]

/-- **What a stranger can do** to the exchange: end it, with an answer that can be read. -/
theorem exchange_receive_iff (h : AwaitsAnswer peer n) {s : Signal} (hs : s.sender ≠ peer) :
    (n.receive (.signal s)).1.exchange = n.exchange ↔
      ¬(s.topic = .answer ∧ ∃ answer, s.payload.decode Description.read = .ok answer) := by
  rw [h.receive_eq, Negotiation.receiveSignal]
  cases ht : s.topic with
  | offer =>
      simp only [reduceCtorEq, false_and, not_false_eq_true, iff_true]
      cases s.payload.decode Description.read with
      | error fault => rfl
      | ok offer => exact congrArg (·.1.exchange) (h.receiveOffer_stranger hs offer)
  | answer =>
      simp only [h.state, ne_eq, not_true_eq_false, if_false, true_and]
      cases s.payload.decode Description.read with
      | error fault => simp
      | ok answer =>
          simp only [Except.ok.injEq, exists_eq', not_true_eq_false, iff_false]
          -- whatever becomes of an answer, nothing is under way after it
          intro hsame
          have hrest : (n.applyAnswer answer).1.session.negotiating = n.session.negotiating :=
            congrArg Exchange.negotiating hsame
          rw [negotiating_applyAnswer h.signaling answer, h.negotiating] at hrest
          cases hrest
  | candidate =>
      simp only [reduceCtorEq, false_and, not_false_eq_true, iff_true]
      cases s.payload.decode Candidate.read with
      | error fault => rfl
      | ok x => exact (n.exchange_receiveCandidate x).1

/-- A stranger's offer is told to be glare, and nothing changes. -/
theorem receive_offer_stranger (h : AwaitsAnswer peer n) {s : Signal} (hs : s.sender ≠ peer)
    (ht : s.topic = .offer) {offer : Description}
    (hread : s.payload.decode Description.read = .ok offer) :
    n.receive (.signal s) = (n, .ok .glare) := by
  rw [h.receive_eq, Negotiation.receiveSignal]
  simp only [ht, hread]
  exact h.receiveOffer_stranger hs offer

/-- An answer is applied, whoever has sent it. -/
theorem receive_answer (h : AwaitsAnswer peer n) {s : Signal} (ht : s.topic = .answer)
    {answer : Description} (hread : s.payload.decode Description.read = .ok answer) :
    n.receive (.signal s) = n.applyAnswer answer := by
  rw [h.receive_eq, Negotiation.receiveSignal]
  simp only [ht, h.state, ne_eq, not_true_eq_false, if_false, hread]

end AwaitsAnswer

/-- Without an offer of ours there is nothing to answer, and the payload is not looked at. -/
theorem receive_staleAnswer (hstate : n.session.state = .stable) {s : Signal}
    (ht : s.topic = .answer) : n.receive (.signal s) = (n, .ok .staleAnswer) := by
  unfold Negotiation.receive Negotiation.receiveSignal
  simp [Session.isClosed, hstate, ht]

end Negotiation

/-! ## Runs -/

namespace Endpoint

open Negotiation

variable {e : Endpoint}

/-- While a call keeps the session, no exchange is under way. -/
def Idles (e : Endpoint) : Prop :=
  e.holder.isSome → e.negotiation.session.negotiating = false

/-- Where no call keeps the session, there is nothing to say. -/
theorem Idles.of_free (hfree : e.holder = none) : Idles e := by
  intro hbusy
  rw [hfree] at hbusy
  cases hbusy

/-- Whoever retains what there is keeps an idle endpoint idle. -/
theorem Idles.of_retains {e' : Endpoint} (h : Idles e) (hholder : e'.holder = e.holder)
    (hr : Retains e.negotiation e'.negotiation) : Idles e' := by
  intro hbusy
  rw [hholder] at hbusy
  by_contra hneg
  have hsame := (hr (by simpa using hneg)).1
  have hrest : e'.negotiation.session.negotiating = e.negotiation.session.negotiating :=
    congrArg Exchange.negotiating hsame
  exact hneg (hrest.trans (h hbusy))

/-- An operation leaves a call that keeps the session without an exchange. -/
theorem Idles.submit (h : Idles e) (ticket : Nat) (op : Operation) :
    Idles (e.submit ticket op).1 := by
  cases hheld : e.holder with
  | some holder =>
      by_cases hop : op = .close
      · subst hop
        exact .of_free (congrArg Gate.holder (submit_close_of_busy hheld ticket).1)
      · have hleft := (submit_of_busy hheld hop ticket).1
        refine h.of_retains (by rw [hleft]) ?_
        rw [hleft]
        exact .refl _
  | none =>
      have hleft := toGate_submit hheld ticket op
      cases hdone : (op.run e.negotiation).2 with
      | some c =>
          rw [hdone] at hleft
          exact .of_free (congrArg Gate.holder hleft)
      | none =>
          -- only a call stalls, and then without an exchange
          cases op with
          | call peer =>
              have hcall := e.negotiation.startCall_awaits peer
              rcases hr : e.negotiation.startCall peer with ⟨n, r | _⟩ <;>
                rw [hr] at hcall <;> simp only [Operation.run, hr] at hdone hleft
              · cases hdone
              · obtain ⟨⟨cause, hr⟩, -⟩ | ⟨-, hrest⟩ | ⟨m, hr, -⟩ := hcall
                · cases hr
                · rw [Idles, hleft]
                  exact fun _ => hrest
                · cases hr
          | _ => cases hdone

/-- An action leaves a call that keeps the session without an exchange. -/
theorem Idles.act (h : Idles e) (a : Action) : Idles (e.act a).1 := by
  cases a with
  | submit ticket op => exact h.submit ticket op
  | pump ticket =>
      show Idles (e.pump ticket).1
      obtain ⟨hleft, -⟩ | ⟨-, hleft, -⟩ := e.pump_cases ticket <;>
        refine h.of_retains (by rw [hleft]) ?_ <;> rw [hleft]
      · exact e.negotiation.retains_pump
      · exact fun _ => ⟨rfl, rfl⟩
  | setMedia m => exact h
  | failNext op => exact h
  | stallOffers on => exact h
  | emit event => exact h
  | takeEvents => exact h

/-- **While a call keeps the session, no exchange is under way.** -/
theorem Idles.after (h : Idles e) (as : List Action) : Idles (e.after as) :=
  invariant_of_act (P := Idles) (fun _ a h => h.act a) h as

/-! ### While somebody negotiates -/

/-- In a run, an exchange that is under way waits for the answer of the adopted peer, and the
session is free. -/
theorem awaitsAnswer_after (localId : ClientId) (label : String) (as : List Action)
    (hneg : ((fresh localId label).after as).negotiation.session.negotiating = true)
    {peer : ClientId} (hpeer : ((fresh localId label).after as).negotiation.session.peer = some peer) :
    AwaitsAnswer peer ((fresh localId label).after as).negotiation ∧
      ((fresh localId label).after as).holder = none := by
  have hstart : OpenOrShut (fresh localId label).negotiation := openOrShut_after localId label []
  have hawaits : Awaits (fresh localId label).negotiation none := by simp [Awaits, fresh, start]
  obtain ⟨hstate, hs, -⟩ := awaits_after hstart hawaits as hneg
  refine ⟨⟨hneg, hpeer, hstate, hs⟩, ?_⟩
  have hidles : Idles ((fresh localId label).after as) := Idles.after (.of_free rfl) as
  by_contra hbusy
  rw [hidles (Option.isSome_iff_ne_none.mpr hbusy)] at hneg
  cases hneg

/-- A message to a free session is received at once. -/
theorem submit_receive_of_free (hfree : e.holder = none) (ticket : Nat) (m : Message) :
    (e.submit ticket (.receive m)).1.toGate =
        { e.toGate with negotiation := (e.negotiation.receive m).1 } ∧
      (e.submit ticket (.receive m)).2 = [(ticket, .received (e.negotiation.receive m).2)] :=
  submit_of_done hfree (by simp) rfl ticket

/-- A message that changes nothing leaves the endpoint as it was. -/
theorem submit_receive_eq (hfree : e.holder = none) {m : Message}
    {r : Except NegotiationError RemoteOutcome} (hr : e.negotiation.receive m = (e.negotiation, r))
    (ticket : Nat) : e.submit ticket (.receive m) = (e, [(ticket, .received r)]) := by
  have hrun : (Operation.receive m).run e.negotiation = (e.negotiation, some (.received r)) := by
    rw [Operation.run, hr]
  exact submit_eq_of_done hfree (by simp) hrun rfl ticket

/-! ## What a stranger can do -/

/-- **Only an answer disturbs an outstanding offer, but anybody's does.** While an exchange with
`peer` is under way, somebody else writes. The exchange stays as it is unless that is an answer that
can be read; an offer is told to be glare. An answer is taken as if the peer had sent it: the
exchange is over, and completed with the stranger's description if that is an answer which the
connection does not refuse. The answer of the peer then comes too late. -/
theorem stranger_disturbs_iff (localId : ClientId) (label : String) (as : List Action) :
    let e := (fresh localId label).after as
    let n := e.negotiation
    ∀ peer, n.session.negotiating = true → n.session.peer = some peer →
    ∀ (ticket : Nat) (s : Signal), s.sender ≠ peer →
      let r := e.submit ticket (.receive (.signal s))
      (r.1.negotiation.exchange = n.exchange ↔
        ¬(s.topic = .answer ∧ ∃ answer, s.payload.decode Description.read = .ok answer)) ∧
      (∀ offer, s.topic = .offer → s.payload.decode Description.read = .ok offer →
        r = (e, [(ticket, .received (.ok .glare))])) ∧
      ∀ answer, s.topic = .answer → s.payload.decode Description.read = .ok answer →
        r = e.submit ticket (.receive (.signal { s with sender := peer })) ∧
        r.1.negotiation.session.negotiating = false ∧
        (r.2 = [(ticket, .received (.ok .answerApplied))] ↔
          answer.kind = .answer ∧ .setRemoteDescription ∉ n.connection.armed) ∧
        (r.2 = [(ticket, .received (.ok .answerApplied))] →
          r.1.negotiation.exchange =
            ⟨.stable, false, some peer, .stable, n.connection.localDescription, some answer⟩ ∧
          ∀ (ticket' : Nat) (s' : Signal), s'.topic = .answer →
            r.1.submit ticket' (.receive (.signal s')) =
              (r.1, [(ticket', .received (.ok .staleAnswer))])) := by
  intro e n peer hneg hpeer ticket s hstranger r
  obtain ⟨h, hfree⟩ : AwaitsAnswer peer n ∧ e.holder = none :=
    awaitsAnswer_after localId label as hneg hpeer
  obtain ⟨hleft, hended⟩ : r.1.toGate = { e.toGate with negotiation := (n.receive (.signal s)).1 } ∧
      r.2 = [(ticket, .received (n.receive (.signal s)).2)] :=
    submit_receive_of_free hfree ticket _
  have hnegotiation : r.1.negotiation = (n.receive (.signal s)).1 := by rw [hleft]
  refine ⟨?_, fun offer ht hread => ?_, fun answer ht hread => ?_⟩
  · rw [hnegotiation]
    exact h.exchange_receive_iff hstranger
  · exact submit_receive_eq hfree (h.receive_offer_stranger hstranger ht hread) ticket
  · -- an answer is the one signal that is read without looking at its sender
    have hsame : n.receive (.signal { s with sender := peer }) = n.receive (.signal s) := by
      rw [h.receive_answer ht hread, h.receive_answer (s := { s with sender := peer }) ht hread]
    have hpeers : r = e.submit ticket (.receive (.signal { s with sender := peer })) := by
      obtain ⟨hleft', hended'⟩ :=
        submit_receive_of_free hfree ticket (.signal { s with sender := peer })
      rw [show e.negotiation.receive _ = n.receive (.signal s) from hsame] at hleft' hended'
      exact Prod.ext (Endpoint.ext (hleft.trans hleft'.symm)) (hended.trans hended'.symm)
    rw [h.receive_answer ht hread] at hnegotiation hended
    have hrest : r.1.negotiation.session.negotiating = false := by
      rw [hnegotiation]
      exact negotiating_applyAnswer h.signaling answer
    refine ⟨hpeers, hrest, ?_⟩
    obtain ⟨hrefused, cause, hcause⟩ | ⟨happlied, hok, hexchange⟩ := h.applyAnswer_cases answer
    · have hfailed : r.2 ≠ [(ticket, .received (.ok .answerApplied))] := by simp [hended, hcause]
      exact ⟨iff_of_false hfailed hrefused, fun happlied => absurd happlied hfailed⟩
    · rw [hok] at hended
      have hover : r.1.negotiation.exchange = _ :=
        (congrArg Negotiation.exchange hnegotiation).trans hexchange
      refine ⟨iff_of_true hended happlied, fun _ => ⟨hover, fun ticket' s' ht' => ?_⟩⟩
      -- the exchange is over, so whoever else answers comes too late
      have hfree' : r.1.holder = none := (congrArg Gate.holder hleft).trans hfree
      have hstate : r.1.negotiation.session.state = .stable := congrArg Exchange.state hover
      exact submit_receive_eq hfree' (receive_staleAnswer hstate ht') ticket'

def openCall : List Action :=
  [.setMedia (some ⟨[⟨"audio/opus", "t", "s"⟩]⟩), .submit 0 (.call ⟨"b"⟩)]

/-- It was `b` who was called, and `c` answers: the call is completed with `c`, and what `b` answers
comes too late. -/
theorem stranger_disturbs_openCall :
    let stranger := ((fresh ⟨"a"⟩ "A").after openCall).submit 1
      (.receive (.signal ⟨.answer, ⟨"c"⟩, ⟨"a"⟩, (⟨.answer, "v=0 c"⟩ : Description).payload⟩))
    stranger.2 = [(1, .received (.ok .answerApplied))] ∧
      stranger.1.negotiation.session.state = .stable ∧
      stranger.1.negotiation.connection.remoteDescription = some ⟨.answer, "v=0 c"⟩ ∧
      (stranger.1.submit 2
        (.receive (.signal ⟨.answer, ⟨"b"⟩, ⟨"a"⟩, (⟨.answer, "v=0 b"⟩ : Description).payload⟩))).2 =
          [(2, .received (.ok .staleAnswer))] := by
  intro stranger
  have harmed : ConnectionOp.setRemoteDescription ∉
      ((fresh ⟨"a"⟩ "A").after openCall).negotiation.connection.armed := by
    rw [show ((fresh ⟨"a"⟩ "A").after openCall).negotiation.connection.armed = [] by cbv]
    exact List.not_mem_nil
  obtain ⟨-, -, hanswer⟩ := stranger_disturbs_iff ⟨"a"⟩ "A" openCall ⟨"b"⟩ (by cbv) (by cbv) 1
    ⟨.answer, ⟨"c"⟩, ⟨"a"⟩, (⟨.answer, "v=0 c"⟩ : Description).payload⟩ (by decide)
  obtain ⟨-, -, hiff, hlater⟩ := hanswer ⟨.answer, "v=0 c"⟩ rfl (Description.decode_payload _)
  have happlied := hiff.mpr ⟨rfl, harmed⟩
  obtain ⟨hended, hstale⟩ := hlater happlied
  refine ⟨happlied, congrArg Exchange.state hended, congrArg Exchange.remoteDescription hended, ?_⟩
  exact congrArg Prod.snd (hstale 2 _ rfl)

end Endpoint

end Switchboard
