import Switchboard.Proofs.Call.Candidates
import Switchboard.Proofs.Call.Closing
import Switchboard.Proofs.Call.Coherence
import Switchboard.Proofs.Call.Recovery

/-!
# An established call lasts

When an offer was answered, or an answer applied, the connection knows that an exchange has
completed (`established_of_completes`), and takes nothing back from then on. So no failure, no
crossing offer and no message of anybody costs an established call its descriptions, its tracks or
its candidates: the main statement is `established_call_lasts`.
-/

namespace Switchboard

def RemoteOutcome.Completes : RemoteOutcome → Prop
  | .reply _ | .answerApplied => True
  | _ => False

def Completion.Completes : Completion → Prop
  | .received (.ok outcome) => outcome.Completes
  | _ => False

/-- Nobody who finds the session closed completes anything. -/
theorem not_completes_late (w : Waiter) : ¬w.late.Completes := by
  intro h
  cases w with
  | operation op => cases op <;> exact h
  | pump taken => exact h

namespace Negotiation

variable {n : Negotiation} {α : Type}

/-! ## What completes an exchange -/

/-- Whenever the attempt succeeds, an exchange has completed on the connection. -/
abbrev Establishes (r : Attempt α) : Prop :=
  Leaves (fun _ _ => True) (fun _ n => n.connection.established = true) r

/-- An answer that is applied here establishes the call. -/
theorem establishes_answerPending (n : Negotiation) (sender : ClientId) :
    Establishes (n.answerPending sender) := by
  apply (leaves_createAnswer n.flushCandidates).andThen
  intro answer m hk
  obtain ⟨c, e, -, hr⟩ | ⟨ho, -, -⟩ | ⟨-, -, hr⟩ := m.connection.setLocalDescription_cases answer
  · rw [onConnection_eq (·.setLocalDescription answer) hr]
    trivial
  · rw [hk] at ho
    cases ho
  · rw [onConnection_eq (·.setLocalDescription answer) hr, Connection.moveTo_eq]
    show (complete _).connection.established = true
    rw [complete, connection_settle]
    rfl

/-- An offer that is replied to establishes the call. -/
theorem establishes_takeOffer (n : Negotiation) (sender : ClientId) (offer : Description) :
    Establishes (n.takeOffer sender offer) := by
  rw [takeOffer_eq, answerOffer_eq]
  have hanswer : Establishes
      (andThen (n.onSession fun s => { s.adoptPeer sender with negotiating := true }).attachLiveMedia
        fun n _ => andThen (n.onConnection (·.setRemoteDescription offer)) fun n _ =>
          (n.onSession fun s => { s with state := .haveRemoteOffer }).answerPending sender) :=
    (leaves_true _).andThen fun _ _ _ =>
      (leaves_true _).andThen fun _ _ _ => establishes_answerPending _ sender
  have habandon : Establishes (orAbandon _) := hanswer.orAbandon fun _ _ _ => trivial
  exact habandon.andThen fun _ _ h => h

/-- An answer to the own offer establishes the call. -/
theorem establishes_applyAnswer (hs : n.connection.signaling = .haveLocalOffer)
    (answer : Description) : Establishes (n.applyAnswer answer) := by
  rw [applyAnswer_eq]
  obtain ⟨c, e, -, hr⟩ | ⟨-, hstable, -⟩ | ⟨-, -, hr⟩ :=
    n.connection.setRemoteDescription_cases answer
  · rw [onConnection_eq (·.setRemoteDescription answer) hr]
    trivial
  · rw [hs] at hstable
    cases hstable
  · rw [onConnection_eq (·.setRemoteDescription answer) hr, Connection.moveTo_eq]
    show (complete (flushCandidates _)).connection.established = true
    rw [complete, connection_settle]
    exact established_flushCandidates _

/-! ### Whole messages -/

/-- Whichever message completes an exchange, the connection is established then. -/
theorem Mirrors.establishes_receive (h : Mirrors n) (m : Message) :
    Leaves (fun _ _ => True)
      (fun outcome n => outcome.Completes → n.connection.established = true) (n.receive m) := by
  have hall : ∀ {r : Attempt RemoteOutcome}, Establishes r → Leaves (fun _ _ => True)
      (fun outcome n => outcome.Completes → n.connection.established = true) r := by
    rintro ⟨n, e | outcome⟩ hr
    · trivial
    · exact fun _ => hr
  have hreceives := n.receives m
  generalize n.receive m = r at hreceives ⊢
  cases hreceives with
  | nothing hr =>
      cases hr with
      | closed | malformed => trivial
      | ignored | staleAnswer => exact False.elim
  | @offer s offer =>
      unfold Negotiation.receiveOffer
      split
      · split
        · -- our offer gives way, or is kept and nothing completes
          rcases n.withdraw with ⟨n', _ | _⟩
          · exact False.elim
          · exact hall (n'.establishes_takeOffer s.sender offer)
        · exact False.elim
      · exact hall (n.establishes_takeOffer s.sender offer)
  | answer _ hstate => exact hall (establishes_applyAnswer (h.haveLocalOffer hstate) _)
  | @candidate _ x =>
      unfold Negotiation.receiveCandidate
      split
      · exact False.elim
      · rcases n.onConnection (·.addCandidate x) with ⟨n', e | ⟨⟩⟩
        · trivial
        · exact False.elim

/-- A closed session completes nothing. -/
theorem OpenOrShut.establishes_receive (h : OpenOrShut n) (m : Message) :
    Leaves (fun _ _ => True)
      (fun outcome n => outcome.Completes → n.connection.established = true) (n.receive m) := by
  obtain hmirrors | hshut := h
  · exact hmirrors.establishes_receive m
  · unfold Negotiation.receive
    rw [if_pos hshut.isClosed]
    trivial

end Negotiation

namespace Endpoint

open Negotiation

variable {e : Endpoint}

def ended (e : Endpoint) : List Action → List Ended
  | [] => []
  | a :: as => (e.act a).2 ++ (e.act a).1.ended as

/-! ## Runs -/

/-- An operation that completes an exchange leaves an established connection, be it done at once or
after a wait. -/
theorem established_of_submit (h : OpenOrShut e.negotiation) {ticket : Nat} {op : Operation}
    {r : Ended} (hr : r ∈ (e.submit ticket op).2) (hcompletes : r.2.Completes) :
    (e.submit ticket op).1.negotiation.connection.established = true := by
  cases hheld : e.holder with
  | none =>
      rw [negotiation_submit hheld]
      rw [ended_submit hheld] at hr
      cases op with
      | call peer =>
          rcases hcall : e.negotiation.startCall peer with ⟨n, result | _⟩ <;>
            simp only [Operation.run, hcall] at hr
          · rw [List.mem_singleton.mp hr] at hcompletes
            exact hcompletes.elim
          · cases hr
      | receive m =>
          have hreceive := h.establishes_receive m
          obtain rfl := List.mem_singleton.mp hr
          show (e.negotiation.receive m).1.connection.established = true
          rcases hm : e.negotiation.receive m with ⟨n, cause | outcome⟩ <;>
            simp only [hm] at hreceive hcompletes
          · exact hcompletes.elim
          · exact hreceive hcompletes
      | _ =>
          rw [List.mem_singleton.mp hr] at hcompletes
          exact hcompletes.elim
  | some holder =>
      -- what ends while the lock is held was turned away, and completes nothing
      obtain ⟨-, w, hw⟩ := late_of_busy hheld hr
      rw [hw] at hcompletes
      exact (not_completes_late w hcompletes).elim

/-- **One action.** When it completes an exchange, the connection knows that. -/
theorem established_of_act (h : OpenOrShut e.negotiation) {a : Action} {r : Ended}
    (hr : r ∈ (e.act a).2) (hcompletes : r.2.Completes) :
    (e.act a).1.negotiation.connection.established = true := by
  cases a with
  | submit ticket op => exact established_of_submit h hr hcompletes
  | pump ticket =>
      obtain ⟨-, hended⟩ | ⟨-, -, hended⟩ := e.pump_cases ticket <;>
        simp only [act, hended] at hr
      · rw [List.mem_singleton.mp hr] at hcompletes
        exact hcompletes.elim
      · cases hr
  | _ => cases hr

/-- **A run.** Once an exchange has completed, the connection never forgets it. -/
theorem established_of_ended (h : OpenOrShut e.negotiation) {as : List Action}
    (hr : ∃ r ∈ e.ended as, r.2.Completes) :
    (e.after as).negotiation.connection.established = true := by
  obtain ⟨r, hr, hcompletes⟩ := hr
  induction as generalizing e with
  | nil => cases hr
  | cons a as ih =>
      obtain hnow | hlater := List.mem_append.mp hr
      · have hdone := established_of_act h hnow hcompletes
        exact (((e.act a).1.steps_after as).connection.outlasts hdone).established
      · exact ih (h.steps (e.steps_act a)) hlater

/-! ### What lasts -/

/-- **An established call lasts.** Take any point of any run by which an offer has been answered or
an answer applied, and any later point, whatever is done, fails, arrives or is reported in between.
There the connection has both descriptions, and all the tracks and candidates that it had, in their
order; the session is not idle, and connection and session know of the completed exchange. -/
theorem established_call_lasts (localId : ClientId) (label : String) (as : List Action)
    (hcompleted : ∃ r ∈ (fresh localId label).ended as, r.2.Completes) (later : List Action) :
    let n := ((fresh localId label).after as).negotiation
    let n' := ((fresh localId label).after (as ++ later)).negotiation
    n'.connection.localDescription.isSome ∧ n'.connection.remoteDescription.isSome ∧
      n.connection.tracks <+: n'.connection.tracks ∧
      n.connection.candidates <+: n'.connection.candidates ∧
      n'.session.state ≠ .idle ∧ n'.connection.established = true := by
  intro n n'
  have hstart : OpenOrShut (fresh localId label).negotiation := openOrShut_after localId label []
  have hdone : n.connection.established = true := established_of_ended hstart hcompleted
  have hsteps : Steps n n' := by
    show Steps n ((fresh localId label).after (as ++ later)).negotiation
    rw [after_append]
    exact steps_after _ later
  -- from here on it is a matter of the connection, which only ever gains
  have hlasts : n.connection.Outlasts n'.connection := hsteps.connection.outlasts hdone
  have hcoherent : n'.connection.Coherent := coherent_after localId label (as ++ later)
  obtain ⟨hlocal, hremote⟩ := hcoherent.described hlasts.established
  refine ⟨hlocal, hremote, hlasts.tracks, hlasts.candidates, fun hidle => ?_, hlasts.established⟩
  -- an open session mirrors the connection, and a closed one is not idle either
  obtain hmirrors | hshut := openOrShut_after localId label (as ++ later)
  · have hfirst : n'.connection.established = false := (hmirrors.idle hidle).2
    rw [hlasts.established] at hfirst
    cases hfirst
  · have hclosed : n'.session.state = .closed := hshut.state
    rw [hidle] at hclosed
    cases hclosed

/-- An offer is answered, and a candidate applied. -/
def answeredCall : List Action :=
  [.setMedia (some ⟨[⟨"audio/opus", "t", "s"⟩]⟩),
    .submit 0 (.receive (offerFrom ⟨"a"⟩ "v=0 1")),
    .submit 1 (.receive (candidateFrom ⟨"a"⟩ "c1"))]

/-- The answer to the next offer fails, and the peer is released. Somebody else's offer is refused.
-/
def setbacks : List Action :=
  [.failNext .createAnswer, .submit 2 (.receive (offerFrom ⟨"a"⟩ "v=0 2")),
    .submit 3 .resetPeer, .submit 4 (.receive (offerFrom ⟨"c"⟩ "v=0 3"))]

/-- The call is still there with its track and its candidate. -/
theorem established_call_lasts_setbacks :
    let n := ((fresh ⟨"b"⟩ "b").after (answeredCall ++ setbacks)).negotiation
    n.session.peer = some ⟨"c"⟩ ∧
      n.connection.localDescription.isSome ∧ n.connection.remoteDescription.isSome ∧
      [⟨"audio/opus", "t", "s"⟩] <+: n.connection.tracks ∧
      [{ candidate := "c1" }] <+: n.connection.candidates ∧
      n.session.state ≠ .idle ∧ n.connection.established = true := by
  have hended : ∃ answer, (fresh ⟨"b"⟩ "b").ended answeredCall =
      [(0, .received (.ok (.reply answer))), (1, .received (.ok .candidateApplied))] := ⟨_, by cbv⟩
  have htracks : ((fresh ⟨"b"⟩ "b").after answeredCall).negotiation.connection.tracks =
      [⟨"audio/opus", "t", "s"⟩] := by cbv
  have hcandidates : ((fresh ⟨"b"⟩ "b").after answeredCall).negotiation.connection.candidates =
      [{ candidate := "c1" }] := by cbv
  obtain ⟨answer, hended⟩ := hended
  have hcompleted : ∃ r ∈ (fresh ⟨"b"⟩ "b").ended answeredCall, r.2.Completes :=
    ⟨(0, .received (.ok (.reply answer))), by rw [hended]; exact .head _, trivial⟩
  obtain ⟨hlocal, hremote, ht, hc, hstate, hdone⟩ :=
    established_call_lasts ⟨"b"⟩ "b" answeredCall hcompleted setbacks
  rw [htracks] at ht
  rw [hcandidates] at hc
  exact ⟨by cbv, hlocal, hremote, ht, hc, hstate, hdone⟩

end Endpoint

end Switchboard
