import Switchboard.Proofs.Call.Candidates

/-!
# Candidates keep their order

A candidate can be applied at once, wait and be flushed by the offer or by the answer of the other
side, be refused, or be cleared with a first exchange that is undone. Whichever ways the candidates
of one call take, none overtakes another and none is applied twice (`heard_in_order`), because
candidates wait only as long as no candidate can be applied.
-/

namespace Switchboard

namespace Endpoint

open Negotiation

variable {e : Endpoint}

/-! ## Heard in the order of acceptance -/

/-- An open side, between two actions. Any failure may be armed. -/
structure Filed (n : Negotiation) : Prop extends Mirrors n, Placed n

/-- A fresh negotiation has heard of nothing. -/
theorem filed_fresh (localId : ClientId) (label : String) :
    Filed (fresh localId label).negotiation :=
  let h := receptive_fresh localId label
  ⟨h.toMirrors, h.toPlaced⟩

/-- **One action.** Candidates may go, and what is accepted comes last. -/
theorem Filed.act (h : Filed e.negotiation) {a : Action} (hopen : (e.act a).1.isClosed = false) :
    Filed (e.act a).1.negotiation ∧
      (e.act a).1.negotiation.heard.Sublist (e.negotiation.heard ++ e.acceptedBy a) := by
  have hmirrors : Mirrors (e.act a).1.negotiation :=
    (e.steps_act a).keep (fun _ _ hstep hopen hm => hm.step hstep hopen) hopen h.toMirrors
  by_cases harm : ∃ op, a = .failNext op
  · obtain ⟨op, rfl⟩ := harm
    refine ⟨⟨hmirrors, { h.toPlaced with }⟩, ?_⟩
    exact List.sublist_append_left _ _
  · obtain hkeeps | ⟨-, hundone⟩ :=
      keeps_act h.toPlaced h.toMirrors (fun op hop => harm ⟨op, hop⟩) hopen
    · exact ⟨⟨hmirrors, hkeeps.toPlaced⟩, hkeeps.heard⟩
    · refine ⟨⟨hmirrors, hundone.toPlaced⟩, ?_⟩
      rw [hundone.heard]
      exact List.nil_sublist _

/-- **A run.** What was there may go, and what is accepted on the way comes after it. -/
theorem Filed.after (h : Filed e.negotiation) (as : List Action)
    (hopen : (e.after as).isClosed = false) :
    Filed (e.after as).negotiation ∧
      (e.after as).negotiation.heard.Sublist (e.negotiation.heard ++ e.accepted as) := by
  induction as generalizing e with
  | nil => exact ⟨h, List.sublist_append_left _ _⟩
  | cons a as ih =>
      obtain ⟨hnext, hact⟩ := h.act (a := a) (@isOpen_of_after _ as hopen)
      obtain ⟨hlast, hrest⟩ := ih hnext hopen
      refine ⟨hlast, ?_⟩
      have hboth : ((e.act a).1.after as).negotiation.heard.Sublist
          ((e.negotiation.heard ++ e.acceptedBy a) ++ (e.act a).1.accepted as) :=
        hrest.trans (hact.append_right _)
      rw [List.append_assoc] at hboth
      exact hboth

/-! ## Runs -/

/-- **Candidates are never doubled or reordered**, whatever fails. The candidates that were applied,
and after them those that wait, are among the accepted ones at increasing positions. That holds from
every point of the run on, too: a candidate that is gone does not come back. And candidates wait
only while the connection has no description of the other side. -/
theorem heard_in_order (localId : ClientId) (label : String) (as : List Action)
    (hopen : ((fresh localId label).after as).isClosed = false) :
    let n := ((fresh localId label).after as).negotiation
    (n.connection.candidates ++ n.session.pending.pending).Sublist
        ((fresh localId label).accepted as) ∧
      (∀ before rest, as = before ++ rest →
        n.heard.Sublist (((fresh localId label).after before).negotiation.heard ++
          ((fresh localId label).after before).accepted rest)) ∧
      (n.session.pending.pending ≠ [] → n.connection.remoteDescription = none) := by
  intro n
  obtain ⟨h, hheard⟩ := (filed_fresh localId label).after as hopen
  refine ⟨hheard, ?_, fun hwaiting => ?_⟩
  · rintro before rest rfl
    -- what is open in the end was open all along
    have hbefore : ((fresh localId label).after before).isClosed = false := by
      rw [after_append] at hopen
      exact isOpen_of_after hopen
    have hfiled := ((filed_fresh localId label).after before hbefore).1
    have hlater := (hfiled.after rest (by rw [← after_append]; exact hopen)).2
    rw [← after_append] at hlater
    exact hlater
  · by_contra hd
    exact hwaiting (h.waiting (Option.isSome_iff_ne_none.mpr hd))

/-- Two candidates wait, and the connection refuses the first when the offer comes. A third arrives
after the offer. -/
def refusedCandidate : List Action :=
  [.submit 0 (.receive (candidateFrom ⟨"a"⟩ "c1")),
    .submit 1 (.receive (candidateFrom ⟨"a"⟩ "c2")),
    .failNext .addCandidate,
    .submit 2 (.receive (.signal ⟨.offer, ⟨"a"⟩, ⟨"b"⟩, (⟨.offer, "v=0"⟩ : Description).payload⟩)),
    .submit 3 (.receive (candidateFrom ⟨"a"⟩ "c3"))]

/-- The two that are left are there in the order they came in. -/
theorem heard_in_order_refusedCandidate :
    ((fresh ⟨"b"⟩ "b").after refusedCandidate).negotiation.heard =
        [{ candidate := "c2" }, { candidate := "c3" }] ∧
      ((fresh ⟨"b"⟩ "b").after refusedCandidate).negotiation.heard.Sublist
        [{ candidate := "c1" }, { candidate := "c2" }, { candidate := "c3" }] := by
  have hopen : ((fresh ⟨"b"⟩ "b").after refusedCandidate).isClosed = false := by cbv
  have haccepted : (fresh ⟨"b"⟩ "b").accepted refusedCandidate =
      [{ candidate := "c1" }, { candidate := "c2" }, { candidate := "c3" }] := by cbv
  obtain ⟨horder, -, -⟩ := heard_in_order ⟨"b"⟩ "b" refusedCandidate hopen
  rw [haccepted] at horder
  exact ⟨by cbv, horder⟩

end Endpoint

end Switchboard
