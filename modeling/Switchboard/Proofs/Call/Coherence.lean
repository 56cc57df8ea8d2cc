import Mathlib.Logic.Relation
import Switchboard.Proofs.Call.Run
import Switchboard.Proofs.Call.Stages

/-!
# A connection in the hands of a negotiation

A negotiation does nothing to its connection but the operations that the connection offers
(`Negotiation.Step.connection`). So what all of these keep is kept by a whole call, whatever fails
in it, and nobody has to go through the operations of the negotiation again.

Two things are kept that way: the descriptions of a connection fit its signaling state
(`Coherent`), and after a completed exchange nothing is taken away from it (`Outlasts`).
-/

namespace Switchboard

namespace Connection

variable {c c' c'' : Connection}

/-- What can be done to a connection, from within a call or from outside. -/
inductive Step : Connection → Connection → Prop
  | createOffer (c : Connection) : Step c c.createOffer.1
  | createAnswer (c : Connection) : Step c c.createAnswer.1
  | setLocalDescription (c : Connection) (d : Description) : Step c (c.setLocalDescription d).1
  | setRemoteDescription (c : Connection) (d : Description) : Step c (c.setRemoteDescription d).1
  | addCandidate (c : Connection) (x : Candidate) : Step c (c.addCandidate x).1
  | addTrack (c : Connection) (t : Track) : Step c (c.addTrack t).1
  | rollback (c : Connection) : Step c c.rollback.1
  | close (c : Connection) : Step c c.close.1
  | failNext (c : Connection) (op : ConnectionOp) : Step c (c.failNext op)
  | stallOffers (c : Connection) (on : Bool) : Step c { c with stallsOffers := on }
  | emit (c : Connection) (e : ConnectionEvent) : Step c (c.emit e)
  | takeEvents (c : Connection) : Step c { c with events := [] }

abbrev Steps : Connection → Connection → Prop := Relation.ReflTransGen Step

/-! ### Several steps at once -/

/-- Candidates are offered one step after the other. -/
theorem steps_offerAll (c : Connection) (xs : List Candidate) :
    Steps c (CandidateBuffer.offerAll c xs).1 := by
  induction xs generalizing c with
  | nil => exact .refl
  | cons x xs ih =>
      have hx := Step.addCandidate c x
      rcases hr : c.addCandidate x with ⟨c', e | ⟨⟩⟩ <;> rw [hr] at hx
      · rw [CandidateBuffer.offerAll_refused hr]
        exact .head hx (ih c')
      · rw [CandidateBuffer.offerAll_taken hr]
        exact .head hx (ih c')

/-- Tracks are added one step after the other. -/
theorem steps_addTracks (c : Connection) (ts : List Track) : Steps c (c.addTracks ts).1 := by
  induction ts generalizing c with
  | nil => exact .refl
  | cons t ts ih =>
      have ht := Step.addTrack c t
      rcases hr : c.addTrack t with ⟨c', e | ⟨⟩⟩ <;> rw [hr] at ht <;>
        simp only [addTracks, hr]
      · exact .single ht
      · exact .head ht (ih c')

theorem steps_attach (c : Connection) (m : MediaSet) : Steps c (c.attach m).1 := by
  unfold attach
  split
  · have h := c.steps_addTracks m.tracks
    rcases hr : c.addTracks m.tracks with ⟨c', e | ⟨⟩⟩ <;> rw [hr] at h <;> exact h
  · exact .refl

/-! ## Descriptions fit the signaling state -/

/-- The descriptions are those that the signaling state stands for. Where no exchange has completed
there is nothing but the offer that is pending. -/
structure Coherent (c : Connection) : Prop where
  signaling : c.signaling = .stable ∨ c.signaling = .haveLocalOffer ∨
    c.signaling = .haveRemoteOffer ∨ c.signaling = .closed
  described : c.established = true → c.localDescription.isSome ∧ c.remoteDescription.isSome
  localOffer : c.signaling = .haveLocalOffer →
    (∃ d, c.localDescription = some d ∧ d.kind = .offer) ∧
      (c.established = false → c.remoteDescription = none)
  remoteOffer : c.signaling = .haveRemoteOffer →
    ∃ d, c.remoteDescription = some d ∧ d.kind = .offer
  bare : c.signaling = .stable → c.established = false →
    c.localDescription = none ∧ c.remoteDescription = none
  applied : c.remoteDescription = none → c.candidates = []

/-- A fresh connection has no description, and none is pending. -/
theorem coherent_new (label : String) : Coherent { label } where
  signaling := .inl rfl
  described := fun h => by cases h
  localOffer := fun h => by cases h
  remoteOffer := fun h => by cases h
  bare := fun _ _ => ⟨rfl, rfl⟩
  applied := fun _ => rfl

/-- Using up an armed failure touches no description. -/
theorem Coherent.spends (h : Coherent c) (hs : Spends c c') : Coherent c' := by
  obtain ⟨armed, -, rfl⟩ := hs
  exact { h with }

/-- Making an offer is not applying it. -/
theorem Coherent.createOffer (h : Coherent c) : Coherent c.createOffer.1 := by
  obtain ⟨c', e, hs, hr⟩ | ⟨-, hr⟩ | ⟨-, hr⟩ := c.createOffer_cases <;> rw [hr]
  · exact h.spends hs
  · exact h
  · exact { h with }

theorem Coherent.createAnswer (h : Coherent c) : Coherent c.createAnswer.1 := by
  obtain ⟨c', e, hs, hr⟩ | ⟨-, hr⟩ := c.createAnswer_cases <;> rw [hr]
  · exact h.spends hs
  · exact { h with }

/-- An answer of this side finds the offer that it answers. -/
theorem Coherent.setLocalDescription (h : Coherent c) (d : Description) :
    Coherent (c.setLocalDescription d).1 := by
  obtain ⟨c', e, hs, hr⟩ | ⟨hk, hfree, hr⟩ | ⟨-, hpending, hr⟩ := c.setLocalDescription_cases d
  · rw [hr]
    exact h.spends hs
  · rw [hr, moveTo_eq]
    -- until an exchange is completed, an own offer stands alone
    have hnone : c.established = false → c.remoteDescription = none := fun hfirst =>
      hfree.elim (fun hs => (h.bare hs hfirst).2) (fun hs => (h.localOffer hs).2 hfirst)
    exact {
      signaling := .inr (.inl rfl)
      described := fun hdone => ⟨rfl, (h.described hdone).2⟩
      localOffer := fun _ => ⟨⟨d, rfl, hk⟩, hnone⟩
      remoteOffer := fun hs => by cases hs
      bare := fun hs => by cases hs
      applied := h.applied }
  · rw [hr, moveTo_eq]
    -- an answer of this side answers the offer that is pending
    obtain ⟨offer, hoffer, -⟩ := h.remoteOffer hpending
    exact {
      signaling := .inl rfl
      described := fun _ => ⟨rfl, Option.isSome_of_eq_some hoffer⟩
      localOffer := fun hs => by cases hs
      remoteOffer := fun hs => by cases hs
      bare := fun _ hfirst => by cases hfirst
      applied := h.applied }

/-- An answer of the other side finds the offer that it answers. -/
theorem Coherent.setRemoteDescription (h : Coherent c) (d : Description) :
    Coherent (c.setRemoteDescription d).1 := by
  obtain ⟨c', e, hs, hr⟩ | ⟨hk, -, hr⟩ | ⟨-, hpending, hr⟩ := c.setRemoteDescription_cases d
  · rw [hr]
    exact h.spends hs
  · rw [hr, moveTo_eq]
    exact {
      signaling := .inr (.inr (.inl rfl))
      described := fun hdone => ⟨(h.described hdone).1, rfl⟩
      localOffer := fun hs => by cases hs
      remoteOffer := fun _ => ⟨d, rfl, hk⟩
      bare := fun hs => by cases hs
      applied := fun hnone => by cases hnone }
  · rw [hr, moveTo_eq]
    -- an answer of the other side answers the own offer
    obtain ⟨⟨offer, hoffer, -⟩, -⟩ := h.localOffer hpending
    exact {
      signaling := .inl rfl
      described := fun _ => ⟨Option.isSome_of_eq_some hoffer, rfl⟩
      localOffer := fun hs => by cases hs
      remoteOffer := fun hs => by cases hs
      bare := fun _ hfirst => by cases hfirst
      applied := fun hnone => by cases hnone }

theorem Coherent.addCandidate (h : Coherent c) (x : Candidate) :
    Coherent (c.addCandidate x).1 := by
  obtain ⟨c', e, hs, hr⟩ | ⟨hsome, hr⟩ := c.addCandidate_cases x <;> rw [hr]
  · exact h.spends hs
  · exact { h with applied := fun hnone => absurd hnone (Option.isSome_iff_ne_none.mp hsome) }

/-- What is left of a rolled back exchange is as good as new. -/
theorem Coherent.rollback (h : Coherent c) : Coherent c.rollback.1 := by
  obtain ⟨c', e, hs, hr⟩ | ⟨-, hfirst, hr⟩ := c.rollback_cases <;> rw [hr]
  · exact h.spends hs
  · exact {
      signaling := .inl rfl
      described := fun hdone => absurd (hfirst.symm.trans hdone) (by decide)
      localOffer := fun hs => by cases hs
      remoteOffer := fun hs => by cases hs
      bare := fun _ _ => ⟨rfl, rfl⟩
      applied := fun _ => rfl }

theorem Coherent.close (h : Coherent c) : Coherent c.close.1 := by
  rw [Connection.close, moveTo_eq]
  exact {
    signaling := .inr (.inr (.inr rfl))
    described := h.described
    localOffer := fun hs => by cases hs
    remoteOffer := fun hs => by cases hs
    bare := fun hs => by cases hs
    applied := h.applied }

/-! ### Each step -/

/-- **Every operation keeps the descriptions in step with the signaling state.** -/
theorem Coherent.step (h : Coherent c) (hstep : Step c c') : Coherent c' := by
  cases hstep with
  | createOffer => exact h.createOffer
  | createAnswer => exact h.createAnswer
  | setLocalDescription d => exact h.setLocalDescription d
  | setRemoteDescription d => exact h.setRemoteDescription d
  | addCandidate x => exact h.addCandidate x
  | addTrack t =>
      obtain ⟨c', e, hs, hr⟩ | hr := c.addTrack_cases t <;> rw [hr]
      · exact h.spends hs
      · exact { h with }
  | rollback => exact h.rollback
  | close => exact h.close
  | failNext op => exact { h with }
  | stallOffers on => exact { h with }
  | emit e => exact { h with }
  | takeEvents => exact { h with }

/-- **Descriptions fit the signaling state** all along. -/
theorem Coherent.steps (h : Coherent c) (hsteps : Steps c c') : Coherent c' := by
  induction hsteps with
  | refl => exact h
  | tail _ hstep ih => exact ih.step hstep

/-! ## After a completed exchange -/

/-- All that `c` has been given `c'` still has, in the same order, and there it may have more. -/
structure Outlasts (c c' : Connection) : Prop where
  established : c'.established = true
  tracks : c.tracks <+: c'.tracks
  candidates : c.candidates <+: c'.candidates

theorem Outlasts.refl (h : c.established = true) : Outlasts c c :=
  ⟨h, List.prefix_refl _, List.prefix_refl _⟩

theorem Outlasts.trans (h : Outlasts c c') (h' : Outlasts c' c'') : Outlasts c c'' :=
  ⟨h'.established, h.tracks.trans h'.tracks, h.candidates.trans h'.candidates⟩

/-- Nothing of a completed exchange is lost by a refusal. -/
theorem outlasts_of_spends (he : c.established = true) (hs : Spends c c') : Outlasts c c' := by
  obtain ⟨armed, -, rfl⟩ := hs
  exact { Outlasts.refl he with }

/-- **Nothing is taken away after a completed exchange**: the one operation that would is refused.
-/
theorem Step.outlasts (hstep : Step c c') (he : c.established = true) : Outlasts c c' := by
  have hsame := Outlasts.refl he
  cases hstep with
  | createOffer =>
      obtain ⟨c', e, hs, hr⟩ | ⟨-, hr⟩ | ⟨-, hr⟩ := c.createOffer_cases <;> rw [hr]
      · exact outlasts_of_spends he hs
      · exact hsame
      · exact { hsame with }
  | createAnswer =>
      obtain ⟨c', e, hs, hr⟩ | ⟨-, hr⟩ := c.createAnswer_cases <;> rw [hr]
      · exact outlasts_of_spends he hs
      · exact { hsame with }
  | setLocalDescription d =>
      obtain ⟨c', e, hs, hr⟩ | ⟨-, -, hr⟩ | ⟨-, -, hr⟩ := c.setLocalDescription_cases d <;> rw [hr]
      · exact outlasts_of_spends he hs
      · rw [moveTo_eq]
        exact { hsame with }
      · rw [moveTo_eq]
        exact { hsame with established := rfl }
  | setRemoteDescription d =>
      obtain ⟨c', e, hs, hr⟩ | ⟨-, -, hr⟩ | ⟨-, -, hr⟩ := c.setRemoteDescription_cases d <;> rw [hr]
      · exact outlasts_of_spends he hs
      · rw [moveTo_eq]
        exact { hsame with }
      · rw [moveTo_eq]
        exact { hsame with established := rfl }
  | addCandidate x =>
      obtain ⟨c', e, hs, hr⟩ | ⟨-, hr⟩ := c.addCandidate_cases x <;> rw [hr]
      · exact outlasts_of_spends he hs
      · exact { hsame with candidates := List.prefix_append _ _ }
  | addTrack t =>
      obtain ⟨c', e, hs, hr⟩ | hr := c.addTrack_cases t <;> rw [hr]
      · exact outlasts_of_spends he hs
      · exact { hsame with tracks := List.prefix_append _ _ }
  | rollback =>
      -- there is nothing to go back to any more
      obtain ⟨c', e, hs, hr⟩ := rollback_of_established he
      rw [hr]
      exact outlasts_of_spends he hs
  | close =>
      rw [Connection.close, moveTo_eq]
      exact { hsame with }
  | failNext op => exact { hsame with }
  | stallOffers on => exact { hsame with }
  | emit e => exact { hsame with }
  | takeEvents => exact { hsame with }

/-- A completed exchange is never undone, whatever follows. -/
theorem Steps.outlasts (hsteps : Steps c c') (he : c.established = true) : Outlasts c c' := by
  induction hsteps with
  | refl => exact .refl he
  | tail _ hstep ih => exact ih.trans (hstep.outlasts ih.established)

end Connection

namespace Negotiation

variable {n n' : Negotiation} {c : Connection} {α β : Type}

/-! ## The operations of a negotiation -/

/-! ### Stages -/

/-- Stages in sequence take the steps of one and then those of the other. -/
theorem steps_andThen {r : Attempt α} {f : Negotiation → α → Attempt β}
    (h : Connection.Steps c r.1.connection)
    (hf : ∀ n a, Connection.Steps c n.connection → Connection.Steps c (f n a).1.connection) :
    Connection.Steps c (andThen r f).1.connection := by
  obtain ⟨n, e | a⟩ := r
  · exact h
  · exact hf n a h

/-- Giving an exchange up is at most one step: to roll it back. -/
theorem steps_abandon (n : Negotiation) : Connection.Steps n.connection n.abandon.connection := by
  unfold abandon undo
  split
  · exact .refl
  · exact .single (.rollback _)

theorem steps_orAbandon {r : Attempt α} (h : Connection.Steps c r.1.connection) :
    Connection.Steps c (orAbandon r).1.connection := by
  obtain ⟨n, e | a⟩ := r
  · exact h.trans n.steps_abandon
  · exact h

/-- Settling is a matter of the session only. -/
theorem connection_settle (n : Negotiation) : n.settle.connection = n.connection := by
  unfold settle
  split <;> rfl

theorem steps_attachTracks (n : Negotiation) (m : MediaSet) :
    Connection.Steps n.connection (n.attachTracks m).1.connection := by
  have h := n.connection.steps_attach m
  rcases hr : n.connection.attach m with ⟨c, e | k⟩ <;> rw [hr] at h <;>
    rw [attachTracks, onConnection_eq (·.attach m) hr] <;> exact h

theorem steps_attachLiveMedia (n : Negotiation) :
    Connection.Steps n.connection n.attachLiveMedia.1.connection := by
  unfold attachLiveMedia
  split
  · exact .refl
  · exact n.steps_attachTracks _

/-! ### Own offers -/

/-- Sending an offer is the one step of applying it here. -/
theorem steps_sendOffer (n : Negotiation) (peer : ClientId) (offer : Description) :
    Connection.Steps n.connection (n.sendOffer peer offer).1.connection := by
  rw [sendOffer_eq]
  exact steps_andThen (.single (.setLocalDescription _ offer)) fun _ _ h => h

/-! ### Offers of the other side -/

/-- The pending candidates come first, then the answer is made and applied. -/
theorem steps_answerPending (n : Negotiation) (sender : ClientId) :
    Connection.Steps n.connection (n.answerPending sender).1.connection := by
  unfold answerPending
  have hflush : Connection.Steps n.connection n.flushCandidates.connection :=
    n.connection.steps_offerAll n.session.pending.pending
  refine steps_andThen (hflush.tail (.createAnswer _)) fun m answer hmade => ?_
  refine steps_andThen (hmade.tail (.setLocalDescription _ answer)) fun m _ happlied => ?_
  show Connection.Steps n.connection m.complete.connection
  rw [complete, connection_settle]
  exact happlied

/-- The tracks are attached and the offer is applied before it is answered. -/
theorem steps_answerOffer (n : Negotiation) (sender : ClientId) (offer : Description) :
    Connection.Steps n.connection (n.answerOffer sender offer).1.connection := by
  rw [answerOffer_eq]
  refine steps_andThen n.steps_attachLiveMedia fun m _ hattached => ?_
  refine steps_andThen (hattached.tail (.setRemoteDescription _ offer)) fun m _ hpending => ?_
  exact hpending.trans
    (steps_answerPending (m.onSession fun s => { s with state := .haveRemoteOffer }) sender)

theorem steps_takeOffer (n : Negotiation) (sender : ClientId) (offer : Description) :
    Connection.Steps n.connection (n.takeOffer sender offer).1.connection := by
  rw [takeOffer_eq]
  have hanswer := steps_answerOffer
    (n.onSession fun s => { s.adoptPeer sender with negotiating := true }) sender offer
  exact steps_andThen (steps_orAbandon hanswer) fun _ _ h => h

/-- An own offer is withdrawn by one rollback. -/
theorem steps_withdraw (n : Negotiation) :
    Connection.Steps n.connection n.withdraw.1.connection := by
  have h := Connection.Step.rollback n.connection
  unfold withdraw
  rcases hr : n.connection.rollback with ⟨c, e | ⟨⟩⟩ <;> rw [hr] at h <;> exact .single h

/-- An offer is ignored, or taken up in steps, once an own one has given way. -/
theorem steps_receiveOffer (n : Negotiation) (sender : ClientId) (offer : Description) :
    Connection.Steps n.connection (n.receiveOffer sender offer).1.connection := by
  unfold receiveOffer
  split
  · split
    · have hw := n.steps_withdraw
      rcases hr : n.withdraw with ⟨m, _ | _⟩ <;> rw [hr] at hw
      · exact hw
      · exact hw.trans (m.steps_takeOffer sender offer)
    · exact .refl
  · exact n.steps_takeOffer sender offer

/-! ### Answers and candidates -/

/-- An answer is applied, and the pending candidates after it. -/
theorem steps_applyAnswer (n : Negotiation) (answer : Description) :
    Connection.Steps n.connection (n.applyAnswer answer).1.connection := by
  rw [applyAnswer_eq]
  refine steps_andThen (steps_orAbandon (.single (.setRemoteDescription _ answer))) fun m _ h => ?_
  show Connection.Steps n.connection m.flushCandidates.complete.connection
  rw [complete, connection_settle]
  exact h.trans (m.connection.steps_offerAll m.session.pending.pending)

theorem steps_receiveCandidate (n : Negotiation) (x : Candidate) :
    Connection.Steps n.connection (n.receiveCandidate x).1.connection := by
  have h := Connection.Step.addCandidate n.connection x
  unfold receiveCandidate
  split
  · exact .refl
  · rcases hr : n.connection.addCandidate x with ⟨c, e | ⟨⟩⟩ <;> rw [hr] at h <;>
      rw [onConnection_eq (·.addCandidate x) hr] <;> exact .single h

/-! ### Whole operations -/

/-- Whatever a message says, the connection goes on in steps. -/
theorem steps_receive (n : Negotiation) (m : Message) :
    Connection.Steps n.connection (n.receive m).1.connection := by
  have hreceives := n.receives m
  generalize n.receive m = r at hreceives ⊢
  cases hreceives with
  | nothing => exact .refl
  | offer => exact n.steps_receiveOffer _ _
  | answer => exact n.steps_applyAnswer _
  | candidate => exact n.steps_receiveCandidate _

/-- A call goes on in steps, also one that is never finished. -/
theorem steps_startCall (n : Negotiation) (peer : ClientId) :
    Connection.Steps n.connection (n.startCall peer).1.connection := by
  obtain ⟨e, hr, -⟩ | ⟨hopen, hcall⟩ := n.startCall_turnedDown_or peer
  · rw [hr]
  have hattach := n.steps_attachTracks (n.liveMedia?.getD ⟨[]⟩)
  unfold startCall
  rw [if_neg (by simp [hopen]), hcall]
  rcases ha : n.attachTracks (n.liveMedia?.getD ⟨[]⟩) with ⟨m, e | ⟨⟩⟩ <;> rw [ha] at hattach
  · exact hattach.trans m.steps_abandon
  · have hmade := hattach.tail (.createOffer m.connection)
    simp only
    rcases hr : m.connection.createOffer with ⟨c, _ | ⟨e | offer⟩⟩ <;> rw [hr] at hmade
    · exact hmade
    · exact hmade.trans (steps_abandon { m with connection := c })
    · exact steps_orAbandon (hmade.trans (steps_sendOffer { m with connection := c } peer offer))

/-- **A negotiation does nothing to its connection but what the connection offers.** -/
theorem Step.connection (hstep : Step n n') : Connection.Steps n.connection n'.connection := by
  cases hstep with
  | call peer => exact n.steps_startCall peer
  | receive m => exact n.steps_receive m
  | handle e =>
      -- the connection reports: it is not asked for anything
      have hsame : (n.handle e).1.connection = n.connection := by
        unfold Negotiation.handle
        split
        · rfl
        cases e with
        | signalingChanged s =>
            show (if s.isStable then n.settle else n).connection = n.connection
            split
            · exact n.connection_settle
            · rfl
        | _ => rfl
      rw [hsame]
  | resetPeer =>
      unfold Negotiation.resetPeer
      split
      · exact .refl
      · split <;> exact .refl
  | close =>
      unfold Negotiation.close
      split
      · exact .refl
      · exact .single (.close _)
  | dropCall =>
      unfold Negotiation.close
      split
      · exact .refl
      · exact .single (.close _)
  | setMedia m => exact .refl
  | failNext op => exact .single (.failNext _ op)
  | stallOffers on => exact .single (.stallOffers _ on)
  | emit e => exact .single (.emit _ e)
  | takeEvents => exact .single (.takeEvents _)

/-- **A negotiation treats its connection by the rules**, in any number of steps. -/
theorem Steps.connection (hsteps : Steps n n') : Connection.Steps n.connection n'.connection := by
  induction hsteps with
  | refl => exact .refl
  | tail _ hstep ih => exact ih.trans hstep.connection

end Negotiation

namespace Endpoint

/-! ### Runs -/

/-- The connection of any run is coherent. -/
theorem coherent_after (localId : ClientId) (label : String) (as : List Action) :
    ((fresh localId label).after as).negotiation.connection.Coherent :=
  (Connection.coherent_new label).steps ((fresh localId label).steps_after as).connection

end Endpoint

end Switchboard
