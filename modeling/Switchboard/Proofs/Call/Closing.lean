import Switchboard.Proofs.Call.Mirror

/-!
# Closed sessions

Only closing closes a session, and it shuts it for good: nothing is under way in it any more, its
connection is closed with it (`Shut`), and no step ever changes anything in it (`Frozen`).

So a negotiation is open and an image of its connection, or it is shut, at every point of every run
(`OpenOrShut`). What happens to those who wait while a session is closed is in
`Switchboard.Proofs.Call.Winding`.
-/

namespace Switchboard

namespace Negotiation

variable {n n' n'' : Negotiation}

/-! ## The closed session -/

/-- The session is closed with its connection, and nothing is under way in it. -/
structure Shut (n : Negotiation) : Prop where
  state : n.session.state = .closed
  negotiating : n.session.negotiating = false
  localStreamAttached : n.session.localStreamAttached = false
  pending : n.session.pending = .empty
  signaling : n.connection.signaling = .closed

theorem Shut.isClosed (h : Shut n) : n.session.isClosed = true := by
  simp [Session.isClosed, h.state]

/-- An open session is shut by closing it; of a closed one, it has to be known. -/
theorem shut_close (h : n.session.isClosed = true → Shut n) : Shut n.close.1 := by
  unfold close
  split
  · next hc => exact h hc
  · exact ⟨rfl, rfl, rfl, rfl, by simp only [onConnection, Connection.close, Connection.moveTo_eq]⟩

/-- Closing an open session lets go of the capture tracks. -/
theorem media_close (hopen : n.session.isClosed = false) : n.close.1.media = none := by
  rw [close, if_neg (by simp [hopen])]

/-- Giving up a call that there is none of. -/
theorem Shut.dropCall_eq (h : Shut n) : n.dropCall = n := by
  have hn := h.negotiating
  rcases n with ⟨localId, connection, session, media⟩
  rcases session with ⟨peer, negotiating, attached, pending, ice, state, established⟩
  subst hn
  rfl

/-! ## What closing leaves alone -/

/-- The negotiation has the peer and the descriptions that it had. -/
structure Recalls (n n' : Negotiation) : Prop where
  peer : n'.session.peer = n.session.peer
  localDescription : n'.connection.localDescription = n.connection.localDescription
  remoteDescription : n'.connection.remoteDescription = n.connection.remoteDescription

theorem Recalls.refl (n : Negotiation) : Recalls n n := ⟨rfl, rfl, rfl⟩

theorem Recalls.trans (h : Recalls n n') (h' : Recalls n' n'') : Recalls n n'' where
  peer := h'.peer.trans h.peer
  localDescription := h'.localDescription.trans h.localDescription
  remoteDescription := h'.remoteDescription.trans h.remoteDescription

/-- A call that gives up leaves the peer and the descriptions alone. -/
theorem recalls_dropCall (n : Negotiation) : Recalls n n.dropCall := ⟨rfl, rfl, rfl⟩

/-- Closing forgets neither the peer nor the descriptions. -/
theorem recalls_close (n : Negotiation) : Recalls n n.close.1 := by
  unfold close
  split
  · exact .refl n
  · constructor
    · rfl
    all_goals simp only [onConnection, Connection.close, Connection.moveTo_eq]

/-! ## Nothing changes any more -/

/-- Neither the session has changed nor what the connection itself holds of the call. -/
structure Still (n n' : Negotiation) : Prop where
  session : n'.session = n.session
  signaling : n'.connection.signaling = n.connection.signaling
  localDescription : n'.connection.localDescription = n.connection.localDescription
  tracks : n'.connection.tracks = n.connection.tracks
  candidates : n'.connection.candidates = n.connection.candidates

/-- Nor has what the connection knows of the other side. -/
structure Frozen (n n' : Negotiation) : Prop extends Still n n' where
  remoteDescription : n'.connection.remoteDescription = n.connection.remoteDescription

theorem Still.refl (n : Negotiation) : Still n n := ⟨rfl, rfl, rfl, rfl, rfl⟩

theorem Still.trans (h : Still n n') (h' : Still n' n'') : Still n n'' where
  session := h'.session.trans h.session
  signaling := h'.signaling.trans h.signaling
  localDescription := h'.localDescription.trans h.localDescription
  tracks := h'.tracks.trans h.tracks
  candidates := h'.candidates.trans h.candidates

theorem Frozen.refl (n : Negotiation) : Frozen n n := ⟨.refl n, rfl⟩

theorem Frozen.trans (h : Frozen n n') (h' : Frozen n' n'') : Frozen n n'' :=
  ⟨h.toStill.trans h'.toStill, h'.remoteDescription.trans h.remoteDescription⟩

/-- No step does anything to a closed session. -/
theorem Step.frozen (hstep : Step n n') (h : Shut n) : Frozen n n' := by
  have hc := h.isClosed
  cases hstep with
  | call peer => rw [Negotiation.startCall, if_pos hc]; exact .refl n
  | receive m => unfold Negotiation.receive; rw [if_pos hc]; exact .refl n
  | handle e => unfold Negotiation.handle; rw [if_pos hc]; exact .refl n
  | resetPeer => rw [Negotiation.resetPeer, if_pos hc]; exact .refl n
  | close => rw [close_of_closed hc]; exact .refl n
  | dropCall => rw [h.dropCall_eq, close_of_closed hc]; exact .refl n
  | setMedia m => exact ⟨⟨rfl, rfl, rfl, rfl, rfl⟩, rfl⟩
  | failNext op => exact ⟨⟨rfl, rfl, rfl, rfl, rfl⟩, rfl⟩
  | stallOffers on => exact ⟨⟨rfl, rfl, rfl, rfl, rfl⟩, rfl⟩
  | emit e => exact ⟨⟨rfl, rfl, rfl, rfl, rfl⟩, rfl⟩
  | takeEvents => exact ⟨⟨rfl, rfl, rfl, rfl, rfl⟩, rfl⟩

/-- What is frozen stays shut. -/
theorem Shut.congr (h : Shut n) (hf : Still n n') : Shut n' where
  state := by rw [hf.session, h.state]
  negotiating := by rw [hf.session, h.negotiating]
  localStreamAttached := by rw [hf.session, h.localStreamAttached]
  pending := by rw [hf.session, h.pending]
  signaling := hf.signaling.trans h.signaling

/-- **Nothing changes any more** once the session is shut. -/
theorem Steps.frozen (hsteps : Steps n n') (h : Shut n) : Frozen n n' := by
  induction hsteps with
  | refl => exact .refl n
  | tail _ hstep ih => exact ih.trans (hstep.frozen (h.congr ih.toStill))

/-! ## Only closing closes

No operation but closing leaves a closed session behind, whatever its connection does in between:
on its way out it is completed, given up, or has not touched the state at all. -/

abbrev IsOpen (n : Negotiation) : Prop := n.session.isClosed = false

theorem stateAfter_ne_closed (s : Session) (signaling : SignalingState) :
    stateAfter s signaling ≠ .closed := by
  cases signaling <;> simp only [stateAfter, Session.restingState, ne_eq, reduceCtorEq,
    not_false_eq_true] <;> split <;> simp

/-- An abandoned exchange leaves an open session at rest or with its offer. -/
theorem isOpen_abandon (n : Negotiation) : IsOpen n.abandon := by
  simp [IsOpen, abandon, onSession, Session.isClosed, stateAfter_ne_closed]

theorem isOpen_complete (n : Negotiation) : IsOpen n.complete := by
  unfold complete settle
  split <;> rfl

/-- Whatever fails is given up, so only the successes count. -/
theorem isOpen_orAbandon {α : Type} {r : Attempt α}
    (h : Leaves (fun _ _ => True) (fun _ => IsOpen) r) :
    Leaves (fun _ => IsOpen) (fun _ => IsOpen) (orAbandon r) :=
  h.orAbandon fun _ n _ => n.isOpen_abandon

/-! ### Stages -/

theorem isOpen_sendOffer (n : Negotiation) (peer : ClientId) (offer : Description) :
    Leaves (fun _ _ => True) (fun _ => IsOpen) (n.sendOffer peer offer) := by
  rw [sendOffer_eq]
  exact (leaves_true _).andThen fun _ _ _ => rfl

theorem isOpen_answerOffer (n : Negotiation) (sender : ClientId) (offer : Description) :
    Leaves (fun _ _ => True) (fun _ => IsOpen) (n.answerOffer sender offer) := by
  rw [answerOffer_eq]
  refine (leaves_true _).andThen fun _ _ _ => (leaves_true _).andThen fun _ _ _ => ?_
  exact (leaves_true _).andThen fun _ _ _ => (leaves_true _).andThen fun _ n _ => n.isOpen_complete

/-- An offer that is taken up is completed or abandoned. -/
theorem isOpen_takeOffer (n : Negotiation) (sender : ClientId) (offer : Description) :
    IsOpen (n.takeOffer sender offer).1 := by
  rw [takeOffer_eq]
  have hanswer := isOpen_orAbandon (isOpen_answerOffer
    (n.onSession fun s => { s.adoptPeer sender with negotiating := true }) sender offer)
  exact Leaves.fst (hanswer.andThen fun _ _ h => h)

theorem isOpen_applyAnswer (n : Negotiation) (answer : Description) :
    IsOpen (n.applyAnswer answer).1 := by
  rw [applyAnswer_eq]
  have hgiven : Leaves (fun _ => IsOpen) (fun _ _ => True)
      (orAbandon (n.onConnection (·.setRemoteDescription answer))) :=
    (leaves_true _).orAbandon fun _ n _ => n.isOpen_abandon
  exact Leaves.fst (hgiven.andThen fun _ n _ => n.flushCandidates.isOpen_complete)

/-! ### Operations -/

theorem IsOpen.receiveOffer (h : IsOpen n) (sender : ClientId) (offer : Description) :
    IsOpen (n.receiveOffer sender offer).1 := by
  unfold Negotiation.receiveOffer
  split
  · split
    · rcases hr : n.connection.rollback with ⟨c, e | ⟨⟩⟩
      · simpa [withdraw, hr] using h
      · rw [withdraw_eq hr]
        exact isOpen_takeOffer _ sender offer
    · exact h
  · exact n.isOpen_takeOffer sender offer

theorem IsOpen.receiveCandidate (h : IsOpen n) (x : Candidate) :
    IsOpen (n.receiveCandidate x).1 := by
  unfold Negotiation.receiveCandidate
  split
  · exact h
  · rcases hr : n.connection.addCandidate x with ⟨c, e | ⟨⟩⟩ <;>
      rw [onConnection_eq (·.addCandidate x) hr] <;> exact h

/-- No message closes a session, whoever sends it. -/
theorem IsOpen.receive (h : IsOpen n) (m : Message) : IsOpen (n.receive m).1 := by
  have hreceives := n.receives m
  generalize n.receive m = r at hreceives ⊢
  cases hreceives with
  | nothing => exact h
  | offer => exact h.receiveOffer _ _
  | answer => exact n.isOpen_applyAnswer _
  | candidate => exact h.receiveCandidate _

theorem IsOpen.settle (h : IsOpen n) : IsOpen n.settle := by
  unfold Negotiation.settle
  split <;> exact h

/-- No event closes a session, not even the report of a closed connection. -/
theorem IsOpen.handle (h : IsOpen n) (e : ConnectionEvent) : IsOpen (n.handle e).1 := by
  unfold Negotiation.handle
  rw [show n.session.isClosed = false from h]
  cases e with
  | signalingChanged s =>
      cases hs : s.isStable with
      | true => simpa [hs] using h.settle
      | false => simpa [hs] using h
  | localCandidate | iceChanged | remoteTrack => exact h

theorem IsOpen.resetPeer (h : IsOpen n) : IsOpen n.resetPeer.1 := by
  unfold Negotiation.resetPeer
  rw [show n.session.isClosed = false from h]
  cases n.session.negotiating <;> exact h

/-- No call closes a session, also when it stalls. -/
theorem IsOpen.startCall (h : IsOpen n) (peer : ClientId) : IsOpen (n.startCall peer).1 := by
  obtain ⟨e, hr, -⟩ | ⟨hopen, hcall⟩ := n.startCall_turnedDown_or peer
  · rw [hr]
    exact h
  obtain ⟨n', e, -, hr⟩ | ⟨n', ha, ⟨-, hr⟩ | ⟨c, e, -, hr⟩ | ⟨-, hr⟩⟩ :=
    n.startCall_cases h hcall <;> rw [hr]
  · exact n'.isOpen_abandon
  · -- the call stalls with the state that it has found
    obtain ⟨tracks, armed, attached, -, hframe⟩ :=
      n.attachTracks_frame (n.liveMedia?.getD ⟨[]⟩)
    rw [ha] at hframe
    subst hframe
    exact h
  · exact isOpen_abandon _
  · exact (isOpen_orAbandon (isOpen_sendOffer _ peer _)).fst

/-- **What is closed is shut**, if that was so before the step. -/
theorem Step.shut (hstep : Step n n') (h : n.session.isClosed = true → Shut n)
    (hc' : n'.session.isClosed = true) : Shut n' := by
  cases hc : n.session.isClosed with
  | true => exact (h hc).congr (hstep.frozen (h hc)).toStill
  | false =>
      have hstays (hopen : IsOpen n') : Shut n' := nomatch hopen.symm.trans hc'
      cases hstep with
      | close => exact shut_close h
      | dropCall => exact shut_close fun hd => nomatch hc.symm.trans hd
      | call peer => exact hstays (IsOpen.startCall hc peer)
      | receive m => exact hstays (IsOpen.receive hc m)
      | handle e => exact hstays (IsOpen.handle hc e)
      | resetPeer => exact hstays (IsOpen.resetPeer hc)
      | setMedia | failNext | stallOffers | emit | takeEvents => exact hstays hc

/-- **Whoever finds a session closed finds it shut.** -/
theorem Steps.shut (hsteps : Steps n n') (h : n.session.isClosed = true → Shut n) :
    n'.session.isClosed = true → Shut n' := by
  induction hsteps with
  | refl => exact h
  | tail _ hstep ih => exact hstep.shut ih

/-! ## Open or shut -/

/-- Between two operations, a session is open and an image of its connection, or it is shut. -/
def OpenOrShut (n : Negotiation) : Prop := Mirrors n ∨ Shut n

/-- A closed session of a run is shut: it is no image of any connection. -/
theorem OpenOrShut.shut (h : OpenOrShut n) (hc : n.session.isClosed = true) : Shut n := by
  obtain hopen | hshut := h
  · rw [hopen.isClosed] at hc
    cases hc
  · exact hshut

/-- Only closing closes a session, and closing shuts it. -/
theorem OpenOrShut.step (h : OpenOrShut n) (hstep : Step n n') : OpenOrShut n' := by
  cases hc : n'.session.isClosed with
  | true => exact .inr (hstep.shut h.shut hc)
  | false =>
      obtain hmirrors | hshut := h
      · exact .inl (hmirrors.step hstep hc)
      · rw [hstep.of_closed hshut.isClosed] at hc
        cases hc

theorem OpenOrShut.steps (h : OpenOrShut n) (hsteps : Steps n n') : OpenOrShut n' := by
  induction hsteps with
  | refl => exact h
  | tail _ hstep ih => exact ih.step hstep

end Negotiation

namespace Endpoint

open Negotiation

/-- Every run keeps the session one or the other. -/
theorem openOrShut_after (localId : ClientId) (label : String) (as : List Action) :
    OpenOrShut ((fresh localId label).after as).negotiation :=
  invariant_of_step (fun _ _ => .inl ⟨⟨rfl, .inl rfl⟩, rfl⟩) (fun _ _ hstep h => h.step hstep)
    localId label as

end Endpoint

end Switchboard
