import Switchboard.Proofs.Call.Mirror
import Switchboard.Proofs.Call.Payload

/-!
# One side of an undisturbed call

A side is `Steady` when nothing is armed against it and it deals with one other side only. Then no
operation fails half way, and what an operation does is told by what it does to the `Standing` of
the side, the part of its state that the other side has to agree with, and to the candidates it has
`heard` of.

One theorem for each thing that can happen says that the side stays steady and what becomes of the
two.
-/

namespace Switchboard

structure Standing where
  signaling : SignalingState
  localDescription : Option Description
  remoteDescription : Option Description
  established : Bool

namespace Negotiation

variable {me other : ClientId} {n : Negotiation}

def standing (n : Negotiation) : Standing where
  signaling := n.connection.signaling
  localDescription := n.connection.localDescription
  remoteDescription := n.connection.remoteDescription
  established := n.connection.established

/-- The candidates of the other side that have arrived, oldest first, applied or waiting. -/
def heard (n : Negotiation) : List Candidate :=
  n.connection.candidates ++ n.session.pending.pending

/-- Side `me` of a call with `other`, undisturbed and between two operations. -/
structure Steady (me other : ClientId) (n : Negotiation) : Prop extends Mirrors n where
  localId : n.localId = me
  unarmed : n.connection.armed = []
  willing : n.connection.stallsOffers = false
  /-- No offer of the other side is left unanswered. -/
  answered : n.connection.signaling ≠ .haveRemoteOffer
  negotiating : n.session.negotiating = true ↔ n.connection.signaling = .haveLocalOffer
  peer : n.session.peer = none ∨ n.session.peer = some other
  adopted : n.connection.signaling = .haveLocalOffer ∨ n.connection.established = true →
    n.session.peer = some other
  offering : n.connection.signaling = .haveLocalOffer →
    ∃ o, n.connection.localDescription = some o ∧ o.kind = .offer
  described : n.connection.remoteDescription.isSome = n.connection.established
  /-- Candidates wait only for the first description of the other side. -/
  flushed : n.connection.established = true → n.session.pending.pending = []
  early : n.connection.established = false → n.connection.candidates = []

/-! ## Between two turns -/

/-- No offer of the other side is ever left pending. -/
theorem Steady.signaling_cases (h : Steady me other n) :
    n.connection.signaling = .stable ∨ n.connection.signaling = .haveLocalOffer := by
  rcases h.signaling with hs | hs | hs
  · exact .inl hs
  · exact .inr hs
  · exact absurd hs h.answered

/-- Nothing is armed, and nothing is closed. -/
theorem Steady.ready (h : Steady me other n) (op : ConnectionOp) : n.connection.Ready op := by
  refine ⟨?_, by simp [h.unarmed]⟩
  intro hc
  rcases h.signaling_cases with hs | hs <;> rw [hs] at hc <;> cases hc

def AtRest (n : Negotiation) : Prop :=
  n.session.state = .stable ∧ n.session.negotiating = false

/-- Between exchanges the session of an established call is at rest. -/
theorem Steady.atRest (h : Steady me other n) (hs : n.standing.signaling = .stable)
    (he : n.standing.established = true) : n.AtRest := by
  have hsignaling : n.connection.signaling = .stable := hs
  have hestablished : n.session.established = true := h.established.trans he
  constructor
  · rw [h.state, hsignaling]
    simp [stateAfter, Session.restingState, hestablished]
  · cases hn : n.session.negotiating with
    | false => rfl
    | true => rw [h.negotiating.mp hn] at hsignaling; cases hsignaling

/-- A fresh side is steady. -/
theorem steady_start (me other : ClientId) (label : String) (media : Option MediaSet) :
    Steady me other { Negotiation.start me { label } with media } where
  established := rfl
  signaling := .inl rfl
  state := rfl
  localId := rfl
  unarmed := rfl
  willing := rfl
  answered := by simp [start]
  negotiating := by simp [start]
  peer := .inl rfl
  adopted := by simp [start]
  offering := by simp [start]
  described := rfl
  flushed := fun _ => rfl
  early := fun _ => rfl

/-! ## Calling -/

/-- A call is refused and changes nothing, or it makes an offer. -/
theorem Steady.startCall (h : Steady me other n) :
    (∃ e, n.startCall other = (n, .finished (.error e))) ∨
      (n.connection.signaling = .stable ∧ ∃ n' o, o.kind = .offer ∧
        n.startCall other = (n', .finished (.ok (.signal ⟨.offer, me, other, o.payload⟩))) ∧
        Steady me other n' ∧
        n'.standing = { n.standing with
          signaling := .haveLocalOffer, localDescription := some o } ∧
        n'.heard = n.heard) := by
  cases hcall : n.callRefusal? other with
  | some p =>
      left
      exact ⟨.preconditionFailed p, by simp [Negotiation.startCall, h.isClosed, hcall]⟩
  | none =>
      right
      obtain rfl := h.localId
      have hs : n.connection.signaling = .stable := by
        rcases h.signaling_cases with hs | hs
        · exact hs
        · -- otherwise the call would have been refused
          have hbusy := h.negotiating.mpr hs
          simp only [callRefusal?, hbusy] at hcall
          grind
      have hmirrors := h.toMirrors.startCall other
      obtain ⟨tracks, offers, events, attached, hr⟩ :=
        startCall_of_unhindered h.ready h.isClosed (.inl hs) h.willing hcall
      rw [hr] at hmirrors
      refine ⟨hs, _, _, n.connection.kind_nextOffer, hr, ?_, rfl, rfl⟩
      exact {
        toMirrors := hmirrors
        localId := rfl
        unarmed := h.unarmed
        willing := h.willing
        answered := by simp
        negotiating := by simp
        peer := .inr rfl
        adopted := fun _ => rfl
        offering := fun _ => ⟨_, rfl, rfl⟩
        described := h.described
        flushed := h.flushed
        early := h.early }

/-! ## Offers of the other side -/

/-- How a side that takes an offer comes out: it answers, and nothing is pending any more. -/
def Answers (me other : ClientId) (n : Negotiation) (offer : Description)
    (r : Attempt RemoteOutcome) : Prop :=
  ∃ n' w, w.kind = .answer ∧
    r = (n', .ok (.reply (.signal ⟨.answer, me, other, w.payload⟩))) ∧
    Steady me other n' ∧
    n'.standing =
      { signaling := .stable, localDescription := some w, remoteDescription := some offer,
        established := true } ∧
    n'.heard = n.heard

/-- An offer that comes at rest is answered, and the exchange is complete. -/
theorem Steady.takeOffer (h : Steady me other n) (hs : n.connection.signaling = .stable)
    {offer : Description} (hk : offer.kind = .offer) :
    Answers me other n offer (n.takeOffer other offer) := by
  obtain rfl := h.localId
  have hmirrors := h.toAligned.takeOffer (by simp [hs]) other offer
  obtain ⟨tracks, answers, events, attached, hr⟩ := answerOffer_of_unhindered
    (n := n.onSession fun s => { s.adoptPeer other with negotiating := true }) h.ready hs other hk
  have hadopt : n.session.peer.or (some other) = some other := by
    rcases h.peer with hp | hp <;> rw [hp] <;> rfl
  have htake := takeOffer_of_answerOffer hr
  rw [htake] at hmirrors
  refine ⟨_, _, n.connection.kind_nextAnswer, htake, ?_, ?_, ?_⟩
  · exact {
      toMirrors := hmirrors
      localId := rfl
      unarmed := h.unarmed
      willing := h.willing
      answered := by simp [onSession, hs]
      negotiating := by simp [onSession, hs]
      peer := .inr hadopt
      adopted := fun _ => hadopt
      offering := by simp [onSession, hs]
      described := rfl
      flushed := fun _ => rfl
      early := by simp }
  · simp [standing, onSession, hs]
  · simp [heard, onSession, Session.adoptPeer]

/-! ### Giving way -/

/-- Before the first completed exchange an offer of ours can be withdrawn. -/
theorem Steady.withdraw (h : Steady me other n) (hs : n.connection.signaling = .haveLocalOffer)
    (he : n.connection.established = false) :
    ∃ n', n.withdraw = (n', true) ∧ Steady me other n' ∧ n'.connection.signaling = .stable ∧
      n'.heard = n.heard := by
  have hr := Connection.rollback_of_ready (h.ready .rollback) (by rw [hs]; rfl) he
  have hmirrors := h.toMirrors.withdraw.1
  have hw := withdraw_eq hr
  rw [hw] at hmirrors
  -- nothing was applied before the first answer, so nothing is lost
  refine ⟨_, hw, ?_, rfl, ?_⟩
  · exact {
      toMirrors := hmirrors
      localId := h.localId
      unarmed := h.unarmed
      willing := h.willing
      answered := by simp [noteTracks, onSession]
      negotiating := by simp [noteTracks, onSession]
      peer := h.peer
      adopted := fun _ => h.adopted (.inl hs)
      offering := by simp [noteTracks, onSession]
      described := he.symm
      flushed := by simp [noteTracks, onSession, he]
      early := fun _ => rfl }
  · simp [heard, noteTracks, onSession, h.early he]

/-- After a completed exchange an offer of ours stands. -/
theorem Steady.withdraw_of_established (h : Steady me other n)
    (he : n.connection.established = true) : n.withdraw = (n, false) := by
  obtain ⟨c, e, hsp, hr⟩ := Connection.rollback_of_established he
  unfold Negotiation.withdraw
  rw [hr, hsp.eq_of_armed h.unarmed]

/-- Our offer crosses one of the other side: whether we give way. -/
theorem Steady.yieldsTo (h : Steady me other n) (hs : n.connection.signaling = .haveLocalOffer) :
    n.yieldsTo other = decide (me < other) := by
  simp [Negotiation.yieldsTo, h.adopted (.inl hs), h.localId]

/-- The session knows of its own offer. -/
theorem Steady.state_eq_haveLocalOffer (h : Steady me other n) :
    n.session.state = .haveLocalOffer ↔ n.connection.signaling = .haveLocalOffer :=
  ⟨h.toMirrors.haveLocalOffer, fun hs => by rw [h.state, hs]; rfl⟩

/-! ### When offers cross -/

/-- What arrives as an offer that the other side has written is its description. -/
theorem Steady.receive_offer_eq (h : Steady me other n) (offer : Description) :
    n.receive (.signal ⟨.offer, other, me, offer.payload⟩) = n.receiveOffer other offer := by
  simp [receive, h.isClosed, receiveSignal, offer.decode_payload]

/-- **Giving way.** An offer is answered when none of ours is pending, and also when ours can still
be withdrawn and our id is the lower one. -/
theorem Steady.receive_offer (h : Steady me other n) (offer : Description)
    (hk : offer.kind = .offer)
    (hway : n.connection.signaling = .stable ∨ (n.connection.established = false ∧ me < other)) :
    Answers me other n offer (n.receive (.signal ⟨.offer, other, me, offer.payload⟩)) := by
  rw [h.receive_offer_eq, receiveOffer]
  obtain hs | hs := h.signaling_cases
  · rw [if_neg (by simp [h.state_eq_haveLocalOffer, hs])]
    exact h.takeOffer hs hk
  · obtain ⟨he, hlt⟩ : n.connection.established = false ∧ me < other := by simpa [hs] using hway
    obtain ⟨n', hw, hn', hs', hheard⟩ := h.withdraw hs he
    rw [if_pos (h.state_eq_haveLocalOffer.mpr hs), h.yieldsTo hs, if_pos (by simpa using hlt), hw]
    rw [Answers, ← hheard]
    exact hn'.takeOffer hs' hk

/-- **Standing firm.** Otherwise our own offer stands, and nothing changes. -/
theorem Steady.receive_offer_glare (h : Steady me other n) (offer : Description)
    (hs : n.connection.signaling = .haveLocalOffer)
    (hway : ¬(n.connection.established = false ∧ me < other)) :
    n.receive (.signal ⟨.offer, other, me, offer.payload⟩) = (n, .ok .glare) := by
  rw [h.receive_offer_eq, receiveOffer, if_pos (h.state_eq_haveLocalOffer.mpr hs), h.yieldsTo hs]
  by_cases hlt : me < other
  · have he : n.connection.established = true := by simpa [hlt] using hway
    rw [if_pos (by simpa using hlt), h.withdraw_of_established he]
  · rw [if_neg (by simpa using hlt)]

/-! ## Answers of the other side -/

/-- An answer to the pending offer completes the exchange. -/
theorem Steady.receive_answer (h : Steady me other n) (answer : Description)
    (hk : answer.kind = .answer) (hs : n.connection.signaling = .haveLocalOffer) :
    ∃ n', n.receive (.signal ⟨.answer, other, me, answer.payload⟩) = (n', .ok .answerApplied) ∧
      Steady me other n' ∧
      n'.standing = { n.standing with
        signaling := .stable, remoteDescription := some answer, established := true } ∧
      n'.heard = n.heard := by
  have hstate := h.state_eq_haveLocalOffer.mpr hs
  have hmirrors := h.toMirrors.applyAnswer hstate answer
  have hreceive : n.receive (.signal ⟨.answer, other, me, answer.payload⟩) =
      n.applyAnswer answer := by
    simp [receive, h.isClosed, receiveSignal, hstate, answer.decode_payload]
  have hr := applyAnswer_of_unhindered h.ready hs hk
  rw [hr] at hmirrors
  refine ⟨_, hreceive.trans hr, ?_, rfl, by simp [heard]⟩
  · exact {
      toMirrors := hmirrors
      localId := h.localId
      unarmed := h.unarmed
      willing := h.willing
      answered := by simp
      negotiating := by simp
      peer := h.peer
      adopted := fun _ => h.adopted (.inl hs)
      offering := by simp
      described := rfl
      flushed := fun _ => rfl
      early := by simp }

/-- An answer that comes after all is over changes nothing. -/
theorem Steady.receive_answer_stale (h : Steady me other n) (answer : Description)
    (hs : n.connection.signaling = .stable) :
    n.receive (.signal ⟨.answer, other, me, answer.payload⟩) = (n, .ok .staleAnswer) := by
  simp [receive, h.isClosed, receiveSignal, h.state_eq_haveLocalOffer, hs]

/-! ## Candidates of the other side -/

/-- A candidate is heard, at once or when the first description has come. -/
theorem Steady.receive_candidate (h : Steady me other n) (c : Candidate) :
    ∃ n' outcome, n.receive (.signal ⟨.candidate, other, me, c.payload⟩) = (n', .ok outcome) ∧
      (∀ reply, outcome ≠ .reply reply) ∧ Steady me other n' ∧ n'.standing = n.standing ∧
      n'.heard = n.heard ++ [c] := by
  have hmirrors := h.toMirrors.receiveCandidate c
  have hreceive : n.receive (.signal ⟨.candidate, other, me, c.payload⟩) = n.receiveCandidate c := by
    simp [receive, h.isClosed, receiveSignal, c.decode_payload]
  rw [hreceive]
  cases he : n.connection.established with
  | false =>
      -- before the first exchange it waits
      have hd : n.connection.remoteDescription = none := by
        simpa [he] using h.described
      have hr := receiveCandidate_none hd c
      rw [hr] at hmirrors
      refine ⟨_, _, hr, by simp, ?_, rfl, by simp [heard, onSession]⟩
      exact { h with
        toMirrors := hmirrors
        flushed := by simp [onSession, he] }
  | true =>
      -- after it, it is applied at once
      have hd : n.connection.remoteDescription.isSome := h.described.trans he
      have hr := receiveCandidate_some hd
        (Connection.addCandidate_of_ready (h.ready .addCandidate) hd c)
      rw [hr] at hmirrors
      refine ⟨_, _, hr, by simp, ?_, rfl, by simp [heard, h.flushed he]⟩
      exact { h with
        toMirrors := hmirrors
        early := by simp [he] }

/-! ## Events of the connection -/

/-- Handling an event does not move the call, and signals candidates only. -/
theorem Steady.handle (h : Steady me other n) (e : ConnectionEvent) :
    ∃ n' r, n.handle e = (n', .ok r) ∧ Steady me other n' ∧ n'.standing = n.standing ∧
      n'.heard = n.heard ∧
      ∀ m, r = some (.signal m) → ∃ c : Candidate, m = .signal ⟨.candidate, me, other, c.payload⟩ := by
  have hmirrors := h.toMirrors.handle e
  obtain rfl := h.localId
  cases e with
  | localCandidate c =>
      refine ⟨n, n.session.peer.map fun peer =>
        .signal (.signal ⟨.candidate, n.localId, peer, c.payload⟩), ?_, h, rfl, rfl, fun m hm => ⟨c, ?_⟩⟩
      · simp [Negotiation.handle, h.isClosed]
      rcases h.peer with hp | hp <;> simp [hp] at hm
      exact hm.symm
  | signalingChanged s =>
      -- what is under way waits for an answer: a report settles nothing
      have hsettle : n.settle = n := by
        unfold Negotiation.settle isSettled
        cases hn : n.session.negotiating with
        | false => rfl
        | true => simp [h.negotiating.mp hn, SignalingState.isStable]
      refine ⟨n, none, ?_, h, rfl, rfl, by simp⟩
      simp [Negotiation.handle, h.isClosed, hsettle]
  | iceChanged s =>
      have hr : n.handle (.iceChanged s) =
          (n.onSession fun session => { session with iceState := s },
            .ok (some (.iceChanged s))) := by
        simp [Negotiation.handle, h.isClosed]
      rw [hr] at hmirrors
      exact ⟨_, _, hr, { h with toMirrors := hmirrors }, rfl, rfl, by simp⟩
  | remoteTrack t =>
      refine ⟨n, some (.remoteTrack n.session.peer t), ?_, h, rfl, rfl, by simp⟩
      simp [Negotiation.handle, h.isClosed]

end Negotiation

end Switchboard
