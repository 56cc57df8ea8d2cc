import Switchboard.Proofs.Call.Steady

/-!
# What becomes of the candidates of the other side

A candidate that arrives early waits, and all that wait are handed to the connection as soon as a
description of the other side is applied. That is in the middle of an exchange, which may still
fail: undoing a first exchange clears the connection, and the candidates it has been handed with it.

So a side still has what it accepted since the last time that this happened (`heard_after`), and it
can happen only in a first exchange in which answering fails. Everything rests on two facts that
hold between any two operations: where candidates are (`Placed`), and how what was `heard` changes
from one to the next (`Keeps`, `Undone`).
-/

namespace Switchboard

def Message.candidate? : Message → Option Candidate
  | .signal ⟨.candidate, _, _, payload⟩ => (payload.decode Candidate.read).toOption
  | _ => none

/-- Offers and answers bring no candidate. -/
theorem Message.candidate?_of_topic_ne {s : Signal} (h : s.topic ≠ .candidate) :
    (Message.signal s).candidate? = none := by
  cases s with
  | mk topic =>
      cases topic with
      | offer | answer => rfl
      | candidate => exact absurd rfl h

namespace Negotiation

variable {n₀ n : Negotiation} {xs : List Candidate} {α : Type}

/-! ## Where candidates are -/

/-- Candidates wait until a description of the other side is known, and are with the connection
from then on. -/
structure Placed (n : Negotiation) : Prop where
  /-- A description of the other side is known after a completed exchange, and while an offer of
  that side is pending. -/
  described : n.connection.remoteDescription.isSome ↔
    n.connection.established = true ∨ n.connection.signaling = .haveRemoteOffer
  waiting : n.connection.remoteDescription.isSome → n.session.pending.pending = []
  applied : n.connection.remoteDescription = none → n.connection.candidates = []

/-- Answering may fail: a stage of it that comes after the flush is armed, or an answer has failed
before and left its offer pending. -/
def Risky (n : Negotiation) : Prop :=
  n.connection.signaling = .haveRemoteOffer ∨ .createAnswer ∈ n.connection.armed ∨
    .setLocalDescription ∈ n.connection.armed

/-- `n` comes of `n₀`, and has heard of `xs` besides. -/
structure Gains (n₀ : Negotiation) (xs : List Candidate) (n : Negotiation) : Prop where
  armed : n.connection.armed ⊆ n₀.connection.armed
  established : n₀.connection.established = true → n.connection.established = true
  heard : n.heard.Sublist (n₀.heard ++ xs)
  /-- Candidates are refused only where that is armed. -/
  whole : .addCandidate ∉ n₀.connection.armed → n.heard = n₀.heard ++ xs

/-- `n₀` goes on to `n`, and all that was heard is kept. -/
structure Keeps (n₀ : Negotiation) (xs : List Candidate) (n : Negotiation) : Prop
    extends Placed n, Gains n₀ xs n where
  pending : n.connection.signaling = .haveRemoteOffer → Risky n₀

/-- `n₀` goes on to `n`, and the first exchange is undone with an offer of the other side pending.
What that side has told of itself is gone. -/
structure Undone (n₀ n : Negotiation) : Prop extends Placed n where
  armed : n.connection.armed ⊆ n₀.connection.armed
  risky : Risky n₀
  first : n₀.connection.established = false
  signaling : n.connection.signaling = .stable
  remoteDescription : n.connection.remoteDescription = none
  heard : n.heard = []

theorem Gains.refl (n : Negotiation) : Gains n [] n :=
  ⟨fun _ h => h, id, by simp, by simp⟩

/-! ### Stages that move nothing -/

/-- To begin with, nothing has been moved. -/
theorem Placed.keeps (h : Placed n) : Keeps n [] n := ⟨h, .refl n, .inl⟩

/-- Only what is armed may change, and only by being used up. -/
theorem Keeps.spends (h : Keeps n₀ xs n) {c : Connection} (hc : n.connection.Spends c) :
    Keeps n₀ xs { n with connection := c } := by
  obtain ⟨armed, hsub, rfl⟩ := hc
  exact { h with armed := fun _ hx => h.armed (hsub hx) }

/-- Attaching tracks moves no candidate. -/
theorem Keeps.attachTracks (h : Keeps n₀ xs n) (m : MediaSet) :
    Keeps n₀ xs (n.attachTracks m).1 := by
  obtain ⟨tracks, armed, attached, hsub, hr⟩ := n.attachTracks_frame m
  rw [hr]
  exact { h with armed := fun _ hx => h.armed (hsub hx) }

theorem Keeps.attachLiveMedia (h : Keeps n₀ xs n) : Keeps n₀ xs n.attachLiveMedia.1 := by
  obtain ⟨tracks, armed, attached, hsub, hr⟩ := n.attachLiveMedia_frame
  rw [hr]
  exact { h with armed := fun _ hx => h.armed (hsub hx) }

theorem Keeps.settle (h : Keeps n₀ xs n) : Keeps n₀ xs n.settle := by
  unfold Negotiation.settle
  split
  · exact { h with }
  · exact h

theorem Keeps.complete (h : Keeps n₀ xs n) : Keeps n₀ xs n.complete :=
  Keeps.settle (n := n.onSession Session.markStable) { h with }

/-! ## Flushing -/

/-- A flush moves the candidates of the buffer to the connection, and those that are refused go. -/
theorem Gains.flushCandidates (h : Gains n₀ [] n) (hopen : n.connection.signaling ≠ .closed)
    (hd : n.connection.remoteDescription.isSome) : Gains n₀ [] n.flushCandidates := by
  obtain ⟨taken, armed, hle, hsub, hr⟩ := n.flushCandidates_frame
  have hheard : n.flushCandidates.heard = n.connection.candidates ++ taken := by
    rw [hr]
    simp [Negotiation.heard]
  refine ⟨?_, ?_, ?_, ?_⟩
  · rw [hr]
    exact fun _ hx => h.armed (hsub hx)
  · rw [hr]
    exact h.established
  · rw [hheard]
    exact (hle.append_left _).trans h.heard
  · -- a candidate is refused only if that is armed
    intro harmed
    have hready : n.connection.Ready .addCandidate := ⟨hopen, fun hx => harmed (h.armed hx)⟩
    rw [← h.whole harmed, flushCandidates_of_ready hready hd]
    simp [Negotiation.heard]

/-- With a description of the other side, flushing puts every candidate in its place. -/
theorem placed_flushCandidates (hd : n.connection.remoteDescription.isSome)
    (hs : n.connection.established = true ∨ n.connection.signaling = .haveRemoteOffer) :
    Placed n.flushCandidates := by
  obtain ⟨taken, armed, -, -, hr⟩ := n.flushCandidates_frame
  rw [hr]
  exact ⟨⟨fun _ => hs, fun _ => hd⟩, fun _ => rfl,
    fun hnone => absurd hnone (Option.isSome_iff_ne_none.mp hd)⟩

/-- After the last description of an exchange, flushing ends it. -/
theorem Gains.flushed (h : Gains n₀ [] n) (hs : n.connection.signaling = .stable)
    (he : n.connection.established = true) (hd : n.connection.remoteDescription.isSome) :
    Keeps n₀ [] n.flushCandidates :=
  ⟨placed_flushCandidates hd (.inl he), h.flushCandidates (by simp [hs]) hd, by simp [hs]⟩

/-! ## Giving up -/

/-- Rolling back an offer of this side loses nothing; rolling back one of the other side loses what
the connection has been handed. -/
theorem Keeps.rollback (h : Keeps n₀ [] n) :
    Keeps n₀ [] { n with connection := n.connection.rollback.1 } ∨
      n.connection.signaling = .haveRemoteOffer ∧
        Undone n₀ { n with connection := n.connection.rollback.1 } := by
  obtain ⟨c, e, hspends, hr⟩ | ⟨-, hfirst, hr⟩ := n.connection.rollback_cases
  · rw [hr]
    exact .inl (h.spends hspends)
  rw [hr]
  have hplaced : Placed { n with connection := { n.connection with
      signaling := .stable, localDescription := none, remoteDescription := none,
      candidates := [], tracks := [] } } :=
    ⟨by simp [hfirst], by simp, fun _ => rfl⟩
  by_cases hs : n.connection.signaling = .haveRemoteOffer
  · have hfirst' : n₀.connection.established = false := by
      by_contra hne
      simp [h.established (by simpa using hne)] at hfirst
    have hwaiting := h.waiting (h.described.mpr (.inr hs))
    exact .inr ⟨hs, hplaced, h.armed, h.pending hs, hfirst', rfl, rfl, hwaiting⟩
  · -- nothing has been handed to the connection yet
    have hnone : n.connection.remoteDescription = none := by
      simpa [hfirst, hs] using h.described
    have hheard : n.session.pending.pending = n.heard := by
      simp [Negotiation.heard, h.applied hnone]
    refine .inl ⟨hplaced, ⟨h.armed, h.established, ?_, ?_⟩, by simp⟩
    · show n.session.pending.pending.Sublist (n₀.heard ++ [])
      rw [hheard]
      exact h.heard
    · show _ → n.session.pending.pending = n₀.heard ++ []
      rw [hheard]
      exact h.whole

/-- Undoing an exchange moves nothing, or discards what the connection was given. -/
theorem Keeps.undo (h : Keeps n₀ [] n) : Keeps n₀ [] n.undo ∨ Undone n₀ n.undo := by
  unfold Negotiation.undo
  split
  · exact .inl h
  · obtain hkeeps | ⟨-, hundone⟩ := h.rollback
    · exact .inl { hkeeps with }
    · exact .inr { hundone with }

/-- Abandoning an exchange moves nothing, or discards what the connection was given. -/
theorem Keeps.abandon (h : Keeps n₀ [] n) : Keeps n₀ [] n.abandon ∨ Undone n₀ n.abandon := by
  have hquiet : Keeps n₀ [] (n.onSession fun s => { s with negotiating := false }) := { h with }
  unfold Negotiation.abandon
  obtain hundo | hundo := hquiet.undo
  · exact .inl { hundo with }
  · exact .inr { hundo with }

/-! ## Stages -/

/-- The connection has refused a stage. -/
def Refused (e : NegotiationError) : Prop := ∃ cause, e = .failure cause

/-- A stage keeps what was heard, also when the connection refuses it. -/
abbrev Stage (n₀ : Negotiation) (r : Attempt α) : Prop :=
  Leaves (fun e n => Refused e ∧ Keeps n₀ [] n) (fun _ n => Keeps n₀ [] n) r

/-- Attaching fails only if the connection refuses a track. -/
theorem refused_attachTracks {n' : Negotiation} {m : MediaSet} {e : NegotiationError}
    (h : n.attachTracks m = (n', .error e)) : Refused e := by
  unfold Negotiation.attachTracks at h
  rcases hr : n.connection.attach m with ⟨c, cause | k⟩ <;>
    rw [onConnection_eq (·.attach m) hr] at h <;> cases h
  exact ⟨cause, rfl⟩

/-- Attaching live media is a stage that moves no candidate. -/
theorem Keeps.stage_attachLiveMedia (h : Keeps n₀ [] n) : Stage n₀ n.attachLiveMedia := by
  have hkeeps := h.attachLiveMedia
  rcases hr : n.attachLiveMedia with ⟨n', e | ⟨⟩⟩
  · rw [hr] at hkeeps
    refine ⟨?_, hkeeps⟩
    unfold Negotiation.attachLiveMedia at hr
    split at hr
    · cases hr
    · exact refused_attachTracks hr
  · rw [hr] at hkeeps
    exact hkeeps

/-- Our own offer is applied or refused. -/
theorem Keeps.sendOffer (h : Keeps n₀ [] n) (peer : ClientId) {offer : Description}
    (hk : offer.kind = .offer) : Stage n₀ (n.sendOffer peer offer) := by
  rw [sendOffer_eq]
  obtain ⟨c, e, hspends, hr⟩ | ⟨-, hs, hr⟩ | ⟨ha, -, -⟩ :=
    n.connection.setLocalDescription_cases offer
  · rw [onConnection_eq (·.setLocalDescription offer) hr]
    exact ⟨⟨e, rfl⟩, h.spends hspends⟩
  · rw [onConnection_eq (·.setLocalDescription offer) hr, Connection.moveTo_eq]
    -- an own offer is applied only where no offer of the other side is pending
    have hfree : n.connection.signaling ≠ .haveRemoteOffer := by
      rcases hs with hs | hs <;> simp [hs]
    have hdescribed := h.described
    simp only [hfree, or_false] at hdescribed
    exact { h with
      described := by simpa [onSession] using hdescribed
      pending := by simp [onSession] }
  · rw [hk] at ha
    cases ha

/-- Once all candidates are handed over, only what was armed keeps the offer from being answered. -/
theorem Gains.answerPending (h : Gains n₀ [] n) (hd : n.connection.remoteDescription.isSome)
    (hs : n.connection.signaling = .haveRemoteOffer) (sender : ClientId) :
    Stage n₀ (n.answerPending sender) := by
  have hplaced := placed_flushCandidates hd (.inr hs)
  have hgains := h.flushCandidates (by simp [hs]) hd
  have hpending : n.flushCandidates.connection.signaling = .haveRemoteOffer := by simp [hs]
  unfold Negotiation.answerPending
  generalize n.flushCandidates = n at hplaced hgains hpending
  -- a failure is expected from here on, and that excuses what is lost when the offer is withdrawn
  have hmade : Leaves (fun e m => Refused e ∧ Keeps n₀ [] m)
      (fun answer m => answer.kind = .answer ∧ Placed m ∧ Gains n₀ [] m ∧
        m.connection.signaling = .haveRemoteOffer)
      (n.onConnection Connection.createAnswer) := by
    obtain ⟨harmed, c, e, hspends, hr⟩ | hr := Connection.createAnswer_cases_of_pending hpending
    · have hkeeps : Keeps n₀ [] n := ⟨hplaced, hgains, fun _ => .inr (.inl (hgains.armed harmed))⟩
      rw [onConnection_eq Connection.createAnswer hr]
      exact ⟨⟨e, rfl⟩, hkeeps.spends hspends⟩
    · rw [onConnection_eq Connection.createAnswer hr]
      exact ⟨rfl, { hplaced with }, { hgains with }, hpending⟩
  apply hmade.andThen
  rintro answer m ⟨hk, hplaced, hgains, hpending⟩
  obtain ⟨harmed, c, e, hspends, hr⟩ | hr :=
    Connection.setLocalDescription_answer_cases hk hpending
  · have hkeeps : Keeps n₀ [] m := ⟨hplaced, hgains, fun _ => .inr (.inr (hgains.armed harmed))⟩
    rw [onConnection_eq (·.setLocalDescription answer) hr]
    exact ⟨⟨e, rfl⟩, hkeeps.spends hspends⟩
  · rw [onConnection_eq (·.setLocalDescription answer) hr, Connection.moveTo_eq]
    refine Keeps.complete ⟨⟨?_, hplaced.waiting, hplaced.applied⟩, ?_, by simp⟩
    · exact ⟨fun _ => .inl rfl, fun _ => hplaced.described.mpr (.inr hpending)⟩
    · exact { hgains with established := fun _ => rfl }

/-- An offer that is applied opens the way for the candidates that wait. -/
theorem Keeps.answerOffer (h : Keeps n₀ [] n) (hs : n.connection.signaling ≠ .haveLocalOffer)
    (sender : ClientId) (offer : Description) : Stage n₀ (n.answerOffer sender offer) := by
  rw [answerOffer_eq]
  apply (h.stage_attachLiveMedia.attachLiveMedia hs).andThen
  rintro ⟨⟩ m ⟨hkeeps, hs⟩
  obtain ⟨c, e, hspends, hr⟩ | ⟨-, hstable, hr⟩ | ⟨-, hlocal, -⟩ :=
    m.connection.setRemoteDescription_cases offer
  · rw [onConnection_eq (·.setRemoteDescription offer) hr]
    exact ⟨⟨e, rfl⟩, hkeeps.spends hspends⟩
  · rw [onConnection_eq (·.setRemoteDescription offer) hr, Connection.moveTo_eq]
    show Stage n₀ (Negotiation.answerPending _ sender)
    refine Gains.answerPending ?_ rfl rfl sender
    exact { hkeeps with }
  · exact absurd hlocal hs

/-! ## Messages -/

/-- The candidate that a message brought, if the outcome says that it was accepted. -/
def accepted (m : Message) : Except NegotiationError RemoteOutcome → List Candidate
  | .ok .candidateApplied | .ok .candidateBuffered => m.candidate?.toList
  | _ => []

/-- How a side comes out of a message: it keeps what it has heard and has heard of what it accepted,
or it fails, and the first exchange is undone by that. -/
def Heeds (n₀ : Negotiation) (xs : List Candidate) (r : Attempt RemoteOutcome) : Prop :=
  Keeps n₀ xs r.1 ∨ (∃ e, r.2 = .error e ∧ Refused e) ∧ Undone n₀ r.1

/-- Taking an offer up accepts no candidate, and may flush those that wait. -/
theorem Keeps.takeOffer (h : Keeps n₀ [] n) (hs : n.connection.signaling ≠ .haveLocalOffer)
    (sender : ClientId) (offer : Description) : Heeds n₀ [] (n.takeOffer sender offer) := by
  rw [takeOffer_eq]
  have hadopt : Keeps n₀ []
      (n.onSession fun s => { s.adoptPeer sender with negotiating := true }) := { h with }
  have hanswer := hadopt.answerOffer hs sender offer
  rcases hr : (n.onSession fun s => { s.adoptPeer sender with negotiating := true }).answerOffer
    sender offer with ⟨m, e | answer⟩ <;> rw [hr] at hanswer
  · obtain ⟨hrefused, hkeeps⟩ := hanswer
    obtain hkeeps | hundone := hkeeps.abandon
    · exact .inl hkeeps
    · exact .inr ⟨⟨e, rfl, hrefused⟩, hundone⟩
  · exact .inl hanswer

/-- An own offer that is in the way is withdrawn, or it stands. -/
theorem Keeps.withdraw (h : Keeps n₀ [] n) (hs : n.connection.signaling = .haveLocalOffer) :
    Keeps n₀ [] n.withdraw.1 := by
  have hkeeps : Keeps n₀ [] { n with connection := n.connection.rollback.1 } := by
    obtain hkeeps | ⟨hpending, -⟩ := h.rollback
    · exact hkeeps
    · rw [hs] at hpending
      cases hpending
  unfold Negotiation.withdraw
  split
  · next hr =>
      rw [hr] at hkeeps
      exact hkeeps
  · next hr =>
      rw [hr] at hkeeps
      exact { hkeeps with }

/-! ### What each message does -/

/-- An offer that is let pass moves no candidate; for one that is taken up the own offer is
withdrawn first. -/
theorem Placed.receiveOffer (h : Placed n) (hm : Mirrors n) (sender : ClientId)
    (offer : Description) : Heeds n [] (n.receiveOffer sender offer) := by
  unfold Negotiation.receiveOffer
  split
  · next hstate =>
      split
      · have hkeeps := h.keeps.withdraw (hm.haveLocalOffer hstate)
        have hfree := hm.withdraw.2
        rcases hr : n.withdraw with ⟨n', _ | _⟩ <;> rw [hr] at hkeeps hfree
        · exact .inl hkeeps
        · exact hkeeps.takeOffer (hfree rfl) sender offer
      · exact .inl h.keeps
  · next hstate =>
      refine h.keeps.takeOffer (fun hs => hstate ?_) sender offer
      rw [hm.state, hs]
      rfl

/-- An answer completes the exchange, or our own offer is given up. -/
theorem Placed.applyAnswer (h : Placed n) (hs : n.connection.signaling = .haveLocalOffer)
    (answer : Description) : Heeds n [] (n.applyAnswer answer) := by
  rw [applyAnswer_eq]
  obtain ⟨c, e, hspends, hr⟩ | ⟨-, hstable, -⟩ | ⟨-, -, hr⟩ :=
    n.connection.setRemoteDescription_cases answer
  · rw [onConnection_eq (·.setRemoteDescription answer) hr]
    obtain hkeeps | hundone := (h.keeps.spends hspends).abandon
    · exact .inl hkeeps
    · exact .inr ⟨⟨_, rfl, e, rfl⟩, hundone⟩
  · rw [hs] at hstable
    cases hstable
  · rw [onConnection_eq (·.setRemoteDescription answer) hr, Connection.moveTo_eq]
    refine .inl (Keeps.complete (Gains.flushed ?_ rfl rfl rfl))
    exact { Gains.refl n with established := fun _ => rfl }

/-- A candidate is refused, or it is accepted and put in its place. -/
theorem Placed.receiveCandidate (h : Placed n) (x : Candidate) :
    (∃ e, (n.receiveCandidate x).2 = .error e ∧ Keeps n [] (n.receiveCandidate x).1) ∨
      ((n.receiveCandidate x).2 = .ok .candidateApplied ∨
          (n.receiveCandidate x).2 = .ok .candidateBuffered) ∧
        Keeps n [x] (n.receiveCandidate x).1 := by
  cases hd : n.connection.remoteDescription with
  | none =>
      -- it waits
      rw [receiveCandidate_none hd]
      have hheard : (n.onSession fun s => { s with pending := s.pending.enqueue x }).heard =
          n.heard ++ [x] := by
        simp [Negotiation.heard, onSession]
      have hgains : Gains n [x] (n.onSession fun s => { s with pending := s.pending.enqueue x }) :=
        ⟨fun _ h => h, id, by simp [hheard], fun _ => hheard⟩
      exact .inr ⟨.inr rfl, ⟨h.described, by simp [onSession, hd], h.applied⟩, hgains, .inl⟩
  | some d =>
      have hsome : n.connection.remoteDescription.isSome := by simp [hd]
      obtain ⟨c, e, hspends, hr⟩ | ⟨-, hr⟩ := n.connection.addCandidate_cases x
      · have hreceive : n.receiveCandidate x =
            ({ n with connection := c }, .error (.failure e)) := by
          simp only [Negotiation.receiveCandidate, hd, onConnection_eq (·.addCandidate x) hr,
            Except.mapError]
        rw [hreceive]
        exact .inl ⟨_, rfl, h.keeps.spends hspends⟩
      · -- it goes to the connection, where nothing waits before it
        rw [receiveCandidate_some hsome hr]
        have hheard : Negotiation.heard { n with connection := { n.connection with
            candidates := n.connection.candidates ++ [x] } } = n.heard ++ [x] := by
          simp [Negotiation.heard, h.waiting hsome]
        have hgains : Gains n [x] { n with connection := { n.connection with
            candidates := n.connection.candidates ++ [x] } } :=
          ⟨fun _ h => h, id, by simp [hheard], fun _ => hheard⟩
        exact .inr ⟨.inl rfl, ⟨h.described, h.waiting, by simp [hd]⟩, hgains, .inl⟩

/-- Nothing but a candidate message brings a candidate. -/
theorem accepted_eq_nil {m : Message} (h : m.candidate? = none)
    (r : Except NegotiationError RemoteOutcome) : accepted m r = [] := by
  unfold accepted
  split <;> simp [h]

/-- **A message adds what it is accepted for, and takes nothing away** unless it fails and the first
exchange is undone by that. -/
theorem Placed.receive (h : Placed n) (hm : Mirrors n) (m : Message) :
    Heeds n (accepted m (n.receive m).2) (n.receive m) := by
  have hreceives := n.receives m
  generalize n.receive m = r at hreceives ⊢
  cases hreceives with
  | nothing hr => cases hr <;> exact .inl h.keeps
  | @offer s offer htopic =>
      rw [accepted_eq_nil (Message.candidate?_of_topic_ne (by simp [htopic]))]
      exact h.receiveOffer hm s.sender offer
  | @answer s answer htopic hstate =>
      rw [accepted_eq_nil (Message.candidate?_of_topic_ne (by simp [htopic]))]
      exact h.applyAnswer (hm.haveLocalOffer hstate) answer
  | @candidate s x htopic hread =>
      have hsome : (Message.signal s).candidate? = some x := by
        cases s
        cases htopic
        simp [Message.candidate?, hread, Except.toOption]
      obtain ⟨e, hr, hkeeps⟩ | ⟨hr | hr, hkeeps⟩ := h.receiveCandidate x
      · rw [hr]
        exact .inl hkeeps
      all_goals
        rw [hr, accepted, hsome]
        exact .inl hkeeps

/-! ## The other operations -/

/-- A call takes nothing away unless it fails, and the first exchange is undone by that. -/
theorem Placed.startCall (h : Placed n) (peer : ClientId) :
    Keeps n [] (n.startCall peer).1 ∨
      (∃ e, (n.startCall peer).2 = .finished (.error e) ∧ Refused e) ∧
        Undone n (n.startCall peer).1 := by
  have hgivenUp : ∀ {m : Negotiation} {e : NegotiationError}, Keeps n [] m → Refused e →
      n.startCall peer = (m.abandon, .finished (.error e)) →
      Keeps n [] (n.startCall peer).1 ∨
        (∃ e, (n.startCall peer).2 = .finished (.error e) ∧ Refused e) ∧
          Undone n (n.startCall peer).1 := by
    intro m e hkeeps hrefused hr
    rw [hr]
    obtain hkeeps | hundone := hkeeps.abandon
    · exact .inl hkeeps
    · exact .inr ⟨⟨e, rfl, hrefused⟩, hundone⟩
  obtain ⟨e, hr, -⟩ | ⟨hopen, hcall⟩ := n.startCall_turnedDown_or peer
  · rw [hr]
    exact .inl h.keeps
  -- the stages of the call, each of which may be its last
  have hattach := h.keeps.attachTracks (n.liveMedia?.getD ⟨[]⟩)
  obtain ⟨m, e, ha, hr⟩ | ⟨m, ha, ⟨-, hr⟩ | ⟨c, e, hspends, hr⟩ | ⟨-, hr⟩⟩ :=
    n.startCall_cases hopen hcall <;> rw [ha] at hattach
  · exact hgivenUp hattach (refused_attachTracks ha) hr
  · rw [hr]
    exact .inl hattach
  · exact hgivenUp (hattach.spends hspends) ⟨e, rfl⟩ hr
  · have hmade : Keeps n [] { m with connection :=
        { m.connection with offersCreated := m.connection.offersCreated + 1 } } :=
      { hattach with }
    have hsent := hmade.sendOffer peer m.connection.kind_nextOffer
    rcases hsend : Negotiation.sendOffer { m with connection :=
        { m.connection with offersCreated := m.connection.offersCreated + 1 } } peer
          m.connection.nextOffer with ⟨m', e | offer⟩ <;> rw [hsend] at hsent hr
    · exact hgivenUp hsent.2 hsent.1 hr
    · rw [hr]
      exact .inl hsent

/-- Events are no business of the candidates of the other side. -/
theorem Keeps.handle (h : Keeps n₀ xs n) (e : ConnectionEvent) : Keeps n₀ xs (n.handle e).1 := by
  unfold Negotiation.handle
  split
  · exact h
  cases e with
  | localCandidate c => exact h
  | signalingChanged s =>
      cases hs : s.isStable with
      | true => simpa [hs] using h.settle
      | false => simpa [hs] using h
  | iceChanged s => exact { h with }
  | remoteTrack t => exact h

theorem Keeps.handleAll (h : Keeps n₀ xs n) (es : List ConnectionEvent) :
    Keeps n₀ xs (n.handleAll es).1 := by
  induction es generalizing n with
  | nil => exact h
  | cons e es ih => exact ih (h.handle e)

/-- A released peer leaves its candidates behind. -/
theorem Keeps.resetPeer (h : Keeps n₀ xs n) : Keeps n₀ xs n.resetPeer.1 := by
  unfold Negotiation.resetPeer
  split
  · exact h
  · split
    · exact h
    · exact { h with }

/-! ## An answer that fails -/

/-- Giving up an offer of the other side in a first exchange clears the connection. -/
theorem heard_abandon (hs : n.connection.signaling = .haveRemoteOffer)
    (hfirst : n.connection.established = false) (hroll : .rollback ∉ n.connection.armed)
    (hwaiting : n.session.pending.pending = []) : n.abandon.heard = [] := by
  have hr := Connection.rollback_of_ready (c := n.connection) ⟨by simp [hs], hroll⟩
    (by rw [hs]; rfl) hfirst
  simp [abandon, undo, onSession, noteTracks, hs, SignalingState.isStable, hr, heard, hwaiting]

/-- With all candidates handed over, the answer is refused. -/
theorem answerPending_of_armed (hs : n.connection.signaling = .haveRemoteOffer)
    (hd : n.connection.remoteDescription.isSome) (hadd : .addCandidate ∉ n.connection.armed)
    (harmed : .createAnswer ∈ n.connection.armed ∨ .setLocalDescription ∈ n.connection.armed)
    (sender : ClientId) :
    ∃ m e, n.answerPending sender = (m, .error e) ∧ Refused e ∧
      m.connection.signaling = .haveRemoteOffer ∧
      m.connection.established = n.connection.established ∧
      m.connection.armed ⊆ n.connection.armed ∧ m.session.pending.pending = [] := by
  rw [Negotiation.answerPending, flushCandidates_of_ready ⟨by simp [hs], hadd⟩ hd]
  by_cases hcreate : .createAnswer ∈ n.connection.armed
  · -- no answer is made
    obtain ⟨_, e, ⟨armed, hsub, rfl⟩, hr⟩ := Connection.createAnswer_of_armed (c :=
      { n.connection with candidates := n.connection.candidates ++ n.session.pending.pending })
      hcreate
    rw [onConnection_eq Connection.createAnswer hr]
    exact ⟨_, _, rfl, ⟨e, rfl⟩, hs, rfl, hsub, rfl⟩
  · -- one is made, and it is applying it that fails
    have hmade := Connection.createAnswer_of_ready (c := { n.connection with
      candidates := n.connection.candidates ++ n.session.pending.pending })
      ⟨by simp [hs], hcreate⟩ hs
    obtain ⟨_, e, ⟨armed, hsub, rfl⟩, hr⟩ := Connection.setLocalDescription_of_armed (c :=
      { n.connection with
        candidates := n.connection.candidates ++ n.session.pending.pending
        answersCreated := n.connection.answersCreated + 1 })
      (harmed.resolve_left hcreate) n.connection.nextAnswer
    rw [onConnection_eq Connection.createAnswer hmade]
    simp only [Except.mapError, andThen_ok]
    rw [onConnection_eq (·.setLocalDescription _) hr]
    exact ⟨_, _, rfl, ⟨e, rfl⟩, hs, rfl, hsub, rfl⟩

/-- The answer to a first offer fails after the flush: the offer is refused, and everything that
was heard is gone. -/
theorem takeOffer_of_armed (hs : n.connection.signaling = .stable)
    (hfirst : n.connection.established = false)
    (harmed : .createAnswer ∈ n.connection.armed ∨ .setLocalDescription ∈ n.connection.armed)
    (hready : ∀ op ∈ n.connection.armed, op = .createAnswer ∨ op = .setLocalDescription)
    (sender : ClientId) {offer : Description} (hk : offer.kind = .offer) :
    (∃ e, (n.takeOffer sender offer).2 = .error e ∧ Refused e) ∧
      (n.takeOffer sender offer).1.heard = [] := by
  -- what comes before the answer goes well: only the two steps of answering may be armed
  have hfree : ∀ op, op ≠ .createAnswer → op ≠ .setLocalDescription → op ∉ n.connection.armed :=
    fun op hcreate hset hmem => (hready op hmem).elim hcreate hset
  obtain ⟨tracks, attached, hattach⟩ := attachLiveMedia_of_ready
    (n := n.onSession fun s => { s.adoptPeer sender with negotiating := true })
    ⟨by simp [onSession, hs], hfree .addTrack (by simp) (by simp)⟩
  have hremote := Connection.setRemoteDescription_offer (c := { n.connection with tracks })
    ⟨by simp [hs], hfree .setRemoteDescription (by simp) (by simp)⟩ hk hs
  obtain ⟨m, e, hr, hrefused, hpending, hest, hsub, hwaiting⟩ := answerPending_of_armed
    (n :=
      { n with
        connection := { n.connection with
          signaling := .haveRemoteOffer, remoteDescription := some offer, tracks
          events := n.connection.events ++ [.signalingChanged .haveRemoteOffer] }
        session := { n.session.adoptPeer sender with
          negotiating := true, localStreamAttached := attached, state := .haveRemoteOffer } })
    rfl rfl (hfree .addCandidate (by simp) (by simp)) harmed sender
  have hanswer : (n.onSession fun s => { s.adoptPeer sender with negotiating := true }).answerOffer
      sender offer = (m, .error e) := by
    rw [answerOffer_eq, hattach, andThen_ok]
    show andThen (onConnection { n with connection := _, session := _ } _) _ = _
    rw [onConnection_eq (·.setRemoteDescription offer) hremote, Connection.moveTo_eq]
    simp only [hs, Except.mapError, andThen_ok]
    exact hr
  -- so the offer is withdrawn, and the flushed candidates go with it
  have hlost := heard_abandon hpending (hest.trans hfirst)
    (fun hmem => hfree .rollback (by simp) (by simp) (hsub hmem)) hwaiting
  rw [takeOffer_eq, hanswer]
  exact ⟨⟨e, rfl, hrefused⟩, hlost⟩

end Negotiation

/-! ## Actions -/

/-- An operation has ended because the connection refused a stage of it. -/
def Completion.IsRefusal : Completion → Prop
  | .called (.error e) | .received (.error e) => Negotiation.Refused e
  | _ => False

def Completion.accepted (m : Message) : Completion → List Candidate
  | .received r => Negotiation.accepted m r
  | _ => []

namespace Endpoint

open Negotiation

variable {e : Endpoint}

/-- The candidate that is accepted by an action, if there is one. -/
def acceptedBy (e : Endpoint) : Action → List Candidate
  | .submit ticket (.receive m) => (e.submit ticket (.receive m)).2.flatMap (·.2.accepted m)
  | _ => []

def accepted (e : Endpoint) : List Action → List Candidate
  | [] => []
  | a :: as => e.acceptedBy a ++ (e.act a).1.accepted as

/-- The connection refuses a stage of an operation that ends by the action, and the first exchange
is undone by that. -/
def Undoes (e : Endpoint) (a : Action) : Prop :=
  (∃ ended ∈ (e.act a).2, ended.2.IsRefusal) ∧ Undone e.negotiation (e.act a).1.negotiation

/-- The session is free. -/
theorem keeps_submit_free (h : Placed e.negotiation) (hm : Mirrors e.negotiation)
    (hfree : e.holder = none) (ticket : Nat) {op : Operation} (hop : op ≠ .close) :
    Keeps e.negotiation (e.acceptedBy (.submit ticket op)) (e.submit ticket op).1.negotiation ∨
      Undoes e (.submit ticket op) := by
  have hended := ended_submit hfree ticket op
  simp only [Undoes, act, negotiation_submit hfree]
  cases op with
  | call peer =>
      -- only a call that is finished is answered with a refusal
      have hcall := h.startCall peer
      rcases hr : e.negotiation.startCall peer with ⟨n, r | _⟩ <;> rw [hr] at hcall <;>
        simp only [Operation.run, hr] at hended ⊢
      · obtain hkeeps | ⟨⟨cause, hr, hrefused⟩, hundone⟩ := hcall
        · exact .inl hkeeps
        · cases hr
          refine .inr ⟨⟨(ticket, .called (.error cause)), ?_, hrefused⟩, hundone⟩
          rw [hended]
          exact .head _
      · obtain hkeeps | ⟨⟨cause, hr, -⟩, -⟩ := hcall
        · exact .inl hkeeps
        · cases hr
  | receive m =>
      obtain hkeeps | ⟨⟨cause, hr, hrefused⟩, hundone⟩ := h.receive hm m
      · exact .inl (by simpa [acceptedBy, hended, Operation.run, Completion.accepted] using hkeeps)
      · refine .inr ⟨⟨(ticket, .received (.error cause)), ?_, hrefused⟩, hundone⟩
        rw [hended, Operation.run, hr]
        exact .head _
  | handle event => exact .inl (h.keeps.handle event)
  | resetPeer => exact .inl h.keeps.resetPeer
  | close => exact absurd rfl hop

/-- **One action.** What was heard is kept, and what is accepted is added, unless the first exchange
is undone by a failure. -/
theorem keeps_act (h : Placed e.negotiation) (hm : Mirrors e.negotiation) {a : Action}
    (ha : ∀ op, a ≠ .failNext op) (hopen : (e.act a).1.isClosed = false) :
    Keeps e.negotiation (e.acceptedBy a) (e.act a).1.negotiation ∨ Undoes e a := by
  have hkeeps := h.keeps
  cases a with
  | submit ticket op =>
      obtain ⟨hop, ⟨hfree, -, -⟩ | ⟨hsame, hended⟩⟩ := submit_cases_of_open hopen
      · exact keeps_submit_free h hm hfree ticket hop
      · left
        show Keeps _ _ (e.submit ticket op).1.negotiation
        -- the operation waits or is turned away: nothing is accepted
        rw [hsame]
        cases op with
        | receive m => simpa [acceptedBy, hended] using hkeeps
        | _ => exact hkeeps
  | pump ticket =>
      left
      have htaken : Keeps e.negotiation [] e.negotiation.withoutEvents := { hkeeps with }
      show Keeps _ [] (e.pump ticket).1.negotiation
      obtain hleft | hleft := e.negotiation_pump ticket <;> rw [hleft]
      · exact htaken.handleAll _
      · exact htaken
  | setMedia m => exact .inl { hkeeps with }
  | failNext op => exact absurd rfl (ha op)
  | stallOffers on => exact .inl { hkeeps with }
  | emit event => exact .inl { hkeeps with }
  | takeEvents => exact .inl { hkeeps with }

/-! ## Runs -/

/-- What a run has accepted, the one half has accepted or the other. -/
theorem accepted_append (e : Endpoint) (as bs : List Action) :
    e.accepted (as ++ bs) = e.accepted as ++ (e.after as).accepted bs := by
  induction as generalizing e with
  | nil => rfl
  | cons a as ih => simp [accepted, after, ih]

/-- A run that ends open was open all along. -/
theorem isOpen_of_after {as : List Action} (hopen : (e.after as).isClosed = false) :
    e.isClosed = false := by
  by_contra hc
  have hclosed := (e.steps_after as).of_closed (by simpa [isClosed] using hc)
  simp [isClosed, hclosed] at hopen

/-! ### What does not change in between -/

/-- A side that refuses no candidate, between two actions. -/
structure Receptive (n : Negotiation) : Prop extends Mirrors n, Placed n where
  unarmed : .addCandidate ∉ n.connection.armed

/-- A fresh negotiation is ready for candidates. -/
theorem receptive_fresh (localId : ClientId) (label : String) :
    Receptive (fresh localId label).negotiation where
  established := rfl
  signaling := .inl rfl
  state := rfl
  described := by simp [fresh, start]
  waiting := fun _ => rfl
  applied := fun _ => rfl
  unarmed := by simp [fresh, start]

/-- Arming one failure leaves the others armed. -/
theorem mem_armed_failNext {n : Negotiation} {op op' : ConnectionOp} :
    op' ∈ (n.failNext op).connection.armed ↔ op' = op ∨ op' ∈ n.connection.armed := by
  simp only [Negotiation.failNext, Connection.failNext]
  split
  · next harmed => exact ⟨.inr, by rintro (rfl | h) <;> assumption⟩
  · simp

/-- An action arms a failure, or it is one that `keeps_act` tells of. -/
theorem Receptive.act (h : Receptive e.negotiation) {a : Action}
    (ha : a ≠ .failNext .addCandidate) (hopen : (e.act a).1.isClosed = false) :
    Receptive (e.act a).1.negotiation ∧
      ((∃ op, a = .failNext op) ∨
        Keeps e.negotiation (e.acceptedBy a) (e.act a).1.negotiation ∨ Undoes e a) := by
  have hmirrors : Mirrors (e.act a).1.negotiation :=
    (e.steps_act a).keep (fun _ _ hstep hopen hm => hm.step hstep hopen) hopen h.toMirrors
  -- arming a failure is the one action that lets more fail than before
  by_cases harm : ∃ op, a = .failNext op
  · obtain ⟨op, rfl⟩ := harm
    refine ⟨⟨hmirrors, { h.toPlaced with }, fun hmem => ?_⟩, .inl ⟨op, rfl⟩⟩
    obtain rfl | hmem := mem_armed_failNext.mp hmem
    · exact ha rfl
    · exact h.unarmed hmem
  · have hact := keeps_act h.toPlaced h.toMirrors (fun op hop => harm ⟨op, hop⟩) hopen
    refine ⟨?_, .inr hact⟩
    obtain hkeeps | ⟨-, hundone⟩ := hact
    · exact ⟨hmirrors, hkeeps.toPlaced, fun hmem => h.unarmed (hkeeps.armed hmem)⟩
    · exact ⟨hmirrors, hundone.toPlaced, fun hmem => h.unarmed (hundone.armed hmem)⟩

/-- Armed or not, what was heard and is accepted is there unless the first exchange is undone. -/
theorem Receptive.heard_act (h : Receptive e.negotiation) {a : Action}
    (ha : a ≠ .failNext .addCandidate) (hopen : (e.act a).1.isClosed = false) :
    (e.act a).1.negotiation.heard = e.negotiation.heard ++ e.acceptedBy a ∨ Undoes e a := by
  obtain ⟨op, rfl⟩ | hkeeps | hundoes := (h.act ha hopen).2
  · exact .inl (List.append_nil _).symm
  · exact .inl (hkeeps.whole h.unarmed)
  · exact .inr hundoes

/-- **What is left of what was accepted.** It is all that was accepted since the first exchange was
last undone, or since the start. -/
theorem heard_since (localId : ClientId) (label : String) (as : List Action)
    (hadd : .failNext .addCandidate ∉ as)
    (hopen : ((fresh localId label).after as).isClosed = false) :
    Receptive ((fresh localId label).after as).negotiation ∧
      ∃ before rest, as = before ++ rest ∧
        ((fresh localId label).after as).negotiation.heard =
          ((fresh localId label).after before).accepted rest ∧
        (before = [] ∨ ∃ earlier a, before = earlier ++ [a] ∧
          Undoes ((fresh localId label).after earlier) a) := by
  -- on the run: what undoes an exchange starts the account again
  induction as using List.reverseRecOn with
  | nil => exact ⟨receptive_fresh localId label, [], [], rfl, rfl, .inl rfl⟩
  | append_singleton as a ih =>
      rw [List.mem_append, not_or] at hadd
      rw [after_append] at hopen ⊢
      have hbefore := @isOpen_of_after _ [a] hopen
      obtain ⟨h, before, rest, rfl, hheard, hwhy⟩ := ih hadd.1 hbefore
      have ha : a ≠ .failNext .addCandidate := fun ha => hadd.2 (by simp [ha])
      refine ⟨(h.act ha hopen).1, ?_⟩
      obtain hact | hundoes := h.heard_act ha hopen
      · refine ⟨before, rest ++ [a], by simp, ?_, hwhy⟩
        show (act _ a).1.negotiation.heard = _
        rw [hact, hheard, accepted_append, ← after_append]
        simp [accepted]
      · exact ⟨before ++ rest ++ [a], [], by simp, hundoes.2.heard, .inr ⟨_, a, rfl, hundoes⟩⟩

/-! ### When nothing is undone any more -/

/-- Nothing can undo a first exchange any more, or nothing will. -/
def Secure (n : Negotiation) (later : List Action) : Prop :=
  n.connection.established = true ∨
    ¬Risky n ∧ .failNext .createAnswer ∉ later ∧ .failNext .setLocalDescription ∉ later

/-- Where nothing can be undone, no action undoes anything. -/
theorem Secure.not_undoes {a : Action} {later : List Action}
    (h : Secure e.negotiation (a :: later)) : ¬Undoes e a := by
  rintro ⟨-, hundone⟩
  obtain hdone | ⟨hsafe, -⟩ := h
  · rw [hundone.first] at hdone
    cases hdone
  · exact hsafe hundone.risky

/-- Security is handed on from action to action. -/
theorem Secure.act {a : Action} {later : List Action} (hsecure : Secure e.negotiation (a :: later))
    (h : Receptive e.negotiation) (ha : a ≠ .failNext .addCandidate)
    (hopen : (e.act a).1.isClosed = false) : Secure (e.act a).1.negotiation later := by
  obtain ⟨op, rfl⟩ | hkeeps | hundoes := (h.act ha hopen).2
  · -- only what is armed has become more
    obtain hdone | ⟨hsafe, hcreate, hset⟩ := hsecure
    · exact .inl hdone
    · rw [List.mem_cons, not_or] at hcreate hset
      refine .inr ⟨?_, hcreate.2, hset.2⟩
      rintro (hs | hmem | hmem)
      · exact hsafe (.inl hs)
      · obtain rfl | hmem := mem_armed_failNext.mp hmem
        · exact hcreate.1 rfl
        · exact hsafe (.inr (.inl hmem))
      · obtain rfl | hmem := mem_armed_failNext.mp hmem
        · exact hset.1 rfl
        · exact hsafe (.inr (.inr hmem))
  · obtain hdone | ⟨hsafe, hcreate, hset⟩ := hsecure
    · exact .inl (hkeeps.established hdone)
    · refine .inr ⟨fun hrisky => hsafe ?_, by simp_all, by simp_all⟩
      obtain hs | hmem | hmem := hrisky
      · exact hkeeps.pending hs
      · exact .inr (.inl (hkeeps.armed hmem))
      · exact .inr (.inr (hkeeps.armed hmem))
  · exact absurd hundoes hsecure.not_undoes

/-- From a secure point on, all that is accepted is heard. -/
theorem Secure.heard_later {later : List Action} (hsecure : Secure e.negotiation later)
    (h : Receptive e.negotiation) (hadd : .failNext .addCandidate ∉ later)
    (hopen : (e.after later).isClosed = false) :
    (e.after later).negotiation.heard = e.negotiation.heard ++ e.accepted later := by
  induction later generalizing e with
  | nil => exact (List.append_nil _).symm
  | cons a later ih =>
      rw [List.mem_cons, not_or] at hadd
      have hopen' : (e.act a).1.isClosed = false := isOpen_of_after hopen
      have ha : a ≠ .failNext .addCandidate := fun ha => hadd.1 ha.symm
      have hheard := (h.heard_act ha hopen').resolve_right hsecure.not_undoes
      show ((e.act a).1.after later).negotiation.heard = _ ++ (_ ++ _)
      rw [ih (hsecure.act h ha hopen') (h.act ha hopen').1 hadd.2 hopen, hheard, List.append_assoc]

/-- The first offer comes where its answer is to fail. -/
theorem submit_offer_of_armed (h : Receptive e.negotiation) (hfree : e.holder = none)
    (hidle : e.negotiation.session.state = .idle)
    (harmed : .createAnswer ∈ e.negotiation.connection.armed ∨
      .setLocalDescription ∈ e.negotiation.connection.armed)
    (hready : ∀ op ∈ e.negotiation.connection.armed, op = .createAnswer ∨ op = .setLocalDescription)
    (ticket : Nat) (sender recipient : ClientId) {payload : Payload} {offer : Description}
    (hdecode : payload.decode Description.read = .ok offer) (hkind : offer.kind = .offer) :
    let ended := e.submit ticket (.receive (.signal ⟨.offer, sender, recipient, payload⟩))
    (∃ cause, ended.2 = [(ticket, .received (.error (.failure cause)))]) ∧
      ended.1.negotiation.heard = [] := by
  obtain ⟨hs, hfirst⟩ := h.toMirrors.idle hidle
  obtain ⟨⟨_, hr, cause, rfl⟩, hlost⟩ := takeOffer_of_armed hs hfirst harmed hready sender hkind
  -- the session is idle, so the offer is taken up
  have hreceive : e.negotiation.receive (.signal ⟨.offer, sender, recipient, payload⟩) =
      e.negotiation.takeOffer sender offer := by
    simp [Negotiation.receive, h.isClosed, receiveSignal, hdecode, receiveOffer, hidle]
  intro ended
  refine ⟨⟨cause, ?_⟩, ?_⟩
  · show (e.submit ticket _).2 = _
    rw [ended_submit hfree, Operation.run, hreceive, hr]
    rfl
  · show (e.submit ticket _).1.negotiation.heard = []
    rw [negotiation_submit hfree, Operation.run, hreceive]
    exact hlost

/-! ### What has been heard in the end -/

/-- **What is left of the candidates that were accepted**, at any point of a run in which adding a
candidate is never made to fail. It is what was accepted since the first exchange was last undone
by a failure; nothing is lost any more once an exchange has completed, or where answering is not
made to fail. But early candidates are lost whenever the answer to a first offer fails. -/
theorem heard_after (localId : ClientId) (label : String) (as : List Action)
    (hadd : .failNext .addCandidate ∉ as)
    (hopen : ((fresh localId label).after as).isClosed = false) :
    let e := (fresh localId label).after as
    let n := e.negotiation
    (∃ before rest, as = before ++ rest ∧
      n.heard = ((fresh localId label).after before).accepted rest ∧
      (before = [] ∨
        ∃ earlier a, before = earlier ++ [a] ∧ Undoes ((fresh localId label).after earlier) a)) ∧
    (∀ later, .failNext .addCandidate ∉ later → (e.after later).isClosed = false →
      Secure n later → (e.after later).negotiation.heard = n.heard ++ e.accepted later) ∧
    (∀ ticket sender recipient payload offer, e.holder = none → n.session.state = .idle →
      (.createAnswer ∈ n.connection.armed ∨ .setLocalDescription ∈ n.connection.armed) →
      (∀ op ∈ n.connection.armed, op = .createAnswer ∨ op = .setLocalDescription) →
      Payload.decode payload Description.read = .ok offer → offer.kind = .offer →
      let ended := e.submit ticket (.receive (.signal ⟨.offer, sender, recipient, payload⟩))
      (∃ cause, ended.2 = [(ticket, .received (.error (.failure cause)))]) ∧
        ended.1.negotiation.heard = []) := by
  intro e n
  -- what has been heard so far goes back to the last exchange that was undone
  obtain ⟨h, hsince⟩ := heard_since localId label as hadd hopen
  refine ⟨hsince, fun later hadd' hopen' hsecure => hsecure.heard_later h hadd' hopen', ?_⟩
  intro ticket sender recipient payload offer hfree hidle harmed hready hdecode hkind
  exact submit_offer_of_armed h hfree hidle harmed hready ticket sender recipient hdecode hkind

def candidateFrom (peer : ClientId) (candidate : String) : Message :=
  .signal ⟨.candidate, peer, ⟨"b"⟩, Candidate.payload { candidate }⟩

/-- A candidate arrives early, and the next answer is to fail. -/
def earlyCandidate : List Action :=
  [.submit 0 (.receive (candidateFrom ⟨"a"⟩ "c1")), .failNext .createAnswer]

/-- The candidate was accepted and is there; with the offer that comes next it is lost. -/
theorem heard_after_earlyCandidate :
    let e := (fresh ⟨"b"⟩ "b").after earlyCandidate
    let offer : Description := ⟨.offer, "v=0 1"⟩
    (fresh ⟨"b"⟩ "b").accepted earlyCandidate = [{ candidate := "c1" }] ∧
      e.negotiation.heard = [{ candidate := "c1" }] ∧
      (e.submit 1 (.receive (.signal ⟨.offer, ⟨"a"⟩, ⟨"b"⟩, offer.payload⟩))).1.negotiation.heard =
        [] := by
  intro e offer
  have hadd : .failNext .addCandidate ∉ earlyCandidate := by simp [earlyCandidate]
  obtain ⟨-, -, hlost⟩ := heard_after ⟨"b"⟩ "b" earlyCandidate hadd (by cbv)
  have harmed : ((fresh ⟨"b"⟩ "b").after earlyCandidate).negotiation.connection.armed =
      [.createAnswer] := by cbv
  refine ⟨by cbv, by cbv, ?_⟩
  exact (hlost 1 ⟨"a"⟩ ⟨"b"⟩ _ offer (by cbv) (by cbv) (by simp [harmed]) (by simp [harmed])
    offer.decode_payload rfl).2

end Endpoint

end Switchboard
