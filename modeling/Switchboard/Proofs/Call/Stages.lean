import Mathlib
import Switchboard.Call.Negotiation
import Switchboard.Proofs.Call.Connection

/-!
# The stages of an operation

An operation on a negotiation is a sequence of stages, each of which may fail and so end it
(`andThen`). `Leaves E Q r` says how an attempt `r` leaves its negotiation: with `E` if it failed
and with `Q` if it did not. What an operation keeps is then proved stage by stage: `Leaves.andThen`
puts stages together, and `Leaves.orAbandon` gives up what has failed.

The second half says what each stage changes at most.
-/

namespace Switchboard

namespace Negotiation

variable {α β : Type} {n : Negotiation}

/-! ## Stages in sequence -/

/-- Go on with `f` unless the attempt has failed. -/
def andThen (r : Attempt α) (f : Negotiation → α → Attempt β) : Attempt β :=
  match r with
  | (n, .error e) => (n, .error e)
  | (n, .ok a) => f n a

@[simp] theorem andThen_ok (n : Negotiation) (a : α) (f : Negotiation → α → Attempt β) :
    andThen (n, .ok a) f = f n a := rfl

/-- What the second stage leaves alone is as the first one leaves it. -/
theorem andThen_keeps {γ : Type} (view : Negotiation → γ) (r : Attempt α)
    {f : Negotiation → α → Attempt β} (hf : ∀ m a, view (f m a).1 = view m) :
    view (andThen r f).1 = view r.1 := by
  obtain ⟨m, e | a⟩ := r
  · rfl
  · exact hf m a

/-- How an attempt leaves the negotiation: with `E` after a failure, with `Q` after a success. -/
def Leaves (E : NegotiationError → Negotiation → Prop) (Q : α → Negotiation → Prop) :
    Attempt α → Prop
  | (n, .error e) => E e n
  | (n, .ok a) => Q a n

section Leaves

variable {E E' : NegotiationError → Negotiation → Prop} {Q M : α → Negotiation → Prop}

/-- What the first stage leaves is what the second one starts with. -/
theorem Leaves.andThen {R : β → Negotiation → Prop} {r : Attempt α}
    {f : Negotiation → α → Attempt β} (h : Leaves E M r)
    (hf : ∀ a n, M a n → Leaves E R (f n a)) : Leaves E R (andThen r f) := by
  obtain ⟨n, e | a⟩ := r
  · exact h
  · exact hf a n h

/-- An error is what is left of an abandoned exchange; success is left alone. -/
theorem Leaves.orAbandon {r : Attempt α} (h : Leaves E Q r)
    (he : ∀ e n, E e n → E' e n.abandon) : Leaves E' Q (orAbandon r) := by
  obtain ⟨n, e | a⟩ := r
  · exact he e n h
  · exact h

theorem leaves_true (r : Attempt α) : Leaves (fun _ _ => True) (fun _ _ => True) r := by
  obtain ⟨n, e | a⟩ := r <;> trivial

/-- What holds of the negotiation in any case does not need the result. -/
theorem leaves_iff_fst {P : Negotiation → Prop} {r : Attempt α} :
    Leaves (fun _ => P) (fun _ => P) r ↔ P r.1 := by
  obtain ⟨n, e | a⟩ := r <;> exact Iff.rfl

theorem Leaves.fst {P : Negotiation → Prop} {r : Attempt α}
    (h : Leaves (fun _ => P) (fun _ => P) r) : P r.1 :=
  leaves_iff_fst.mp h

end Leaves

/-! ## The operations as sequences of stages -/

/-- An operation of the connection changes nothing but the connection. -/
theorem onConnection_eq (op : Connection → Connection.Attempt α) {c : Connection}
    {r : Except ConnectionError α} (h : op n.connection = (c, r)) :
    n.onConnection op = ({ n with connection := c }, r.mapError .failure) := by
  rw [onConnection, h]

/-- If an answer is made at all, it is an answer. -/
theorem leaves_createAnswer (n : Negotiation) :
    Leaves (fun _ _ => True) (fun answer _ => answer.kind = .answer)
      (n.onConnection Connection.createAnswer) := by
  obtain ⟨c, e, -, hr⟩ | ⟨-, hr⟩ := n.connection.createAnswer_cases <;>
    rw [onConnection_eq Connection.createAnswer hr]
  · trivial
  · rfl

/-! ### Offers -/

/-- The offer is applied here before the session speaks of it. -/
theorem sendOffer_eq (n : Negotiation) (peer : ClientId) (offer : Description) :
    n.sendOffer peer offer =
      andThen (n.onConnection (·.setLocalDescription offer)) fun n _ =>
        (n.onSession fun s =>
            { s with peer := some peer, state := .haveLocalOffer, negotiating := true },
          .ok (.signal ⟨.offer, n.localId, peer, offer.payload⟩)) := by
  unfold sendOffer
  rcases n.onConnection (·.setLocalDescription offer) with ⟨n, e | ⟨⟩⟩ <;> rfl

/-- The part of answering that comes once the offer is pending. -/
def answerPending (n : Negotiation) (sender : ClientId) : Attempt Message :=
  andThen (n.flushCandidates.onConnection Connection.createAnswer) fun n answer =>
  andThen (n.onConnection (·.setLocalDescription answer)) fun n _ =>
    (n.complete, .ok (.signal ⟨.answer, n.localId, sender, answer.payload⟩))

/-- The own tracks are attached, the offer is applied, and then it is answered. -/
theorem answerOffer_eq (n : Negotiation) (sender : ClientId) (offer : Description) :
    n.answerOffer sender offer =
      andThen n.attachLiveMedia fun n _ =>
      andThen (n.onConnection (·.setRemoteDescription offer)) fun n _ =>
        (n.onSession fun s => { s with state := .haveRemoteOffer }).answerPending sender := by
  unfold answerOffer
  rcases n.attachLiveMedia with ⟨n, e | ⟨⟩⟩
  · rfl
  simp only [andThen_ok]
  rcases n.onConnection (·.setRemoteDescription offer) with ⟨n, e | ⟨⟩⟩
  · rfl
  simp only [andThen_ok, answerPending]
  rcases (n.onSession fun s => { s with state := .haveRemoteOffer }).flushCandidates.onConnection
    Connection.createAnswer with ⟨n, e | answer⟩
  · rfl
  simp only [andThen_ok]
  rcases n.onConnection (·.setLocalDescription answer) with ⟨n, e | ⟨⟩⟩ <;> rfl

/-- Whoever offers becomes the peer, if there is none, and is answered or the exchange is abandoned.
-/
theorem takeOffer_eq (n : Negotiation) (sender : ClientId) (offer : Description) :
    n.takeOffer sender offer =
      andThen (orAbandon ((n.onSession fun s =>
          { s.adoptPeer sender with negotiating := true }).answerOffer sender offer)) fun n answer =>
        (n, .ok (.reply answer)) := by
  simp only [takeOffer]
  rcases orAbandon ((n.onSession fun s =>
    { s.adoptPeer sender with negotiating := true }).answerOffer sender offer) with ⟨n, e | answer⟩
    <;> rfl

theorem takeOffer_of_answerOffer {n' : Negotiation} {sender : ClientId} {offer : Description}
    {answer : Message}
    (h : (n.onSession fun s => { s.adoptPeer sender with negotiating := true }).answerOffer sender
      offer = (n', .ok answer)) :
    n.takeOffer sender offer = (n', .ok (.reply answer)) := by
  rw [takeOffer_eq, h]
  rfl

/-! ### Answers -/

/-- Applying the answer is the only stage of it that can fail. -/
theorem applyAnswer_eq (n : Negotiation) (answer : Description) :
    n.applyAnswer answer =
      andThen (orAbandon (n.onConnection (·.setRemoteDescription answer))) fun n _ =>
        (n.flushCandidates.complete, .ok .answerApplied) := by
  unfold applyAnswer
  rcases orAbandon (n.onConnection (·.setRemoteDescription answer)) with ⟨n, e | ⟨⟩⟩ <;> rfl

/-- A withdrawn offer leaves the session at rest. -/
theorem withdraw_eq {c : Connection} (h : n.connection.rollback = (c, .ok ())) :
    n.withdraw =
      (({ n with connection := c }.onSession fun s =>
        { s with state := s.restingState, negotiating := false }).noteTracks, true) := by
  unfold withdraw
  rw [h]

/-! ### Candidates -/

/-- A candidate that comes before any description waits. -/
theorem receiveCandidate_none (h : n.connection.remoteDescription = none) (x : Candidate) :
    n.receiveCandidate x =
      (n.onSession fun s => { s with pending := s.pending.enqueue x }, .ok .candidateBuffered) := by
  unfold receiveCandidate
  rw [h]

/-- A candidate that comes in time is handed to the connection. -/
theorem receiveCandidate_some {c : Connection} {x : Candidate}
    (hd : n.connection.remoteDescription.isSome) (h : n.connection.addCandidate x = (c, .ok ())) :
    n.receiveCandidate x = ({ n with connection := c }, .ok .candidateApplied) := by
  obtain ⟨d, hd⟩ := Option.isSome_iff_exists.mp hd
  unfold receiveCandidate
  rw [hd]
  simp only [onConnection_eq (·.addCandidate x) h, Except.mapError]

/-! ### Messages -/

/-- Why a message gives nothing to do. -/
inductive GivesNothing : Except NegotiationError RemoteOutcome → Prop
  | closed : GivesNothing (.error .closed)
  | malformed (e : WireError) : GivesNothing (.error (.malformed e))
  | ignored : GivesNothing (.ok .ignored)
  | staleAnswer : GivesNothing (.ok .staleAnswer)

/-- What comes of a message: nothing, or what is done about the description or the candidate in
it. -/
inductive Receives (n : Negotiation) : Message → Attempt RemoteOutcome → Prop
  | nothing {m : Message} {r : Except NegotiationError RemoteOutcome} (hr : GivesNothing r) :
      Receives n m (n, r)
  | offer {s : Signal} {offer : Description} (htopic : s.topic = .offer)
      (hread : s.payload.decode Description.read = .ok offer) :
      Receives n (.signal s) (n.receiveOffer s.sender offer)
  | answer {s : Signal} {answer : Description} (htopic : s.topic = .answer)
      (hstate : n.session.state = .haveLocalOffer)
      (hread : s.payload.decode Description.read = .ok answer) :
      Receives n (.signal s) (n.applyAnswer answer)
  | candidate {s : Signal} {x : Candidate} (htopic : s.topic = .candidate)
      (hread : s.payload.decode Candidate.read = .ok x) :
      Receives n (.signal s) (n.receiveCandidate x)

/-- **All that can come of a message.** -/
theorem receives (n : Negotiation) (m : Message) : Receives n m (n.receive m) := by
  unfold receive
  split
  · exact .nothing .closed
  cases m with
  | welcome id => exact .nothing .ignored
  | signal s =>
      show Receives n (.signal s) (n.receiveSignal s)
      unfold receiveSignal
      cases htopic : s.topic with
      | offer =>
          cases hread : s.payload.decode Description.read with
          | error fault => exact .nothing (.malformed _)
          | ok offer => exact .offer htopic hread
      | answer =>
          by_cases hstate : n.session.state = .haveLocalOffer
          · simp only [hstate, ne_eq, not_true_eq_false, if_false]
            cases hread : s.payload.decode Description.read with
            | error fault => exact .nothing (.malformed _)
            | ok answer => exact .answer htopic hstate hread
          · simp only [ne_eq, hstate, not_false_eq_true, if_true]
            exact .nothing .staleAnswer
      | candidate =>
          cases hread : s.payload.decode Candidate.read with
          | error fault => exact .nothing (.malformed _)
          | ok x => exact .candidate htopic hread

/-! ### Calls -/

/-- A call is turned down before it does anything, or nothing stands in its way. -/
theorem startCall_turnedDown_or (n : Negotiation) (peer : ClientId) :
    (∃ e, n.startCall peer = (n, .finished (.error e)) ∧
        (e = .closed ∨ ∃ p, e = .preconditionFailed p)) ∨
      n.session.isClosed = false ∧ n.callRefusal? peer = none := by
  cases hopen : n.session.isClosed with
  | true => exact .inl ⟨.closed, by rw [startCall, if_pos hopen], .inl rfl⟩
  | false =>
      cases hcall : n.callRefusal? peer with
      | some p => exact .inl ⟨.preconditionFailed p, by simp [startCall, hopen, hcall], .inr ⟨p, rfl⟩⟩
      | none => exact .inr ⟨rfl, rfl⟩

/-- All that can come of a call to which nothing stands in the way. The tracks are attached first;
then the offer is refused, never finished, or made and applied. -/
theorem startCall_cases (hopen : n.session.isClosed = false) {peer : ClientId}
    (hcall : n.callRefusal? peer = none) :
    (∃ n' e, n.attachTracks (n.liveMedia?.getD ⟨[]⟩) = (n', .error e) ∧
        n.startCall peer = (n'.abandon, .finished (.error e))) ∨
      ∃ n', n.attachTracks (n.liveMedia?.getD ⟨[]⟩) = (n', .ok ()) ∧
        ((n'.connection.stallsOffers = true ∧ n.startCall peer = (n', .stalled)) ∨
          (∃ c e, n'.connection.Spends c ∧
            n.startCall peer = ({ n' with connection := c }.abandon, .finished (.error (.failure e)))) ∨
          (n'.connection.stallsOffers = false ∧
            let r := orAbandon ({ n' with connection :=
              { n'.connection with offersCreated := n'.connection.offersCreated + 1 } }.sendOffer peer
                n'.connection.nextOffer)
            n.startCall peer = (r.1, .finished r.2))) := by
  rw [startCall, if_neg (by simp [hopen]), hcall]
  rcases hattach : n.attachTracks (n.liveMedia?.getD ⟨[]⟩) with ⟨n', e | ⟨⟩⟩
  · exact .inl ⟨n', e, rfl, rfl⟩
  · refine .inr ⟨n', rfl, ?_⟩
    obtain ⟨c, e, hs, h⟩ | ⟨hs, h⟩ | ⟨hs, h⟩ := n'.connection.createOffer_cases
    · exact .inr (.inl ⟨c, e, hs, by simp only [h]⟩)
    · exact .inl ⟨hs, by simp only [h]⟩
    · exact .inr (.inr ⟨hs, by simp only [h]⟩)

/-! ## What a stage changes at most -/

/-! ### Attaching -/

/-- Attaching changes the tracks, and whether the session takes them for attached. -/
theorem attachTracks_frame (n : Negotiation) (m : MediaSet) :
    ∃ tracks armed attached, armed ⊆ n.connection.armed ∧
      (n.attachTracks m).1 =
        { n with
          connection := { n.connection with tracks, armed }
          session := { n.session with localStreamAttached := attached } } := by
  obtain ⟨tracks, armed, hsub, h⟩ := n.connection.attach_frame m
  rcases hr : n.connection.attach m with ⟨c, e | k⟩
  · rw [hr] at h
    subst h
    refine ⟨tracks, armed, n.session.localStreamAttached, hsub, ?_⟩
    rw [attachTracks, onConnection_eq (·.attach m) hr]
    rfl
  · rw [hr] at h
    subst h
    refine ⟨tracks, armed, !tracks.isEmpty, hsub, ?_⟩
    rw [attachTracks, onConnection_eq (·.attach m) hr]
    rfl

/-- Without live media nothing is attached. -/
theorem attachLiveMedia_frame (n : Negotiation) :
    ∃ tracks armed attached, armed ⊆ n.connection.armed ∧
      n.attachLiveMedia.1 =
        { n with
          connection := { n.connection with tracks, armed }
          session := { n.session with localStreamAttached := attached } } := by
  unfold attachLiveMedia
  split
  · exact ⟨_, _, _, fun _ h => h, rfl⟩
  · exact n.attachTracks_frame _

@[simp] theorem signaling_attachLiveMedia (n : Negotiation) :
    n.attachLiveMedia.1.connection.signaling = n.connection.signaling := by
  obtain ⟨tracks, armed, attached, -, hr⟩ := n.attachLiveMedia_frame
  rw [hr]

/-- Attaching tracks leaves the signaling state alone. -/
theorem Leaves.attachLiveMedia {E : NegotiationError → Negotiation → Prop}
    {Q : Negotiation → Prop} (h : Leaves E (fun _ => Q) n.attachLiveMedia)
    (hs : n.connection.signaling ≠ .haveLocalOffer) :
    Leaves E (fun _ m => Q m ∧ m.connection.signaling ≠ .haveLocalOffer) n.attachLiveMedia := by
  have hsame := n.signaling_attachLiveMedia
  generalize n.attachLiveMedia = r at h hsame ⊢
  obtain ⟨m, e | ⟨⟩⟩ := r
  · exact h
  · exact ⟨h, ne_of_eq_of_ne hsame hs⟩

/-! ### Flushing -/

/-- A flush empties the buffer; the connection has taken some of the candidates, in their order. -/
theorem flushCandidates_frame (n : Negotiation) :
    ∃ taken armed, taken.Sublist n.session.pending.pending ∧ armed ⊆ n.connection.armed ∧
      n.flushCandidates =
        { n with
          connection := { n.connection with
            candidates := n.connection.candidates ++ taken, armed }
          session := { n.session with pending := {} } } := by
  obtain ⟨taken, armed, hle, hsub, h⟩ := n.connection.offerAll_frame n.session.pending.pending
  refine ⟨taken, armed, hle, hsub, ?_⟩
  rw [flushCandidates, CandidateBuffer.flush]
  simp only [h]
  rfl

@[simp] theorem signaling_flushCandidates (n : Negotiation) :
    n.flushCandidates.connection.signaling = n.connection.signaling := by
  obtain ⟨taken, armed, -, -, hr⟩ := n.flushCandidates_frame
  rw [hr]

@[simp] theorem established_flushCandidates (n : Negotiation) :
    n.flushCandidates.connection.established = n.connection.established := by
  obtain ⟨taken, armed, -, -, hr⟩ := n.flushCandidates_frame
  rw [hr]

/-! ## Stages that nothing stands against -/

def Unhindered (n : Negotiation) : Prop := ∀ op, n.connection.Ready op

/-- Attaching succeeds where tracks can be added. -/
theorem attachTracks_of_ready (h : n.connection.Ready .addTrack) (m : MediaSet) :
    ∃ tracks attached, n.attachTracks m =
      ({ n with
          connection := { n.connection with tracks }
          session := { n.session with localStreamAttached := attached } }, .ok ()) := by
  obtain ⟨k, hr⟩ := Connection.attach_of_ready h m
  rw [attachTracks, onConnection_eq (·.attach m) hr]
  exact ⟨_, _, rfl⟩

/-- Attaching succeeds where tracks can be added, with live media and without. -/
theorem attachLiveMedia_of_ready (h : n.connection.Ready .addTrack) :
    ∃ tracks attached, n.attachLiveMedia =
      ({ n with
          connection := { n.connection with tracks }
          session := { n.session with localStreamAttached := attached } }, .ok ()) := by
  unfold attachLiveMedia
  split
  · exact ⟨_, _, rfl⟩
  · exact attachTracks_of_ready h _

/-- An offer is sent where nothing stands against it. -/
theorem sendOffer_of_unhindered (h : n.Unhindered)
    (hs : n.connection.signaling = .stable ∨ n.connection.signaling = .haveLocalOffer)
    (peer : ClientId) {offer : Description} (hk : offer.kind = .offer) :
    ∃ events, n.sendOffer peer offer =
      ({ n with
          connection := { n.connection with
            signaling := .haveLocalOffer, localDescription := some offer, events }
          session := { n.session with
            peer := some peer, state := .haveLocalOffer, negotiating := true } },
        .ok (.signal ⟨.offer, n.localId, peer, offer.payload⟩)) := by
  have hr := Connection.setLocalDescription_offer (h .setLocalDescription) hk hs
  rw [sendOffer_eq, onConnection_eq (·.setLocalDescription offer) hr, Connection.moveTo_eq]
  exact ⟨_, rfl⟩

/-- A call to which nothing stands in the way makes its offer, also when an earlier one is still
pending on the connection. -/
theorem startCall_of_unhindered (h : n.Unhindered) (hopen : n.session.isClosed = false)
    (hs : n.connection.signaling = .stable ∨ n.connection.signaling = .haveLocalOffer)
    (hstall : n.connection.stallsOffers = false) {peer : ClientId}
    (hcall : n.callRefusal? peer = none) :
    ∃ tracks offers events attached, n.startCall peer =
      ({ n with
          connection := { n.connection with
            signaling := .haveLocalOffer, localDescription := some n.connection.nextOffer
            tracks, offersCreated := offers, events }
          session := { n.session with
            peer := some peer, state := .haveLocalOffer, negotiating := true
            localStreamAttached := attached } },
        .finished (.ok (.signal ⟨.offer, n.localId, peer, n.connection.nextOffer.payload⟩))) := by
  obtain ⟨tracks, attached, hattach⟩ :=
    attachTracks_of_ready (h .addTrack) (n.liveMedia?.getD ⟨[]⟩)
  have hoffer := Connection.createOffer_of_ready (c := { n.connection with tracks })
    (h .createOffer) hstall
  obtain ⟨events, hsend⟩ := sendOffer_of_unhindered (n := { n with
    connection := { n.connection with tracks, offersCreated := n.connection.offersCreated + 1 }
    session := { n.session with localStreamAttached := attached } })
    h hs peer n.connection.kind_nextOffer
  -- the three stages one after the other, none of which is refused
  refine ⟨tracks, n.connection.offersCreated + 1, events, attached, ?_⟩
  rw [startCall, if_neg (by simp [hopen]), hcall]
  simp only [hattach, hoffer]
  show (_, Progress.finished _) = _
  rw [show Connection.nextOffer { n.connection with tracks } = n.connection.nextOffer from rfl,
    hsend]
  rfl

/-- No candidate of a flush is lost where candidates can be added. -/
theorem flushCandidates_of_ready (h : n.connection.Ready .addCandidate)
    (hd : n.connection.remoteDescription.isSome) :
    n.flushCandidates =
      { n with
        connection := { n.connection with
          candidates := n.connection.candidates ++ n.session.pending.pending }
        session := { n.session with pending := {} } } := by
  rw [flushCandidates, CandidateBuffer.flush]
  simp only [Connection.offerAll_of_ready h hd]
  rfl

/-! ### Completing -/

/-- Over a stable connection the completed exchange is over. -/
theorem complete_eq (hs : n.connection.signaling = .stable) :
    n.complete = n.onSession fun s =>
      { s with state := .stable, established := true, negotiating := false } := by
  have hsettled : (n.onSession Session.markStable).isSettled = n.session.negotiating := by
    simp [isSettled, onSession, Session.markStable, hs, SignalingState.isStable]
  rw [complete, settle, hsettled]
  cases hn : n.session.negotiating with
  | true => rfl
  | false =>
      simp only [Bool.false_eq_true, if_false, onSession, Session.markStable, hn]

/-- A pending offer is answered where nothing stands against it, and the exchange is complete. -/
theorem answerPending_of_unhindered (h : n.Unhindered)
    (hs : n.connection.signaling = .haveRemoteOffer)
    (hd : n.connection.remoteDescription.isSome) (sender : ClientId) :
    n.answerPending sender =
      ({ n with
          connection := { n.connection with
            signaling := .stable, localDescription := some n.connection.nextAnswer
            candidates := n.connection.candidates ++ n.session.pending.pending
            established := true, answersCreated := n.connection.answersCreated + 1
            events := n.connection.events ++ [.signalingChanged .stable] }
          session := { n.session with
            pending := {}, state := .stable, established := true, negotiating := false } },
        .ok (.signal ⟨.answer, n.localId, sender, n.connection.nextAnswer.payload⟩)) := by
  have hmade := Connection.createAnswer_of_ready (c := { n.connection with
    candidates := n.connection.candidates ++ n.session.pending.pending }) (h .createAnswer) hs
  have happlied := Connection.setLocalDescription_answer (c := { n.connection with
      candidates := n.connection.candidates ++ n.session.pending.pending
      answersCreated := n.connection.answersCreated + 1 })
    (h .setLocalDescription) n.connection.kind_nextAnswer hs
  -- flushed, then answered, then applied
  rw [answerPending, flushCandidates_of_ready (h .addCandidate) hd,
    onConnection_eq Connection.createAnswer hmade]
  simp only [Except.mapError, andThen_ok]
  rw [onConnection_eq (·.setLocalDescription _) happlied, Connection.moveTo_eq]
  simp only [Except.mapError, andThen_ok]
  rw [complete_eq rfl]
  simp only [hs]
  rfl

/-- An offer is taken up and answered where nothing stands against it. -/
theorem answerOffer_of_unhindered (h : n.Unhindered) (hs : n.connection.signaling = .stable)
    (sender : ClientId) {offer : Description} (hk : offer.kind = .offer) :
    ∃ tracks answers events attached, n.answerOffer sender offer =
      ({ n with
          connection := { n.connection with
            localDescription := some n.connection.nextAnswer, remoteDescription := some offer
            candidates := n.connection.candidates ++ n.session.pending.pending
            tracks, established := true, answersCreated := answers, events }
          session := { n.session with
            pending := {}, localStreamAttached := attached, state := .stable
            established := true, negotiating := false } },
        .ok (.signal ⟨.answer, n.localId, sender, n.connection.nextAnswer.payload⟩)) := by
  obtain ⟨tracks, attached, hattach⟩ := attachLiveMedia_of_ready (h .addTrack)
  have hremote := Connection.setRemoteDescription_offer (c := { n.connection with tracks })
    (h .setRemoteDescription) hk hs
  -- what is left is to answer the offer that has just been applied
  have hpending := answerPending_of_unhindered (n :=
    { n with
      connection := { n.connection with
        signaling := .haveRemoteOffer, remoteDescription := some offer, tracks
        events := n.connection.events ++ [.signalingChanged .haveRemoteOffer] }
      session := { n.session with localStreamAttached := attached, state := .haveRemoteOffer } })
    (fun op => ⟨by simp, (h op).2⟩) rfl rfl sender
  refine ⟨tracks, n.connection.answersCreated + 1,
    n.connection.events ++ [.signalingChanged .haveRemoteOffer] ++ [.signalingChanged .stable],
    attached, ?_⟩
  rw [answerOffer_eq, hattach, andThen_ok, onConnection_eq (·.setRemoteDescription offer) hremote,
    Connection.moveTo_eq]
  simp only [hs, Except.mapError, andThen_ok]
  exact hpending

/-- An answer to the own offer completes the exchange where nothing stands against it. -/
theorem applyAnswer_of_unhindered (h : n.Unhindered)
    (hs : n.connection.signaling = .haveLocalOffer) {answer : Description}
    (hk : answer.kind = .answer) :
    n.applyAnswer answer =
      ({ n with
          connection := { n.connection with
            signaling := .stable, remoteDescription := some answer
            candidates := n.connection.candidates ++ n.session.pending.pending
            established := true, events := n.connection.events ++ [.signalingChanged .stable] }
          session := { n.session with
            pending := {}, state := .stable, established := true, negotiating := false } },
        .ok .answerApplied) := by
  have hremote := Connection.setRemoteDescription_answer (h .setRemoteDescription) hk hs
  have hflush := flushCandidates_of_ready (n := { n with connection := { n.connection with
      signaling := .stable, remoteDescription := some answer, established := true
      events := n.connection.events ++ [.signalingChanged .stable] } })
    ⟨by simp, (h .addCandidate).2⟩ rfl
  rw [applyAnswer_eq, onConnection_eq (·.setRemoteDescription answer) hremote, Connection.moveTo_eq]
  simp only [hs, Except.mapError, orAbandon, andThen_ok]
  show (Negotiation.complete (Negotiation.flushCandidates _), _) = _
  rw [if_neg (by simp), hflush, complete_eq rfl]
  rfl

end Negotiation

end Switchboard
