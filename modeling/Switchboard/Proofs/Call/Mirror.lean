import Switchboard.Proofs.Call.Run
import Switchboard.Proofs.Call.Stages

/-!
# The session is an image of its connection

A session keeps a state of its own beside the signaling state of the connection, and a note of its
own whether an exchange has completed. `Mirrors` says that both are what the connection says. In
the middle of an operation the states may differ: what holds there is `Aligned`, and every way out
of an operation, giving up included, comes back from `Aligned` to `Mirrors`.

The main statement is `session_mirrors_connection`: the two agree at every point of every run at
which the session is not closed.
-/

namespace Switchboard

namespace Negotiation

variable {n n' : Negotiation} {α : Type}

/-- Session and connection agree on whether an exchange has completed, and the connection is open
and between descriptions that it knows of. -/
structure Aligned (n : Negotiation) : Prop where
  established : n.session.established = n.connection.established
  signaling : n.connection.signaling = .stable ∨ n.connection.signaling = .haveLocalOffer ∨
    n.connection.signaling = .haveRemoteOffer

/-- The state of the session is the one that the signaling state of the connection stands for. -/
structure Mirrors (n : Negotiation) : Prop extends Aligned n where
  state : n.session.state = stateAfter n.session n.connection.signaling

/-! ## What the image depends on -/

theorem Aligned.congr (h : Aligned n) (he : n'.session.established = n.session.established)
    (hc : n'.connection.established = n.connection.established)
    (hs : n'.connection.signaling = n.connection.signaling) : Aligned n' :=
  ⟨by rw [he, hc]; exact h.established, by rw [hs]; exact h.signaling⟩

/-- What a session mirrors hangs on few of its parts and few of the connection's. -/
theorem Mirrors.congr (h : Mirrors n) (hst : n'.session.state = n.session.state)
    (he : n'.session.established = n.session.established)
    (hc : n'.connection.established = n.connection.established)
    (hs : n'.connection.signaling = n.connection.signaling) : Mirrors n' := by
  refine ⟨h.toAligned.congr he hc hs, ?_⟩
  rw [hst, hs, h.state]
  rcases h.signaling with hsig | hsig | hsig <;>
    simp only [hsig, stateAfter, Session.restingState, he]

/-! ## Reading the connection off the session -/

/-- The image of a connection is never a closed session. -/
theorem Mirrors.isClosed (h : Mirrors n) : n.session.isClosed = false := by
  have hstate := h.state
  rcases h.signaling with hs | hs | hs <;> rw [hs] at hstate <;>
    simp only [stateAfter, Session.restingState] at hstate
  · cases he : n.session.established <;> simp [Session.isClosed, hstate, he]
  · simp [Session.isClosed, hstate]
  · simp [Session.isClosed, hstate]

/-- A session that speaks of an own offer has one pending. -/
theorem Mirrors.haveLocalOffer (h : Mirrors n) (hs : n.session.state = .haveLocalOffer) :
    n.connection.signaling = .haveLocalOffer := by
  have hstate := h.state
  rcases h.signaling with hsig | hsig | hsig
  · rw [hsig, hs] at hstate
    cases he : n.session.established <;> simp [stateAfter, Session.restingState, he] at hstate
  · exact hsig
  · rw [hsig, hs] at hstate
    simp [stateAfter] at hstate

/-- The pending offer of the other side shows in the session. -/
theorem Mirrors.haveRemoteOffer_iff (h : Mirrors n) :
    n.session.state = .haveRemoteOffer ↔ n.connection.signaling = .haveRemoteOffer := by
  rw [h.state]
  rcases h.signaling with hs | hs | hs <;> rw [hs] <;>
    cases he : n.session.established <;> simp [stateAfter, Session.restingState, he]

/-- An idle session has a connection without any exchange, neither pending nor complete. -/
theorem Mirrors.idle (h : Mirrors n) (hs : n.session.state = .idle) :
    n.connection.signaling = .stable ∧ n.connection.established = false := by
  have hstate := h.state
  rw [← h.established]
  rcases h.signaling with hsig | hsig | hsig <;> rw [hsig, hs] at hstate <;>
    cases he : n.session.established <;>
      simp [stateAfter, Session.restingState, he, hsig] at hstate ⊢

/-! ## Ways out of an operation -/

/-- Rolling back, or failing to, leaves session and connection aligned. -/
theorem Aligned.undo (h : Aligned n) : Aligned n.undo := by
  unfold Negotiation.undo
  split
  · exact h
  · obtain ⟨c, e, ⟨armed, -, rfl⟩, hr⟩ | ⟨-, -, hr⟩ := n.connection.rollback_cases
    · exact h.congr rfl (by rw [hr]; rfl) (by rw [hr]; rfl)
    · exact ⟨by rw [hr]; exact h.established, by rw [hr]; exact .inl rfl⟩

/-- **Giving up** brings the session back to what the connection was left in. -/
theorem Aligned.abandon (h : Aligned n) : Mirrors n.abandon := by
  have hquiet : Aligned (n.onSession fun s => { s with negotiating := false }) :=
    h.congr rfl rfl rfl
  have hundo := hquiet.undo
  unfold Negotiation.abandon
  -- only the outcome of the rollback counts now
  generalize Negotiation.undo _ = m at hundo ⊢
  refine ⟨hundo.congr rfl rfl rfl, ?_⟩
  show stateAfter m.session m.connection.signaling = stateAfter _ m.connection.signaling
  rcases hundo.signaling with hs | hs | hs <;> rw [hs] <;> rfl

/-- A session that is told again what its connection says stays the image of it. -/
theorem Mirrors.settle (h : Mirrors n) : Mirrors n.settle := by
  unfold Negotiation.settle
  split
  · exact h.congr rfl rfl rfl rfl
  · exact h

/-- The exchange is completed over a connection that has completed it. -/
theorem mirrors_complete (hs : n.connection.signaling = .stable)
    (he : n.connection.established = true) : Mirrors n.complete := by
  apply Mirrors.settle
  refine ⟨⟨he.symm, .inl hs⟩, ?_⟩
  show NegotiationState.stable = stateAfter n.session.markStable n.connection.signaling
  rw [hs]
  rfl

/-! ## Stages -/

/-- Attaching is no matter of signaling. -/
theorem Aligned.attachLiveMedia (h : Aligned n) : Aligned n.attachLiveMedia.1 := by
  obtain ⟨tracks, armed, attached, -, hr⟩ := n.attachLiveMedia_frame
  rw [hr]
  exact h.congr rfl rfl rfl

/-- Using up an armed failure is no matter of signaling either. -/
theorem Aligned.spends (h : Aligned n) {c : Connection} (hc : n.connection.Spends c) :
    Aligned { n with connection := c } := by
  obtain ⟨armed, -, rfl⟩ := hc
  exact h.congr rfl rfl rfl

theorem Mirrors.attachTracks (h : Mirrors n) (m : MediaSet) : Mirrors (n.attachTracks m).1 := by
  obtain ⟨tracks, armed, attached, -, hr⟩ := n.attachTracks_frame m
  rw [hr]
  exact h.congr rfl rfl rfl rfl

/-- The offer of this side is applied, or the session can still be brought back. -/
theorem Aligned.sendOffer (h : Aligned n) (peer : ClientId) {offer : Description}
    (hk : offer.kind = .offer) :
    Leaves (fun _ => Aligned) (fun _ => Mirrors) (n.sendOffer peer offer) := by
  rw [sendOffer_eq]
  obtain ⟨c, e, hs, hr⟩ | ⟨-, -, hr⟩ | ⟨ha, -, -⟩ := n.connection.setLocalDescription_cases offer
  · rw [onConnection_eq (·.setLocalDescription offer) hr]
    exact h.spends hs
  · rw [onConnection_eq (·.setLocalDescription offer) hr, Connection.moveTo_eq]
    exact ⟨⟨h.established, .inr (.inl rfl)⟩, rfl⟩
  · rw [hk] at ha; cases ha

/-- The session lags behind only until the answer is applied. -/
theorem Aligned.answerPending (h : Aligned n) (sender : ClientId) :
    Leaves (fun _ => Aligned) (fun _ => Mirrors) (n.answerPending sender) := by
  unfold Negotiation.answerPending
  -- flushing leaves the signaling state alone, and so does making the answer
  have hmade : Leaves (fun _ => Aligned)
      (fun _ n => Aligned n ∧ n.connection.signaling = .haveRemoteOffer)
      (n.flushCandidates.onConnection Connection.createAnswer) := by
    obtain ⟨taken, armed, -, -, hflush⟩ := n.flushCandidates_frame
    have ha : Aligned n.flushCandidates :=
      h.congr (by rw [hflush]) (by rw [hflush]) (by rw [hflush])
    obtain ⟨c, e, hsp, hr⟩ | ⟨hpending, hr⟩ := n.flushCandidates.connection.createAnswer_cases
    · rw [onConnection_eq Connection.createAnswer hr]
      exact ha.spends hsp
    · rw [onConnection_eq Connection.createAnswer hr]
      exact ⟨ha.congr rfl rfl rfl, hpending⟩
  apply hmade.andThen
  intro answer n ⟨h, hs⟩
  obtain ⟨c, e, hsp, hr⟩ | ⟨-, hopen, -⟩ | ⟨-, -, hr⟩ :=
    n.connection.setLocalDescription_cases answer
  · rw [onConnection_eq (·.setLocalDescription answer) hr]
    exact h.spends hsp
  · rw [hs] at hopen
    rcases hopen with hopen | hopen <;> cases hopen
  · rw [onConnection_eq (·.setLocalDescription answer) hr, Connection.moveTo_eq]
    exact mirrors_complete rfl rfl

/-- Applying the offer puts the connection ahead of the session; the answer brings them together
again. -/
theorem Aligned.answerOffer (h : Aligned n) (hs : n.connection.signaling ≠ .haveLocalOffer)
    (sender : ClientId) (offer : Description) :
    Leaves (fun _ => Aligned) (fun _ => Mirrors) (n.answerOffer sender offer) := by
  rw [answerOffer_eq]
  have hattach : Leaves (fun _ => Aligned) (fun _ => Aligned) n.attachLiveMedia :=
    leaves_iff_fst.mpr h.attachLiveMedia
  apply (hattach.attachLiveMedia hs).andThen
  intro _ n ⟨h, hs⟩
  obtain ⟨c, e, hsp, hr⟩ | ⟨-, -, hr⟩ | ⟨-, hlocal, -⟩ :=
    n.connection.setRemoteDescription_cases offer
  · rw [onConnection_eq (·.setRemoteDescription offer) hr]
    exact h.spends hsp
  · rw [onConnection_eq (·.setRemoteDescription offer) hr, Connection.moveTo_eq]
    show Leaves _ _ (Negotiation.answerPending _ sender)
    apply Aligned.answerPending
    exact ⟨h.established, .inr (.inr rfl)⟩
  · -- an answer would be applied only to an own offer
    exact absurd hlocal hs

/-! ## Operations -/

/-! ### Offers of the other side -/

/-- An offer of the other side is taken up, and answered or given up. -/
theorem Aligned.takeOffer (h : Aligned n) (hs : n.connection.signaling ≠ .haveLocalOffer)
    (sender : ClientId) (offer : Description) : Mirrors (n.takeOffer sender offer).1 := by
  rw [takeOffer_eq]
  have hadopt : Aligned
      (n.onSession fun s => { s.adoptPeer sender with negotiating := true }) := h.congr rfl rfl rfl
  have hanswer := (hadopt.answerOffer hs sender offer).orAbandon fun _ _ h => h.abandon
  have houtcome := hanswer.andThen (f := fun n answer => (n, .ok (RemoteOutcome.reply answer)))
    (R := fun _ => Mirrors) fun _ _ h => h
  exact houtcome.fst

/-- Our own offer is withdrawn as a whole or stands as it was. -/
theorem Mirrors.withdraw (h : Mirrors n) :
    Mirrors n.withdraw.1 ∧
      (n.withdraw.2 = true → n.withdraw.1.connection.signaling ≠ .haveLocalOffer) := by
  unfold Negotiation.withdraw
  obtain ⟨c, e, ⟨armed, -, rfl⟩, hr⟩ | ⟨-, -, hr⟩ := n.connection.rollback_cases
  · rw [hr]
    exact ⟨h.congr rfl rfl rfl rfl, by simp⟩
  · rw [hr]
    exact ⟨⟨⟨h.established, .inl rfl⟩, rfl⟩, by simp [noteTracks, onSession]⟩

/-- Whoever has to give way when offers cross, the session follows the connection. -/
theorem Mirrors.receiveOffer (h : Mirrors n) (sender : ClientId) (offer : Description) :
    Mirrors (n.receiveOffer sender offer).1 := by
  unfold Negotiation.receiveOffer
  split
  · split
    · -- the own offer gives way, if the connection lets it
      obtain ⟨hw, hopen⟩ := h.withdraw
      rcases hwithdraw : n.withdraw with ⟨n', _ | _⟩
      · rw [hwithdraw] at hw
        exact hw
      · rw [hwithdraw] at hw hopen
        exact hw.takeOffer (hopen rfl) sender offer
    · exact h
  · next hstate =>
      refine h.takeOffer (fun hs => hstate ?_) sender offer
      rw [h.state, hs]
      rfl

/-! ### Answers and candidates -/

/-- An answer completes the exchange or ends it. -/
theorem Mirrors.applyAnswer (h : Mirrors n) (hstate : n.session.state = .haveLocalOffer)
    (answer : Description) : Mirrors (n.applyAnswer answer).1 := by
  rw [applyAnswer_eq]
  have hs := h.haveLocalOffer hstate
  obtain ⟨c, e, hsp, hr⟩ | ⟨-, hstable, -⟩ | ⟨-, -, hr⟩ :=
    n.connection.setRemoteDescription_cases answer
  · rw [onConnection_eq (·.setRemoteDescription answer) hr]
    exact (h.spends hsp).abandon
  · rw [hs] at hstable; cases hstable
  · rw [onConnection_eq (·.setRemoteDescription answer) hr, Connection.moveTo_eq]
    obtain ⟨taken, armed, -, -, hflush⟩ := flushCandidates_frame { n with connection :=
      { n.connection with
        remoteDescription := some answer, established := true, signaling := .stable
        events := if n.connection.signaling = .stable then n.connection.events
          else n.connection.events ++ [.signalingChanged .stable] } }
    show Mirrors (Negotiation.flushCandidates _).complete
    rw [hflush]
    exact mirrors_complete rfl rfl

/-- Candidates do not change what there is to mirror. -/
theorem Mirrors.receiveCandidate (h : Mirrors n) (x : Candidate) :
    Mirrors (n.receiveCandidate x).1 := by
  unfold Negotiation.receiveCandidate
  split
  · exact h.congr rfl rfl rfl rfl
  · obtain ⟨c, e, ⟨armed, -, rfl⟩, hr⟩ | ⟨-, hr⟩ := n.connection.addCandidate_cases x
    · rw [onConnection_eq (·.addCandidate x) hr]
      exact h.congr rfl rfl rfl rfl
    · rw [onConnection_eq (·.addCandidate x) hr]
      exact h.congr rfl rfl rfl rfl

theorem Mirrors.receive (h : Mirrors n) (m : Message) : Mirrors (n.receive m).1 := by
  have hreceives := n.receives m
  generalize n.receive m = r at hreceives ⊢
  cases hreceives with
  | nothing => exact h
  | offer => exact h.receiveOffer _ _
  | answer _ hstate => exact h.applyAnswer hstate _
  | candidate => exact h.receiveCandidate _

/-- An event can at most make the session settle again. -/
theorem Mirrors.handle (h : Mirrors n) (e : ConnectionEvent) : Mirrors (n.handle e).1 := by
  unfold Negotiation.handle
  rw [h.isClosed]
  cases e with
  | localCandidate c => exact h
  | signalingChanged s =>
      cases hs : s.isStable with
      | true => simpa [hs] using h.settle
      | false => simpa [hs] using h
  | iceChanged s => exact h.congr rfl rfl rfl rfl
  | remoteTrack t => exact h

theorem Mirrors.resetPeer (h : Mirrors n) : Mirrors n.resetPeer.1 := by
  unfold Negotiation.resetPeer
  rw [h.isClosed]
  cases n.session.negotiating with
  | true => exact h
  | false => exact h.congr rfl rfl rfl rfl

/-! ### What this side does -/

/-- A call leaves an own offer pending, or the state in which it began. -/
theorem Mirrors.startCall (h : Mirrors n) (peer : ClientId) : Mirrors (n.startCall peer).1 := by
  obtain ⟨e, hr, -⟩ | ⟨hopen, hcall⟩ := n.startCall_turnedDown_or peer
  · rw [hr]
    exact h
  have hattach := h.attachTracks (n.liveMedia?.getD ⟨[]⟩)
  obtain ⟨n', e, ha, hr⟩ | ⟨n', ha, ⟨-, hr⟩ | ⟨c, e, hsp, hr⟩ | ⟨-, hr⟩⟩ :=
    n.startCall_cases hopen hcall <;> rw [ha] at hattach <;> rw [hr]
  · -- the call stalls with its tracks attached
    exact hattach.abandon
  · exact hattach
  · exact (hattach.spends hsp).abandon
  · have hmade : Aligned { n' with connection :=
        { n'.connection with offersCreated := n'.connection.offersCreated + 1 } } :=
      hattach.toAligned.congr rfl rfl rfl
    have hsent := hmade.sendOffer peer n'.connection.kind_nextOffer
    exact (hsent.orAbandon fun _ _ h => h.abandon).fst

/-! ## Runs -/

/-- No step opens a closed session. -/
theorem Step.of_closed (h : Step n n') (hc : n.session.isClosed = true) :
    n'.session.isClosed = true := by
  cases h with
  | call peer => rw [Negotiation.startCall, if_pos hc]; exact hc
  | receive m => unfold Negotiation.receive; rw [if_pos hc]; exact hc
  | handle e => unfold Negotiation.handle; rw [if_pos hc]; exact hc
  | resetPeer => rw [Negotiation.resetPeer, if_pos hc]; exact hc
  | close => exact isClosed_close n
  | dropCall => exact isClosed_close _
  | setMedia m => exact hc
  | failNext op => exact hc
  | stallOffers on => exact hc
  | emit e => exact hc
  | takeEvents => exact hc

theorem Steps.of_closed (h : Steps n n') (hc : n.session.isClosed = true) :
    n'.session.isClosed = true := by
  induction h with
  | refl => exact hc
  | tail _ hstep ih => exact hstep.of_closed ih

/-- What every step keeps that leaves the session open is kept until the session is closed. -/
theorem Steps.keep {P : Negotiation → Prop} (h : Steps n n')
    (hstep : ∀ m m', Step m m' → m'.session.isClosed = false → P m → P m')
    (hopen : n'.session.isClosed = false) (hn : P n) : P n' := by
  induction h with
  | refl => exact hn
  | @tail m m' _ hlast ih =>
      cases hc : m.session.isClosed with
      | true => rw [hlast.of_closed hc] at hopen; cases hopen
      | false => exact hstep m m' hlast hopen (ih hc)

/-- Every step keeps the image, as long as it does not close the session. -/
theorem Mirrors.step (h : Mirrors n) (hstep : Step n n') (hopen : n'.session.isClosed = false) :
    Mirrors n' := by
  cases hstep with
  | call peer => exact h.startCall peer
  | receive m => exact h.receive m
  | handle e => exact h.handle e
  | resetPeer => exact h.resetPeer
  | close => rw [isClosed_close] at hopen; cases hopen
  | dropCall => rw [isClosed_close] at hopen; cases hopen
  | setMedia m => exact h.congr rfl rfl rfl rfl
  | failNext op => exact h.congr rfl rfl rfl rfl
  | stallOffers on => exact h.congr rfl rfl rfl rfl
  | emit e => exact h.congr rfl rfl rfl rfl
  | takeEvents => exact h.congr rfl rfl rfl rfl

end Negotiation

namespace Endpoint

open Negotiation

/-- **As long as it is open, the session mirrors its connection.** -/
theorem mirrors_after (localId : ClientId) (label : String) (as : List Action)
    (hopen : ((fresh localId label).after as).isClosed = false) :
    Mirrors ((fresh localId label).after as).negotiation := by
  refine invariant_of_step (P := fun n => n.session.isClosed = false → Mirrors n)
    (fun _ _ _ => ⟨⟨rfl, .inl rfl⟩, rfl⟩) (fun n n' hstep h hopen => ?_) localId label as hopen
  cases hc : n.session.isClosed with
  | true => rw [hstep.of_closed hc] at hopen; cases hopen
  | false => exact (h hc).step hstep hopen

/-! ## What both say -/

/-- **The session is an image of its connection** at every point of every run, until it is closed.
It does not matter whether somebody waits for the session at that point. -/
theorem session_mirrors_connection (localId : ClientId) (label : String) (as : List Action)
    (hopen : ((fresh localId label).after as).isClosed = false) :
    let n := ((fresh localId label).after as).negotiation
    (n.session.state = .haveLocalOffer ↔ n.connection.signaling = .haveLocalOffer) ∧
      (n.session.state = .haveRemoteOffer ↔ n.connection.signaling = .haveRemoteOffer) ∧
      (n.session.state = .stable ↔
        n.connection.signaling = .stable ∧ n.connection.established = true) ∧
      (n.session.state = .idle ↔
        n.connection.signaling = .stable ∧ n.connection.established = false) ∧
      n.session.established = n.connection.established := by
  intro n
  have h : Mirrors n := mirrors_after localId label as hopen
  have hstate := h.state
  have he := h.established
  -- an open session is in one of three signaling states, each with its own reading
  rcases h.signaling with hs | hs | hs <;> rw [hs] at hstate ⊢ <;>
    cases hc : n.connection.established <;> rw [hc] at he <;>
    simp [hstate, stateAfter, Session.restingState, he]

/-- A crossing offer is answered; the answer to the next offer is then refused. -/
def refusedRenegotiation : List Action :=
  [.setMedia (some ⟨[⟨"audio/opus", "t", "s"⟩]⟩),
    .submit 0 (.call ⟨"b"⟩),
    .submit 1 (.receive (.signal ⟨.offer, ⟨"b"⟩, ⟨"a"⟩, (⟨.offer, "v=0"⟩ : Description).payload⟩)),
    .submit 2 (.call ⟨"b"⟩),
    .failNext .setRemoteDescription,
    .submit 3 (.receive (.signal ⟨.answer, ⟨"b"⟩, ⟨"a"⟩, (⟨.answer, "v=0"⟩ : Description).payload⟩))]

/-- The offer that got no answer cannot be rolled back, and the session says so. -/
theorem session_mirrors_refusedRenegotiation :
    ((fresh ⟨"a"⟩ "A").after refusedRenegotiation).isClosed = false ∧
      ((fresh ⟨"a"⟩ "A").after refusedRenegotiation).negotiation.session.state = .haveLocalOffer ∧
      ((fresh ⟨"a"⟩ "A").after refusedRenegotiation).negotiation.session.established = true := by
  have hopen : ((fresh ⟨"a"⟩ "A").after refusedRenegotiation).isClosed = false := by cbv
  obtain ⟨hoffer, -, -, -, he⟩ := session_mirrors_connection ⟨"a"⟩ "A" refusedRenegotiation hopen
  exact ⟨hopen, hoffer.mpr (by cbv), he.trans (by cbv)⟩

end Endpoint

end Switchboard
