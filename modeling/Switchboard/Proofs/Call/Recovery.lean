import Switchboard.Proofs.Call.Mirror
import Switchboard.Proofs.Call.Payload

/-!
# After a failed exchange

A side whose exchange fails gives it up, and with nothing left in its way it should be able to
start over: to make an offer, or to answer one. It is, except where an offer of the other side is
still pending on the connection (`usable_iff`). That is what is left when an answer fails after an
exchange has completed, because nothing is rolled back then: the session is `Jammed`, and stays so
until it is closed.
-/

namespace Switchboard

namespace Negotiation

variable {n n' : Negotiation}

/-! ## Starting over -/

/-- Nothing is armed against a side, its connection finishes offers, and it has media to send. -/
structure Willing (n : Negotiation) : Prop extends Mirrors n where
  unarmed : n.connection.armed = []
  finishes : n.connection.stallsOffers = false
  media : n.liveMedia?.isSome

/-- Nothing stands against a willing session. -/
theorem Willing.unhindered (h : Willing n) : n.Unhindered := by
  intro op
  refine ⟨?_, by simp [h.unarmed]⟩
  rcases h.signaling with hs | hs | hs <;> simp [hs]

/-- A call is let through where media are live, nothing is under way and the peer is the right one.
-/
theorem callRefusal?_eq_none (hmedia : n.liveMedia?.isSome) (hidle : n.session.negotiating = false)
    {peer : ClientId} (hpeer : peer.isEmpty = false)
    (hadopted : n.session.peer = none ∨ n.session.peer = some peer) :
    n.callRefusal? peer = none := by
  obtain ⟨media, hmedia⟩ := Option.isSome_iff_exists.mp hmedia
  rcases hadopted with hp | hp <;> simp [callRefusal?, hmedia, hpeer, hidle, hp]

/-! ## Over a pending offer -/

/-- An offer of the other side is pending on the connection. -/
structure OfferPending (established : Bool) (n : Negotiation) : Prop where
  pending : n.connection.signaling = .haveRemoteOffer
  completed : n.connection.established = established

namespace OfferPending

variable {established : Bool}

theorem spends (h : OfferPending established n) {c : Connection} (hc : n.connection.Spends c) :
    OfferPending established { n with connection := c } := by
  obtain ⟨armed, -, rfl⟩ := hc
  exact ⟨h.pending, h.completed⟩

theorem attachTracks (h : OfferPending established n) (m : MediaSet) :
    OfferPending established (n.attachTracks m).1 := by
  obtain ⟨tracks, armed, attached, -, hr⟩ := n.attachTracks_frame m
  rw [hr]
  exact ⟨h.pending, h.completed⟩

theorem attachLiveMedia (h : OfferPending established n) :
    OfferPending established n.attachLiveMedia.1 := by
  obtain ⟨tracks, armed, attached, -, hr⟩ := n.attachLiveMedia_frame
  rw [hr]
  exact ⟨h.pending, h.completed⟩

/-! ### What fails over it -/

/-- After a completed exchange, giving up does not withdraw the offer. -/
theorem abandon (h : OfferPending true n) : OfferPending true n.abandon := by
  obtain ⟨c, e, ⟨armed, -, rfl⟩, hr⟩ := Connection.rollback_of_established h.completed
  have hundo : OfferPending true (n.onSession fun s => { s with negotiating := false }).undo := by
    unfold Negotiation.undo
    split
    · exact ⟨h.pending, h.completed⟩
    · constructor
      · show n.connection.rollback.1.signaling = _
        rw [hr]
        exact h.pending
      · show n.connection.rollback.1.established = _
        rw [hr]
        exact h.completed
  exact ⟨hundo.pending, hundo.completed⟩

/-- No description but an answer of ours fits. -/
theorem setRemoteDescription (h : OfferPending established n) (d : Description) :
    ∃ m e, n.onConnection (·.setRemoteDescription d) = (m, .error e) ∧
      OfferPending established m := by
  obtain ⟨c, e, hspends, hr⟩ | ⟨-, hopen, -⟩ | ⟨-, hopen, -⟩ :=
    n.connection.setRemoteDescription_cases d
  · rw [onConnection_eq (·.setRemoteDescription d) hr]
    exact ⟨_, _, rfl, h.spends hspends⟩
  · rw [h.pending] at hopen
    cases hopen
  · rw [h.pending] at hopen
    cases hopen

/-- An own offer cannot be applied over the one that is pending. -/
theorem sendOffer (h : OfferPending established n) (peer : ClientId) {offer : Description}
    (hk : offer.kind = .offer) :
    ∃ m e, n.sendOffer peer offer = (m, .error e) ∧ OfferPending established m := by
  rw [sendOffer_eq]
  obtain ⟨c, e, hspends, hr⟩ | ⟨-, hopen, -⟩ | ⟨ha, -, -⟩ :=
    n.connection.setLocalDescription_cases offer
  · rw [onConnection_eq (·.setLocalDescription offer) hr]
    exact ⟨_, _, rfl, h.spends hspends⟩
  · rw [h.pending] at hopen
    rcases hopen with hopen | hopen <;> cases hopen
  · rw [hk] at ha
    cases ha

/-- Another offer of the other side is given up. -/
theorem takeOffer (h : OfferPending established n) (sender : ClientId) (offer : Description) :
    ∃ m e, n.takeOffer sender offer = (m.abandon, .error e) ∧ OfferPending established m := by
  have hadopt : OfferPending established
      (n.onSession fun s => { s.adoptPeer sender with negotiating := true }) :=
    ⟨h.pending, h.completed⟩
  have hattach := hadopt.attachLiveMedia
  rw [takeOffer_eq, answerOffer_eq]
  rcases hr : (n.onSession fun s =>
    { s.adoptPeer sender with negotiating := true }).attachLiveMedia with ⟨m, e | ⟨⟩⟩
  · rw [hr] at hattach
    exact ⟨m, e, rfl, hattach⟩
  · rw [hr] at hattach
    obtain ⟨m', e, hremote, hm⟩ := hattach.setRemoteDescription offer
    rw [andThen_ok, hremote]
    exact ⟨m', e, rfl, hm⟩

/-- A call is given up, or never finished. -/
theorem startCall (h : OfferPending established n) (hopen : n.session.isClosed = false)
    {peer : ClientId} (hcall : n.callRefusal? peer = none) :
    ∃ m, OfferPending established m ∧
      ((∃ e, n.startCall peer = (m.abandon, .finished (.error e))) ∨
        n.startCall peer = (m, .stalled)) := by
  have hattach := h.attachTracks (n.liveMedia?.getD ⟨[]⟩)
  obtain ⟨m, e, ha, hr⟩ | ⟨m, ha, ⟨-, hr⟩ | ⟨c, e, hspends, hr⟩ | ⟨-, hr⟩⟩ :=
    n.startCall_cases hopen hcall
  · rw [ha] at hattach
    exact ⟨m, hattach, .inl ⟨e, hr⟩⟩
  · rw [ha] at hattach
    exact ⟨m, hattach, .inr hr⟩
  · rw [ha] at hattach
    exact ⟨_, hattach.spends hspends, .inl ⟨_, hr⟩⟩
  · rw [ha] at hattach
    have hmade : OfferPending established { m with connection :=
        { m.connection with offersCreated := m.connection.offersCreated + 1 } } :=
      ⟨hattach.pending, hattach.completed⟩
    -- an own offer cannot be applied while the other one is pending
    obtain ⟨m', e, hsend, hm'⟩ := hmade.sendOffer peer m.connection.kind_nextOffer
    rw [hsend] at hr
    exact ⟨m', hm', .inl ⟨e, hr⟩⟩

end OfferPending

/-- A session that reads nothing new of its connection keeps the offer pending. -/
theorem OfferPending.congr {established : Bool} (h : OfferPending established n)
    (hs : n'.connection.signaling = n.connection.signaling)
    (he : n'.connection.established = n.connection.established) : OfferPending established n' :=
  ⟨hs.trans h.pending, he.trans h.completed⟩

/-! ## A jammed session -/

/-- The pending offer of the other side can be neither answered nor withdrawn. -/
structure Jammed (n : Negotiation) : Prop extends Mirrors n, OfferPending true n

/-- A jammed session speaks of the offer that it cannot get rid of. -/
theorem Jammed.state_eq (h : Jammed n) : n.session.state = .haveRemoteOffer :=
  h.toMirrors.haveRemoteOffer_iff.mpr h.pending

/-! ### No way out -/

/-- No message gets a jammed session out of it. -/
theorem Jammed.receive (h : Jammed n) (m : Message) : OfferPending true (n.receive m).1 := by
  have hreceives := n.receives m
  generalize n.receive m = r at hreceives ⊢
  cases hreceives with
  | nothing => exact h.toOfferPending
  | @offer s offer =>
      -- the offer is taken up over the pending one, and that fails
      rw [receiveOffer, if_neg (by simp [h.state_eq])]
      obtain ⟨m, e, hr, hm⟩ := h.toOfferPending.takeOffer s.sender offer
      rw [hr]
      exact hm.abandon
  | answer _ hstate =>
      rw [h.state_eq] at hstate
      cases hstate
  | @candidate _ x =>
      unfold receiveCandidate
      split
      · exact h.toOfferPending.congr rfl rfl
      · obtain ⟨c, e, hspends, hr⟩ | ⟨-, hr⟩ := n.connection.addCandidate_cases x <;>
          rw [onConnection_eq (·.addCandidate x) hr]
        · exact h.toOfferPending.spends hspends
        · exact h.toOfferPending.congr rfl rfl

/-- No call gets a jammed session out of it. -/
theorem Jammed.startCall (h : Jammed n) (peer : ClientId) :
    OfferPending true (n.startCall peer).1 := by
  obtain ⟨e, hr, -⟩ | ⟨hopen, hcall⟩ := n.startCall_turnedDown_or peer
  · rw [hr]
    exact h.toOfferPending
  obtain ⟨m, hm, ⟨e, hr⟩ | hr⟩ := h.toOfferPending.startCall h.isClosed hcall
  · rw [hr]
    exact hm.abandon
  · rw [hr]
    exact hm

/-- No event gets a jammed session out of it. -/
theorem Jammed.handle (h : Jammed n) (e : ConnectionEvent) : OfferPending true (n.handle e).1 := by
  unfold Negotiation.handle
  rw [h.isClosed]
  cases e with
  | localCandidate c => exact h.toOfferPending
  | signalingChanged s =>
      have hsettle : OfferPending true n.settle := by
        unfold Negotiation.settle
        split <;> exact h.toOfferPending.congr rfl rfl
      cases hs : s.isStable with
      | true => simpa [hs] using hsettle
      | false => simpa [hs] using h.toOfferPending
  | iceChanged s => exact h.toOfferPending.congr rfl rfl
  | remoteTrack t => exact h.toOfferPending

/-- No step frees a jammed session but closing it. -/
theorem Jammed.step (h : Jammed n) (hstep : Step n n') (hopen : n'.session.isClosed = false) :
    Jammed n' := by
  refine ⟨h.toMirrors.step hstep hopen, ?_⟩
  cases hstep with
  | call peer => exact h.startCall peer
  | receive m => exact h.receive m
  | handle e => exact h.handle e
  | resetPeer =>
      rw [Negotiation.resetPeer, if_neg (by simp [h.isClosed])]
      split <;> exact h.toOfferPending.congr rfl rfl
  | close => rw [isClosed_close] at hopen; cases hopen
  | dropCall => rw [isClosed_close] at hopen; cases hopen
  | setMedia m => exact h.toOfferPending.congr rfl rfl
  | failNext op => exact h.toOfferPending.congr rfl rfl
  | stallOffers on => exact h.toOfferPending.congr rfl rfl
  | emit e => exact h.toOfferPending.congr rfl rfl
  | takeEvents => exact h.toOfferPending.congr rfl rfl

/-- A jammed session stays jammed until it is closed. -/
theorem Jammed.steps (h : Jammed n) (hsteps : Steps n n') (hopen : n'.session.isClosed = false) :
    Jammed n' :=
  hsteps.keep (fun _ _ hstep hopen h => h.step hstep hopen) hopen h

/-! ## What becomes of a new exchange -/

/-- **A call makes its offer** unless an offer of the other side is pending. -/
theorem Willing.startCall_iff (h : Willing n) (hidle : n.session.negotiating = false)
    {peer : ClientId} (hpeer : peer.isEmpty = false)
    (hadopted : n.session.peer = none ∨ n.session.peer = some peer) :
    (∃ offer : Description, offer.kind = .offer ∧ (n.startCall peer).2 =
        .finished (.ok (.signal ⟨.offer, n.localId, peer, offer.payload⟩))) ↔
      n.session.state ≠ .haveRemoteOffer := by
  have hcall := callRefusal?_eq_none h.media hidle hpeer hadopted
  rw [ne_eq, h.toMirrors.haveRemoteOffer_iff]
  constructor
  · -- over an offer of the other side a call fails or stalls
    rintro ⟨offer, -, hr⟩ hs
    obtain ⟨m, -, ⟨e, hr'⟩ | hr'⟩ :=
      OfferPending.startCall ⟨hs, rfl⟩ h.isClosed hcall <;> rw [hr'] at hr <;> cases hr
  · intro hs
    -- anywhere else nothing is in its way
    have hfree : n.connection.signaling = .stable ∨ n.connection.signaling = .haveLocalOffer := by
      rcases h.signaling with hsig | hsig | hsig
      · exact .inl hsig
      · exact .inr hsig
      · exact absurd hsig hs
    obtain ⟨_, _, _, _, hr⟩ :=
      startCall_of_unhindered h.unhindered h.isClosed hfree h.finishes hcall
    exact ⟨_, n.connection.kind_nextOffer, by rw [hr]⟩

/-- **An offer is answered** unless another offer of the other side is pending. -/
theorem Willing.receive_iff (h : Willing n) (hstate : n.session.state ≠ .haveLocalOffer)
    (sender recipient : ClientId) {payload : Payload} {offer : Description}
    (hdecode : payload.decode Description.read = .ok offer) (hkind : offer.kind = .offer) :
    (∃ answer : Description, answer.kind = .answer ∧
        (n.receive (.signal ⟨.offer, sender, recipient, payload⟩)).2 =
          .ok (.reply (.signal ⟨.answer, n.localId, sender, answer.payload⟩))) ↔
      n.session.state ≠ .haveRemoteOffer := by
  have hreceive : n.receive (.signal ⟨.offer, sender, recipient, payload⟩) =
      n.takeOffer sender offer := by
    simp [Negotiation.receive, h.isClosed, receiveSignal, hdecode, receiveOffer, hstate]
  rw [ne_eq, h.toMirrors.haveRemoteOffer_iff, hreceive]
  constructor
  · -- over an offer that is still pending another one is refused
    rintro ⟨answer, -, hr⟩ hs
    obtain ⟨m, e, hr', -⟩ := OfferPending.takeOffer ⟨hs, rfl⟩ sender offer
    rw [hr'] at hr
    cases hr
  · intro hs
    -- no offer is pending on either side, and nothing is armed
    have hstable : n.connection.signaling = .stable := by
      rcases h.signaling with hsig | hsig | hsig
      · exact hsig
      · rw [h.state, hsig] at hstate
        exact absurd rfl hstate
      · exact absurd hsig hs
    obtain ⟨_, _, _, _, hr⟩ := answerOffer_of_unhindered
      (n := n.onSession fun s => { s.adoptPeer sender with negotiating := true })
      h.unhindered hstable sender hkind
    exact ⟨_, n.connection.kind_nextAnswer, by rw [takeOffer_of_answerOffer hr]; rfl⟩

end Negotiation

namespace Endpoint

open Negotiation

/-! ## Which sessions stay usable -/

/-- With the session free a call ends at once, unless it stalls. -/
theorem submit_call_eq_iff {e : Endpoint} (hfree : e.holder = none) (ticket : Nat)
    (peer : ClientId) (r : Except NegotiationError Message) :
    (e.submit ticket (.call peer)).2 = [(ticket, .called r)] ↔
      (e.negotiation.startCall peer).2 = .finished r := by
  rw [ended_submit hfree, Operation.run]
  rcases e.negotiation.startCall peer with ⟨n, r' | _⟩ <;> simp

/-- What a message comes to on a free session is what the negotiation says. -/
theorem submit_receive_eq_iff {e : Endpoint} (hfree : e.holder = none) (ticket : Nat)
    (m : Message) (r : Except NegotiationError RemoteOutcome) :
    (e.submit ticket (.receive m)).2 = [(ticket, .received r)] ↔
      (e.negotiation.receive m).2 = r := by
  rw [ended_submit hfree]
  simp [Operation.run]

/-- **A session is usable unless an offer of the other side is pending.** At a point of a run at
which nothing stands in the way any more, a call makes its offer and an offer is answered if, and
only if, no offer of the other side is pending. After a completed exchange such an offer stays
pending until the session is closed. -/
theorem usable_iff (localId : ClientId) (label : String) (as : List Action)
    (hopen : ((fresh localId label).after as).isClosed = false)
    (hfree : ((fresh localId label).after as).holder = none)
    (hunarmed : ((fresh localId label).after as).negotiation.connection.armed = [])
    (hfinishes : ((fresh localId label).after as).negotiation.connection.stallsOffers = false)
    (hmedia : ((fresh localId label).after as).negotiation.liveMedia?.isSome) :
    let e := (fresh localId label).after as
    let n := e.negotiation
    (∀ ticket peer, n.session.negotiating = false → peer.isEmpty = false →
      (n.session.peer = none ∨ n.session.peer = some peer) →
      ((∃ offer : Description, offer.kind = .offer ∧ (e.submit ticket (.call peer)).2 =
          [(ticket, .called (.ok (.signal ⟨.offer, n.localId, peer, offer.payload⟩)))]) ↔
        n.session.state ≠ .haveRemoteOffer)) ∧
    (∀ ticket sender recipient payload offer, n.session.state ≠ .haveLocalOffer →
      Payload.decode payload Description.read = .ok offer → offer.kind = .offer →
      ((∃ answer : Description, answer.kind = .answer ∧
          (e.submit ticket (.receive (.signal ⟨.offer, sender, recipient, payload⟩))).2 =
            [(ticket, .received (.ok (.reply
              (.signal ⟨.answer, n.localId, sender, answer.payload⟩))))]) ↔
        n.session.state ≠ .haveRemoteOffer)) ∧
    (n.session.state = .haveRemoteOffer → n.session.established = true →
      ∀ later, (e.after later).isClosed = false →
        (e.after later).negotiation.session.state = .haveRemoteOffer) := by
  intro e n
  have hmirrors : Mirrors n := mirrors_after localId label as hopen
  have hwilling : Willing n := ⟨hmirrors, hunarmed, hfinishes, hmedia⟩
  refine ⟨?_, ?_, ?_⟩
  · intro ticket peer hidle hpeer hadopted
    simp only [submit_call_eq_iff (e := e) hfree]
    exact hwilling.startCall_iff hidle hpeer hadopted
  · intro ticket sender recipient payload offer hstate hdecode hkind
    simp only [submit_receive_eq_iff (e := e) hfree]
    exact hwilling.receive_iff hstate sender recipient hdecode hkind
  · intro hstate hestablished later hopen'
    -- an established session with the offer of the other side never leaves that state
    have hpending : OfferPending true n :=
      ⟨hmirrors.haveRemoteOffer_iff.mp hstate, hmirrors.established.symm.trans hestablished⟩
    exact (Jammed.steps ⟨hmirrors, hpending⟩ (e.steps_after later) hopen').state_eq

def offerFrom (peer : ClientId) (sdp : String) : Message :=
  .signal ⟨.offer, peer, ⟨"b"⟩, (⟨.offer, sdp⟩ : Description).payload⟩

/-- An offer is answered; the answer to the next one fails. -/
def failedAnswer : List Action :=
  [.setMedia (some ⟨[⟨"audio/opus", "t", "s"⟩]⟩),
    .submit 0 (.receive (offerFrom ⟨"a"⟩ "v=0 1")),
    .failNext .createAnswer,
    .submit 1 (.receive (offerFrom ⟨"a"⟩ "v=0 2"))]

/-- The session that the failed answer leaves takes no call, does not answer the same offer when it
comes again, and never will. -/
theorem usable_iff_failedAnswer :
    let e := (fresh ⟨"b"⟩ "b").after failedAnswer
    (¬∃ offer : Description, offer.kind = .offer ∧ (e.submit 2 (.call ⟨"a"⟩)).2 =
        [(2, .called (.ok (.signal ⟨.offer, ⟨"b"⟩, ⟨"a"⟩, offer.payload⟩)))]) ∧
      (¬∃ answer : Description, answer.kind = .answer ∧
        (e.submit 2 (.receive (offerFrom ⟨"a"⟩ "v=0 2"))).2 =
          [(2, .received (.ok (.reply (.signal ⟨.answer, ⟨"b"⟩, ⟨"a"⟩, answer.payload⟩))))]) ∧
      ∀ later, (e.after later).isClosed = false →
        (e.after later).negotiation.session.state = .haveRemoteOffer := by
  intro e
  have hstate : e.negotiation.session.state = .haveRemoteOffer := by cbv
  have hid : e.negotiation.localId = ⟨"b"⟩ := by cbv
  obtain ⟨hcall, hreceive, hforever⟩ := usable_iff ⟨"b"⟩ "b" failedAnswer (by cbv) (by cbv) (by cbv)
    (by cbv) (by cbv)
  have hdecode := Description.decode_payload ⟨.offer, "v=0 2"⟩
  refine ⟨fun hoffer => ?_, fun hanswer => ?_, hforever hstate (by cbv)⟩
  · rw [← hid] at hoffer
    exact (hcall 2 ⟨"a"⟩ (by cbv) (by cbv) (.inr (by cbv))).mp hoffer hstate
  · rw [← hid] at hanswer
    have hnone : e.negotiation.session.state ≠ .haveLocalOffer := by simp [hstate]
    exact (hreceive 2 ⟨"a"⟩ ⟨"b"⟩ _ _ hnone hdecode rfl).mp hanswer hstate

end Endpoint

end Switchboard
