import Switchboard.Proofs.Call.Closing
import Switchboard.Proofs.Call.Payload

/-!
# The outstanding offer

A session is negotiating between two operations if, and as long as, an offer of its own waits for an
answer. Only a call starts that (`Awaits`): whatever else happens leaves the exchange that is under
way as it is, or ends it (`Retains`). So the description that is pending on the connection is the
one of the offer that was sent last, and there is nothing that an event of the connection could
settle.

The main statement is `outstanding_of_negotiating`.
-/

namespace Switchboard

/-- What a session and its connection say of the exchange with the peer. -/
structure Exchange where
  state : NegotiationState
  negotiating : Bool
  peer : Option ClientId
  signaling : SignalingState
  localDescription : Option Description
  remoteDescription : Option Description

namespace Negotiation

variable {n n' n'' : Negotiation} {α : Type}

def exchange (n : Negotiation) : Exchange where
  state := n.session.state
  negotiating := n.session.negotiating
  peer := n.session.peer
  signaling := n.connection.signaling
  localDescription := n.connection.localDescription
  remoteDescription := n.connection.remoteDescription

/-- An exchange that is under way in `n'` is the one that was under way in `n`. -/
def Retains (n n' : Negotiation) : Prop :=
  n'.session.negotiating = true → n'.exchange = n.exchange ∧ n'.localId = n.localId

theorem Retains.refl (n : Negotiation) : Retains n n := fun _ => ⟨rfl, rfl⟩

/-- What is retained twice is retained. -/
theorem Retains.trans (h : Retains n n') (h' : Retains n' n'') : Retains n n'' := by
  intro hneg
  obtain ⟨hexchange, hid⟩ := h' hneg
  have hneg' : n'.session.negotiating = true :=
    (congrArg Exchange.negotiating hexchange).symm.trans hneg
  obtain ⟨hexchange', hid'⟩ := h hneg'
  exact ⟨hexchange.trans hexchange', hid.trans hid'⟩

/-- No exchange is under way. -/
theorem retains_of_rest (h : n'.session.negotiating = false) : Retains n n' := by
  intro hneg
  rw [h] at hneg
  cases hneg

/-! ## What ends an exchange -/

/-- An abandoned exchange is over. -/
theorem negotiating_abandon (n : Negotiation) : n.abandon.session.negotiating = false := by
  unfold abandon undo
  split <;> rfl

/-- An offer that is answered is settled. -/
theorem negotiating_answerPending (n : Negotiation) (sender : ClientId) :
    Leaves (fun _ _ => True) (fun _ n => n.session.negotiating = false)
      (n.answerPending sender) := by
  apply (leaves_createAnswer n.flushCandidates).andThen
  intro answer n hk
  obtain ⟨c, e, -, hr⟩ | ⟨ho, -, -⟩ | ⟨-, -, hr⟩ := n.connection.setLocalDescription_cases answer
  · rw [onConnection_eq (·.setLocalDescription answer) hr]
    trivial
  · rw [hk] at ho
    cases ho
  · rw [onConnection_eq (·.setLocalDescription answer) hr, Connection.moveTo_eq]
    show (complete _).session.negotiating = false
    rw [complete_eq rfl]
    rfl

/-- **Taking an offer of the other side** ends at rest, whether it is answered or not. -/
theorem negotiating_takeOffer (n : Negotiation) (sender : ClientId) (offer : Description) :
    (n.takeOffer sender offer).1.session.negotiating = false := by
  rw [takeOffer_eq, answerOffer_eq]
  have hanswer : Leaves (fun _ _ => True) (fun _ n => n.session.negotiating = false)
      (andThen (n.onSession fun s => { s.adoptPeer sender with negotiating := true }).attachLiveMedia
        fun n _ => andThen (n.onConnection (·.setRemoteDescription offer)) fun n _ =>
          (n.onSession fun s => { s with state := .haveRemoteOffer }).answerPending sender) :=
    (leaves_true _).andThen fun _ _ _ =>
      (leaves_true _).andThen fun _ _ _ => negotiating_answerPending _ sender
  have hrest : Leaves (fun _ n => n.session.negotiating = false)
      (fun _ n => n.session.negotiating = false) (orAbandon _) :=
    hanswer.orAbandon fun _ n _ => n.negotiating_abandon
  exact (hrest.andThen (f := fun n answer => (n, .ok (RemoteOutcome.reply answer)))
    (R := fun _ n => n.session.negotiating = false) fun _ _ h => h).fst

/-- **An answer** ends the exchange, whether it can be applied or not. -/
theorem negotiating_applyAnswer (hs : n.connection.signaling = .haveLocalOffer)
    (answer : Description) : (n.applyAnswer answer).1.session.negotiating = false := by
  rw [applyAnswer_eq]
  obtain ⟨c, e, -, hr⟩ | ⟨-, hstable, -⟩ | ⟨-, -, hr⟩ :=
    n.connection.setRemoteDescription_cases answer
  · rw [onConnection_eq (·.setRemoteDescription answer) hr]
    exact negotiating_abandon _
  · rw [hs] at hstable
    cases hstable
  · rw [onConnection_eq (·.setRemoteDescription answer) hr, Connection.moveTo_eq]
    show (complete (flushCandidates _)).session.negotiating = false
    rw [complete_eq (signaling_flushCandidates _)]
    rfl

/-! ## What leaves an exchange as it is -/

/-- Tracks are no part of an exchange. -/
theorem exchange_attachTracks (n : Negotiation) (m : MediaSet) :
    (n.attachTracks m).1.exchange = n.exchange := by
  obtain ⟨tracks, armed, attached, -, hr⟩ := n.attachTracks_frame m
  rw [hr]
  rfl

/-- An offer that the connection keeps is not touched. -/
theorem withdraw_cases (n : Negotiation) :
    (∃ m, n.withdraw = (m, false) ∧ m.exchange = n.exchange ∧ m.localId = n.localId) ∨
      ∃ m, n.withdraw = (m, true) := by
  unfold withdraw
  obtain ⟨c, e, ⟨armed, -, rfl⟩, hr⟩ | ⟨-, -, hr⟩ := n.connection.rollback_cases
  · rw [hr]
    exact .inl ⟨_, rfl, rfl, rfl⟩
  · rw [hr]
    exact .inr ⟨_, rfl⟩

/-- An offer that is ignored retains the exchange; one that is taken up has ended it before. -/
theorem retains_receiveOffer (n : Negotiation) (sender : ClientId) (offer : Description) :
    Retains n (n.receiveOffer sender offer).1 := by
  unfold receiveOffer
  split
  · split
    · obtain ⟨m, hw, hexchange, hid⟩ | ⟨m, hw⟩ := n.withdraw_cases
      · rw [hw]
        exact fun _ => ⟨hexchange, hid⟩
      · rw [hw]
        exact retains_of_rest (m.negotiating_takeOffer sender offer)
    · exact .refl n
  · exact retains_of_rest (n.negotiating_takeOffer sender offer)

/-- A candidate is applied, waits or is refused; the exchange does not hang on it. -/
theorem exchange_receiveCandidate (n : Negotiation) (x : Candidate) :
    (n.receiveCandidate x).1.exchange = n.exchange ∧
      (n.receiveCandidate x).1.localId = n.localId := by
  unfold receiveCandidate
  split
  · exact ⟨rfl, rfl⟩
  · obtain ⟨c, e, ⟨armed, -, rfl⟩, hr⟩ | ⟨-, hr⟩ := n.connection.addCandidate_cases x
    · rw [onConnection_eq (·.addCandidate x) hr]
      exact ⟨rfl, rfl⟩
    · rw [onConnection_eq (·.addCandidate x) hr]
      exact ⟨rfl, rfl⟩

/-- A message retains the exchange, or ends it. -/
theorem Mirrors.retains_receive (h : Mirrors n) (m : Message) : Retains n (n.receive m).1 := by
  have hreceives := n.receives m
  generalize n.receive m = r at hreceives ⊢
  cases hreceives with
  | nothing => exact .refl n
  | offer => exact n.retains_receiveOffer _ _
  | answer _ hstate => exact retains_of_rest (negotiating_applyAnswer (h.haveLocalOffer hstate) _)
  | @candidate _ x => exact fun _ => n.exchange_receiveCandidate x

theorem OpenOrShut.retains_receive (h : OpenOrShut n) (m : Message) :
    Retains n (n.receive m).1 := by
  obtain hmirrors | hshut := h
  · exact hmirrors.retains_receive m
  · unfold Negotiation.receive
    rw [if_pos hshut.isClosed]
    exact .refl n

theorem retains_settle (n : Negotiation) : Retains n n.settle := by
  unfold settle
  split
  · exact retains_of_rest rfl
  · exact .refl n

/-- Events retain the exchange. -/
theorem retains_handle (n : Negotiation) (e : ConnectionEvent) : Retains n (n.handle e).1 := by
  unfold handle
  split
  · exact .refl n
  cases e with
  | localCandidate c => exact .refl n
  | signalingChanged s =>
      cases hs : s.isStable with
      | true => simpa [hs] using n.retains_settle
      | false => simpa [hs] using Retains.refl n
  | iceChanged s => exact fun _ => ⟨rfl, rfl⟩
  | remoteTrack t => exact .refl n

theorem retains_handleAll (n : Negotiation) (es : List ConnectionEvent) :
    Retains n (n.handleAll es).1 := by
  induction es generalizing n with
  | nil => exact .refl n
  | cons e es ih => exact (n.retains_handle e).trans (ih _)

theorem retains_pump (n : Negotiation) : Retains n n.pump.1 :=
  n.withoutEvents.retains_handleAll n.connection.events

/-- While an exchange is under way, no peer is released. -/
theorem retains_resetPeer (n : Negotiation) : Retains n n.resetPeer.1 := by
  unfold resetPeer
  split
  · exact .refl n
  · split
    · exact .refl n
    · next hrest =>
        have hrest' : n.session.negotiating = false := by simpa using hrest
        exact retains_of_rest hrest'

/-! ## What starts an exchange -/

/-- If an exchange is under way, then with an offer of this side that is pending on the connection
and was sent as the message `last` to the peer. -/
def Awaits (n : Negotiation) (last : Option Message) : Prop :=
  n.session.negotiating = true →
    n.session.state = .haveLocalOffer ∧ n.connection.signaling = .haveLocalOffer ∧
      ∃ (peer : ClientId) (offer : Description),
        n.session.peer = some peer ∧ peer.isEmpty = false ∧
          n.connection.localDescription = some offer ∧ offer.kind = .offer ∧
          last = some (.signal ⟨.offer, n.localId, peer, offer.payload⟩)

/-- Whoever retains the exchange still awaits the answer to the same offer. -/
theorem Awaits.of_retains {last : Option Message} (h : Awaits n last) (hr : Retains n n') :
    Awaits n' last := by
  intro hneg
  obtain ⟨hexchange, hid⟩ := hr hneg
  have hneg' : n.session.negotiating = true :=
    (congrArg Exchange.negotiating hexchange).symm.trans hneg
  obtain ⟨hstate, hs, peer, offer, hp, hblank, hlocal, hk, hlast⟩ := h hneg'
  refine ⟨?_, ?_, peer, offer, ?_, hblank, ?_, hk, ?_⟩
  · exact (congrArg Exchange.state hexchange).trans hstate
  · exact (congrArg Exchange.signaling hexchange).trans hs
  · exact (congrArg Exchange.peer hexchange).trans hp
  · exact (congrArg Exchange.localDescription hexchange).trans hlocal
  · rw [hid]
    exact hlast

/-- A call that nothing stands against names its peer, and no exchange is under way. -/
theorem of_callRefusal?_eq_none {peer : ClientId} (h : n.callRefusal? peer = none) :
    peer.isEmpty = false ∧ n.session.negotiating = false := by
  unfold callRefusal? at h
  split at h
  · cases h
  · split at h
    · cases h
    · next hblank =>
        split at h
        · cases h
        · next hneg => exact ⟨by simpa using hblank, by simpa using hneg⟩

/-- An offer is refused, or it is applied here as it is sent. -/
theorem sendOffer_cases (n : Negotiation) (peer : ClientId) {offer : Description}
    (hk : offer.kind = .offer) :
    (∃ m e, n.sendOffer peer offer = (m, .error e)) ∨
      ∃ m, n.sendOffer peer offer =
          (m, .ok (.signal ⟨.offer, n.localId, peer, offer.payload⟩)) ∧
        m.localId = n.localId ∧ m.session.state = .haveLocalOffer ∧
        m.session.peer = some peer ∧ m.connection.signaling = .haveLocalOffer ∧
        m.connection.localDescription = some offer := by
  rw [sendOffer_eq]
  obtain ⟨c, e, -, hr⟩ | ⟨-, -, hr⟩ | ⟨ha, -, -⟩ := n.connection.setLocalDescription_cases offer
  · rw [onConnection_eq (·.setLocalDescription offer) hr]
    exact .inl ⟨_, _, rfl⟩
  · rw [onConnection_eq (·.setLocalDescription offer) hr, Connection.moveTo_eq]
    exact .inr ⟨_, rfl, rfl, rfl, rfl, rfl, rfl⟩
  · rw [hk] at ha
    cases ha

/-! ### Calls -/

/-- **A call** makes an offer and waits for the answer, or what is under way stays as it is. If it
stalls, nothing is under way. -/
theorem startCall_awaits (n : Negotiation) (peer : ClientId) :
    ((∃ e, (n.startCall peer).2 = .finished (.error e)) ∧ Retains n (n.startCall peer).1) ∨
      ((n.startCall peer).2 = .stalled ∧ (n.startCall peer).1.session.negotiating = false) ∨
      ∃ m, (n.startCall peer).2 = .finished (.ok m) ∧ Awaits (n.startCall peer).1 (some m) := by
  obtain ⟨e, hr, -⟩ | ⟨hopen, hcall⟩ := n.startCall_turnedDown_or peer
  · rw [hr]
    exact .inl ⟨⟨_, rfl⟩, .refl n⟩
  obtain ⟨hblank, hrest⟩ := of_callRefusal?_eq_none hcall
  obtain ⟨m, e, -, hr⟩ | ⟨m, ha, ⟨-, hr⟩ | ⟨c, e, -, hr⟩ | ⟨-, hr⟩⟩ :=
    n.startCall_cases hopen hcall
  · rw [hr]
    exact .inl ⟨⟨_, rfl⟩, retains_of_rest m.negotiating_abandon⟩
  · -- the call stalls: tracks are attached, but nothing is under way
    have hm := n.exchange_attachTracks (n.liveMedia?.getD ⟨[]⟩)
    rw [ha] at hm
    rw [hr]
    exact .inr (.inl ⟨rfl, (congrArg Exchange.negotiating hm).trans hrest⟩)
  · rw [hr]
    exact .inl ⟨⟨_, rfl⟩, retains_of_rest (negotiating_abandon _)⟩
  · obtain ⟨m', e, hsend⟩ | ⟨m', hsend, hid, hstate, hp, hs, hlocal⟩ :=
      sendOffer_cases { m with connection :=
        { m.connection with offersCreated := m.connection.offersCreated + 1 } } peer
        m.connection.kind_nextOffer
    · rw [hsend] at hr
      rw [hr]
      exact .inl ⟨⟨e, rfl⟩, retains_of_rest m'.negotiating_abandon⟩
    · rw [hsend] at hr
      rw [hr]
      refine .inr (.inr ⟨_, rfl, fun _ => ⟨hstate, hs, peer, _, hp, hblank, hlocal, rfl, ?_⟩⟩)
      exact congrArg (fun id => some (Message.signal ⟨.offer, id, peer, _⟩)) hid.symm

/-! ## Late reports -/

/-- There is nothing to settle while an offer waits for its answer. -/
theorem Awaits.settle_eq {last : Option Message} (h : Awaits n last) : n.settle = n := by
  unfold settle isSettled
  cases hneg : n.session.negotiating with
  | false => rfl
  | true => simp [(h hneg).2.1, SignalingState.isStable]

/-- **A signaling state that is reported changes nothing**, be it out of date or not. -/
theorem Awaits.handle_signalingChanged {last : Option Message} (h : Awaits n last)
    (hopen : n.session.isClosed = false) (s : SignalingState) :
    n.handle (.signalingChanged s) = (n, .ok none) := by
  simp [handle, hopen, h.settle_eq]

/-- However many reports of a signaling state come, none changes anything. -/
theorem Awaits.handleAll_signalingChanged {last : Option Message} (h : Awaits n last)
    (hopen : n.session.isClosed = false) (ss : List SignalingState) :
    n.handleAll (ss.map .signalingChanged) = (n, ss.map fun s => (.signalingChanged s, .ok none)) := by
  induction ss with
  | nil => rfl
  | cons s ss ih => simp [handleAll, h.handle_signalingChanged hopen, ih]

end Negotiation

/-! ## Runs -/

def Completion.offer? : Completion → Option Message
  | .called (.ok m) => some m
  | _ => none

namespace Endpoint

open Negotiation

variable {e : Endpoint}

def offersBy (e : Endpoint) (a : Action) : List Message := (e.act a).2.filterMap (·.2.offer?)

def offers (e : Endpoint) : List Action → List Message
  | [] => []
  | a :: as => e.offersBy a ++ (e.act a).1.offers as

/-- Who finds the session closed makes no offer. -/
theorem offer?_late (w : Waiter) : w.late.offer? = none := by
  cases w with
  | operation op => cases op <;> rfl
  | pump taken => rfl

/-- The session is free: a call may make an offer, and nothing else starts an exchange. -/
theorem awaits_submit_free (h : OpenOrShut e.negotiation) (hfree : e.holder = none) (ticket : Nat)
    (op : Operation) :
    (e.offersBy (.submit ticket op) = [] ∧ Retains e.negotiation (e.submit ticket op).1.negotiation) ∨
      ∃ m, e.offersBy (.submit ticket op) = [m] ∧
        Awaits (e.submit ticket op).1.negotiation (some m) := by
  have hended := ended_submit hfree ticket op
  rw [negotiation_submit hfree]
  cases op with
  | call peer =>
      have hcall := e.negotiation.startCall_awaits peer
      rcases hr : e.negotiation.startCall peer with ⟨n, (cause | m) | _⟩ <;> rw [hr] at hcall <;>
        simp only [Operation.run, hr] at hended ⊢ <;> simp only [offersBy, act, hended]
      · -- refused
        obtain ⟨-, hretains⟩ | ⟨hr, -⟩ | ⟨m, hr, -⟩ := hcall
        · exact .inl ⟨rfl, hretains⟩
        · cases hr
        · cases hr
      · -- the offer is made
        obtain ⟨⟨cause, hr⟩, -⟩ | ⟨hr, -⟩ | ⟨m', hr, hawaits⟩ := hcall
        · cases hr
        · cases hr
        · cases hr
          exact .inr ⟨m, rfl, hawaits⟩
      · -- stalled
        obtain ⟨⟨cause, hr⟩, -⟩ | ⟨-, hrest⟩ | ⟨m, hr, -⟩ := hcall
        · cases hr
        · exact .inl ⟨rfl, retains_of_rest hrest⟩
        · cases hr
  | receive m => exact .inl ⟨by rw [offersBy, act, hended]; rfl, h.retains_receive m⟩
  | handle event =>
      exact .inl ⟨by rw [offersBy, act, hended]; rfl, e.negotiation.retains_handle event⟩
  | resetPeer => exact .inl ⟨by rw [offersBy, act, hended]; rfl, e.negotiation.retains_resetPeer⟩
  | close =>
      have hshut : Shut e.negotiation.close.1 := shut_close h.shut
      exact .inl ⟨by rw [offersBy, act, hended]; rfl, retains_of_rest hshut.negotiating⟩

/-- **One action** starts an exchange with the offer that it makes, or leaves what is under way as
it is. -/
theorem awaits_act (h : OpenOrShut e.negotiation) (a : Action) :
    (e.offersBy a = [] ∧ Retains e.negotiation (e.act a).1.negotiation) ∨
      ∃ m, e.offersBy a = [m] ∧ Awaits (e.act a).1.negotiation (some m) := by
  cases a with
  | submit ticket op =>
      cases hfree : e.holder with
      | none => exact awaits_submit_free h hfree ticket op
      | some holder =>
          left
          refine ⟨List.filterMap_eq_nil_iff.mpr fun r hr => ?_, ?_⟩
          · obtain ⟨-, w, hw⟩ := late_of_busy hfree hr
            rw [hw, offer?_late]
          · show Retains _ (e.submit ticket op).1.negotiation
            by_cases hop : op = .close
            · subst hop
              rw [(submit_close_of_busy hfree ticket).1]
              -- giving up the call has ended the exchange already
              apply retains_of_rest
              rw [close]
              split <;> rfl
            · rw [(submit_of_busy hfree hop ticket).1]
              exact .refl _
  | pump ticket =>
      left
      obtain ⟨hleft, hended⟩ | ⟨-, hleft, hended⟩ := e.pump_cases ticket <;>
        simp only [offersBy, act, hleft, hended]
      · exact ⟨rfl, e.negotiation.retains_pump⟩
      · exact ⟨rfl, fun _ => ⟨rfl, rfl⟩⟩
  | setMedia m => exact .inl ⟨rfl, fun _ => ⟨rfl, rfl⟩⟩
  | failNext op => exact .inl ⟨rfl, fun _ => ⟨rfl, rfl⟩⟩
  | stallOffers on => exact .inl ⟨rfl, fun _ => ⟨rfl, rfl⟩⟩
  | emit event => exact .inl ⟨rfl, fun _ => ⟨rfl, rfl⟩⟩
  | takeEvents => exact .inl ⟨rfl, fun _ => ⟨rfl, rfl⟩⟩

/-- After any run the answer to the last offer is awaited, if any is. -/
theorem awaits_after {last : Option Message} (h : OpenOrShut e.negotiation)
    (hlast : Awaits e.negotiation last) (as : List Action) :
    Awaits (e.after as).negotiation ((e.offers as).getLast?.or last) := by
  induction as generalizing e last with
  | nil => exact hlast
  | cons a as ih =>
      have hnext : Awaits (e.act a).1.negotiation ((e.offersBy a).getLast?.or last) := by
        obtain ⟨hnone, hretains⟩ | ⟨m, hm, hawaits⟩ := awaits_act h a
        · rw [hnone]
          exact hlast.of_retains hretains
        · rw [hm]
          exact hawaits
      have hrest := ih (h.steps (e.steps_act a)) hnext
      rw [← Option.or_assoc, ← List.getLast?_append] at hrest
      exact hrest

/-! ## What negotiating means -/

/-- **What it means to be negotiating.** At any point of a run, an exchange is under way only while
an own offer is pending: the session and its connection say so, the peer has a name, and the
description on the connection is the one that the last offer of this side carried to that peer. So
no report of a signaling state changes anything, however old it is, and however often and in
whichever order such reports come. -/
theorem outstanding_of_negotiating (localId : ClientId) (label : String) (as : List Action) :
    let e := (fresh localId label).after as
    let n := e.negotiation
    (n.session.negotiating = true →
      n.session.state = .haveLocalOffer ∧ n.connection.signaling = .haveLocalOffer ∧
        ∃ (peer : ClientId) (offer : Description),
          n.session.peer = some peer ∧ peer.isEmpty = false ∧
            n.connection.localDescription = some offer ∧
            ((fresh localId label).offers as).getLast? =
              some (.signal ⟨.offer, n.localId, peer, offer.payload⟩) ∧
            offer.payload.decode Description.read = .ok offer) ∧
    (n.session.isClosed = false → ∀ reported : List SignalingState,
      n.handleAll (reported.map .signalingChanged) =
        (n, reported.map fun s => (.signalingChanged s, .ok none))) ∧
    (n.session.isClosed = false → e.holder = none → ∀ ticket reported,
      e.submit ticket (.handle (.signalingChanged reported)) =
        (e, [(ticket, .handled (.ok none))])) := by
  intro e n
  have hstart : OpenOrShut (fresh localId label).negotiation := openOrShut_after localId label []
  -- the invariant of the run speaks of the last offer that was given out
  have hawaits : Awaits n (((fresh localId label).offers as).getLast?.or none) :=
    awaits_after hstart (by simp [Awaits, fresh, start]) as
  refine ⟨fun hneg => ?_, fun hopen reported => ?_, fun hopen hfree ticket reported => ?_⟩
  · obtain ⟨hstate, hs, peer, offer, hp, hblank, hlocal, -, hlast⟩ := hawaits hneg
    rw [Option.or_none] at hlast
    exact ⟨hstate, hs, peer, offer, hp, hblank, hlocal, hlast, offer.decode_payload⟩
  · exact hawaits.handleAll_signalingChanged hopen reported
  · have hr : e.negotiation.handle (.signalingChanged reported) = (e.negotiation, .ok none) :=
      hawaits.handle_signalingChanged hopen reported
    have hrun : (Operation.handle (.signalingChanged reported)).run e.negotiation =
        (e.negotiation, some (.handled (.ok none))) := by rw [Operation.run, hr]
    exact submit_eq_of_done hfree (by simp) hrun rfl ticket

/-- A call is answered, and the same peer is called again. The report that the first exchange made
the connection stable has not been handled yet. -/
def calledAgain : List Action :=
  [.setMedia (some ⟨[⟨"audio/opus", "t", "s"⟩]⟩), .submit 0 (.call ⟨"b"⟩),
    .submit 1 (.receive (.signal ⟨.answer, ⟨"b"⟩, ⟨"a"⟩, (⟨.answer, "v=0"⟩ : Description).payload⟩)),
    .submit 2 (.call ⟨"b"⟩)]

/-- The offer that was sent last is the pending one, and the late report does not settle it. -/
theorem outstanding_of_calledAgain :
    ((fresh ⟨"a"⟩ "A").after calledAgain).negotiation.connection.signaling = .haveLocalOffer ∧
      (∃ offer : Description,
        ((fresh ⟨"a"⟩ "A").after calledAgain).negotiation.connection.localDescription = some offer ∧
          ((fresh ⟨"a"⟩ "A").offers calledAgain).getLast? =
            some (.signal ⟨.offer, ⟨"a"⟩, ⟨"b"⟩, offer.payload⟩)) ∧
      ((fresh ⟨"a"⟩ "A").after calledAgain).submit 3 (.handle (.signalingChanged .stable)) =
        ((fresh ⟨"a"⟩ "A").after calledAgain, [(3, .handled (.ok none))]) := by
  have hpeer : ((fresh ⟨"a"⟩ "A").after calledAgain).negotiation.session.peer = some ⟨"b"⟩ := by
    cbv
  have hid : ((fresh ⟨"a"⟩ "A").after calledAgain).negotiation.localId = ⟨"a"⟩ := by cbv
  obtain ⟨hpending, -, hreport⟩ := outstanding_of_negotiating ⟨"a"⟩ "A" calledAgain
  obtain ⟨-, hs, peer, offer, hp, -, hlocal, hlast, -⟩ := hpending (by cbv)
  obtain rfl : peer = ⟨"b"⟩ := Option.some.inj (hp.symm.trans hpeer)
  rw [hid] at hlast
  exact ⟨hs, ⟨offer, hlocal, hlast⟩, hreport (by cbv) (by cbv) 3 .stable⟩

end Endpoint

end Switchboard
