import Switchboard.Proofs.Call.Outstanding
import Switchboard.Proofs.Call.Recovery

/-!
# Who the peer of a session is

A session adopts whomever it calls or hears an offer of first, and keeps that peer until it is
released. Others may still make offers, and get their answers, but that is all: offers and
candidates of this side go to the adopted peer.

An operation leaves the two sides of the call as they are, and tells the peer of nothing but
candidates; or it `Appoints` the peer. There are three operations that can do so, each in one way
only.

The main statement is `first_peer_stays`.
-/

namespace Switchboard

/-- The message that the handling of an event gives to send. -/
def NegotiationEvent.signal? : NegotiationEvent → Option Message
  | .signal m => some m
  | .iceChanged _ | .remoteTrack _ _ => none

def signalled (result : Except NegotiationError (Option NegotiationEvent)) : Option Message :=
  (result.toOption.bind id).bind NegotiationEvent.signal?

def Completion.reply? : Completion → Option Message
  | .received (.ok (.reply answer)) => some answer
  | _ => none

/-- The messages that events gave to send. -/
def Completion.reports : Completion → List Message
  | .handled result => (signalled result).toList
  | .pumped events => events.filterMap fun h => signalled h.2
  | _ => []

namespace Negotiation

variable {n : Negotiation} {α : Type}

def sides (n : Negotiation) : ClientId × Option ClientId := (n.localId, n.session.peer)

/-! ## Stages -/

/-- Nobody is forgotten because an exchange fails. -/
theorem sides_abandon (n : Negotiation) : n.abandon.sides = n.sides := by
  unfold abandon undo
  split <;> rfl

theorem sides_orAbandon (r : Attempt α) : (orAbandon r).1.sides = r.1.sides := by
  obtain ⟨m, e | a⟩ := r
  · exact m.sides_abandon
  · rfl

theorem sides_settle (n : Negotiation) : n.settle.sides = n.sides := by
  unfold settle
  split <;> rfl

theorem sides_attachTracks (n : Negotiation) (m : MediaSet) :
    (n.attachTracks m).1.sides = n.sides := by
  obtain ⟨tracks, armed, attached, -, hr⟩ := n.attachTracks_frame m
  rw [hr]
  rfl

theorem sides_attachLiveMedia (n : Negotiation) : n.attachLiveMedia.1.sides = n.sides := by
  obtain ⟨tracks, armed, attached, -, hr⟩ := n.attachLiveMedia_frame
  rw [hr]
  rfl

theorem sides_flushCandidates (n : Negotiation) : n.flushCandidates.sides = n.sides := by
  obtain ⟨taken, armed, -, -, hr⟩ := n.flushCandidates_frame
  rw [hr]
  rfl

/-- Withdrawing an offer keeps the peer that it was made to. -/
theorem sides_withdraw (n : Negotiation) : n.withdraw.1.sides = n.sides := by
  unfold withdraw
  split <;> rfl

/-- Answering an offer leaves the sides alone, also when the sender is neither of them. -/
theorem sides_answerOffer (n : Negotiation) (sender : ClientId) (offer : Description) :
    (n.answerOffer sender offer).1.sides = n.sides := by
  rw [answerOffer_eq, andThen_keeps sides, sides_attachLiveMedia]
  intro m _
  rw [andThen_keeps sides]
  · rfl
  intro m _
  rw [answerPending, andThen_keeps sides]
  · exact sides_flushCandidates _
  intro m answer
  rw [andThen_keeps sides]
  · rfl
  intro m _
  exact sides_settle _

/-- **An answer goes to whoever made the offer.** -/
theorem answer_answerOffer (n : Negotiation) (sender : ClientId) (offer : Description) :
    Leaves (fun _ _ => True)
      (fun answer m => ∃ payload, answer = .signal ⟨.answer, m.localId, sender, payload⟩)
      (n.answerOffer sender offer) := by
  rw [answerOffer_eq]
  apply (leaves_true _).andThen
  intro _ m _
  apply (leaves_true _).andThen
  intro _ m _
  -- what is attached and applied before makes no difference to whom the answer is for
  unfold answerPending
  apply (leaves_true _).andThen
  intro answer m _
  apply (leaves_true _).andThen
  intro _ m _
  have hid : m.complete.localId = m.localId := congrArg Prod.fst (sides_settle _)
  exact ⟨answer.payload, by rw [hid]⟩

/-! ## Operations -/

def TellsPeer (n : Negotiation) (m : Message) : Prop :=
  ∃ peer payload, n.session.peer = some peer ∧ m = .signal ⟨.candidate, n.localId, peer, payload⟩

/-- The operation `op` ends with `c`, and whoever is the peer by then is so by it. -/
inductive Appoints (n : Negotiation) : Operation → Completion → Option ClientId → Prop
  /-- A call makes its offer. -/
  | called {peer : ClientId} {payload : Payload}
      (hadopted : n.session.peer = none ∨ n.session.peer = some peer) :
      Appoints n (.call peer) (.called (.ok (.signal ⟨.offer, n.localId, peer, payload⟩)))
        (some peer)
  /-- An offer of the other side is taken up, and answered if nothing fails. -/
  | received {s : Signal} {offer : Description} {r : Except NegotiationError RemoteOutcome}
      (htopic : s.topic = .offer) (hread : s.payload.decode Description.read = .ok offer)
      (hr : ∀ outcome, r = .ok outcome →
        ∃ payload, outcome = .reply (.signal ⟨.answer, n.localId, s.sender, payload⟩)) :
      Appoints n (.receive (.signal s)) (.received r) (n.session.peer.or (some s.sender))
  /-- The peer is released. -/
  | released (hrest : n.session.negotiating = false) :
      Appoints n .resetPeer (.released (.ok n.session.peer)) none

/-- An offer that is taken up makes its sender the peer of a session without one. -/
theorem appoints_takeOffer (n : Negotiation) (sender : ClientId) (offer : Description) :
    (n.takeOffer sender offer).1.sides = (n.localId, n.session.peer.or (some sender)) ∧
      ∀ outcome, (n.takeOffer sender offer).2 = .ok outcome →
        ∃ payload, outcome = .reply (.signal ⟨.answer, n.localId, sender, payload⟩) := by
  rw [takeOffer_eq]
  generalize hadopted : (n.onSession fun s => { s.adoptPeer sender with negotiating := true }) = m
  have hsides : (orAbandon (m.answerOffer sender offer)).1.sides =
      (n.localId, n.session.peer.or (some sender)) := by
    rw [sides_orAbandon, sides_answerOffer, ← hadopted]
    rfl
  have hanswer : Leaves (fun _ _ => True)
      (fun answer m => ∃ payload, answer = .signal ⟨.answer, m.localId, sender, payload⟩)
      (orAbandon (m.answerOffer sender offer)) :=
    (m.answer_answerOffer sender offer).orAbandon fun _ _ h => h
  generalize orAbandon (m.answerOffer sender offer) = r at hsides hanswer ⊢
  obtain ⟨m', e | answer⟩ := r
  · -- also who is answered in vain has been adopted
    exact ⟨hsides, fun outcome h => by cases h⟩
  · refine ⟨hsides, fun outcome h => ?_⟩
    obtain ⟨payload, rfl⟩ := hanswer
    obtain rfl := Except.ok.inj h
    have hid : m'.localId = n.localId := congrArg Prod.fst hsides
    exact ⟨payload, by rw [hid]⟩

/-- A crossing offer that ours stands against leaves the sides alone; any other is taken up. -/
theorem receiveOffer_appoints (n : Negotiation) (sender : ClientId) (offer : Description) :
    ((n.receiveOffer sender offer).2 = .ok .glare ∧
        (n.receiveOffer sender offer).1.sides = n.sides) ∨
      (n.receiveOffer sender offer).1.sides = (n.localId, n.session.peer.or (some sender)) ∧
        ∀ outcome, (n.receiveOffer sender offer).2 = .ok outcome →
          ∃ payload, outcome = .reply (.signal ⟨.answer, n.localId, sender, payload⟩) := by
  unfold receiveOffer
  split
  · split
    · -- an own offer that cannot be withdrawn leaves the offer unanswered
      have hsides := n.sides_withdraw
      rcases hr : n.withdraw with ⟨m, _ | _⟩ <;> rw [hr] at hsides
      · exact .inl ⟨rfl, hsides⟩
      · have hid : m.localId = n.localId := congrArg Prod.fst hsides
        have hpeer : m.session.peer = n.session.peer := congrArg Prod.snd hsides
        rw [← hid, ← hpeer]
        exact .inr (m.appoints_takeOffer sender offer)
    · exact .inl ⟨rfl, rfl⟩
  · exact .inr (n.appoints_takeOffer sender offer)

/-- An answer appoints nobody, whoever has sent it. -/
theorem sides_applyAnswer (n : Negotiation) (answer : Description) :
    (n.applyAnswer answer).1.sides = n.sides := by
  rw [applyAnswer_eq, andThen_keeps sides]
  · exact sides_orAbandon _
  intro m _
  exact (sides_settle _).trans m.sides_flushCandidates

/-- An answer is not replied to. -/
theorem reply?_applyAnswer (n : Negotiation) (answer : Description) :
    (Completion.received (n.applyAnswer answer).2).reply? = none := by
  rw [applyAnswer_eq]
  rcases orAbandon (n.onConnection (·.setRemoteDescription answer)) with ⟨n', e | ⟨⟩⟩ <;> rfl

/-- A candidate appoints nobody. -/
theorem sides_receiveCandidate (n : Negotiation) (x : Candidate) :
    (n.receiveCandidate x).1.sides = n.sides := by
  unfold receiveCandidate
  split
  · rfl
  · rcases hr : n.connection.addCandidate x with ⟨c, e | ⟨⟩⟩ <;>
      rw [onConnection_eq (·.addCandidate x) hr] <;> rfl

theorem reply?_receiveCandidate (n : Negotiation) (x : Candidate) :
    (Completion.received (n.receiveCandidate x).2).reply? = none := by
  unfold receiveCandidate
  split
  · rfl
  · rcases n.onConnection (·.addCandidate x) with ⟨n', e | ⟨⟩⟩ <;> rfl

/-- How a message leaves the sides: as they were, and then it is not answered, or as it appoints
them. -/
def Heard (n : Negotiation) (m : Message) (r : Attempt RemoteOutcome) : Prop :=
  (r.1.sides = n.sides ∧ (Completion.received r.2).reply? = none) ∨
    r.1.localId = n.localId ∧ Appoints n (.receive m) (.received r.2) r.1.session.peer

/-- **A message** appoints nobody unless it is an offer. -/
theorem heard_receive (n : Negotiation) (m : Message) : Heard n m (n.receive m) := by
  have hreceives := n.receives m
  generalize n.receive m = r at hreceives ⊢
  cases hreceives with
  | nothing hr => cases hr <;> exact .inl ⟨rfl, rfl⟩
  | @offer s offer htopic hread =>
      obtain ⟨hglare, hsides⟩ | ⟨hsides, hanswer⟩ := n.receiveOffer_appoints s.sender offer
      · exact .inl ⟨hsides, by rw [hglare]; rfl⟩
      · have hpeer : (n.receiveOffer s.sender offer).1.session.peer = _ := congrArg Prod.snd hsides
        refine .inr ⟨congrArg Prod.fst hsides, ?_⟩
        rw [hpeer]
        exact .received htopic hread hanswer
  | answer => exact .inl ⟨n.sides_applyAnswer _, n.reply?_applyAnswer _⟩
  | candidate => exact .inl ⟨n.sides_receiveCandidate _, n.reply?_receiveCandidate _⟩

/-! ### Calls -/

/-- An own offer that is applied is addressed to the peer that it is made to. -/
theorem sides_sendOffer (n : Negotiation) (peer : ClientId) (offer : Description) :
    Leaves (fun _ m => m.sides = n.sides)
      (fun sent m => m.sides = (n.localId, some peer) ∧
        ∃ payload, sent = .signal ⟨.offer, n.localId, peer, payload⟩)
      (n.sendOffer peer offer) := by
  rw [sendOffer_eq]
  rcases hr : n.connection.setLocalDescription offer with ⟨c, e | ⟨⟩⟩ <;>
    rw [onConnection_eq (·.setLocalDescription offer) hr]
  · rfl
  · exact ⟨rfl, offer.payload, rfl⟩

/-- A call is refused to everybody but the peer, if there is one. -/
theorem peer_of_callRefusal?_eq_none {peer : ClientId} (h : n.callRefusal? peer = none) :
    n.session.peer = none ∨ n.session.peer = some peer := by
  rcases hp : n.session.peer with _ | p
  · exact .inl rfl
  · right
    by_contra hne
    have hother : p ≠ peer := fun heq => hne (congrArg some heq)
    have hrefused : (n.callRefusal? peer).isSome := by
      unfold callRefusal?
      split_ifs <;> simp_all
    rw [h] at hrefused
    cases hrefused

/-- **A call** appoints whom it calls if it makes its offer, and nobody if it does not. -/
theorem startCall_appoints (n : Negotiation) (peer : ClientId) :
    ((n.startCall peer).1.sides = n.sides ∧ ∀ m, (n.startCall peer).2 ≠ .finished (.ok m)) ∨
      ∃ payload,
        (n.startCall peer).2 = .finished (.ok (.signal ⟨.offer, n.localId, peer, payload⟩)) ∧
        (n.startCall peer).1.sides = (n.localId, some peer) ∧
        (n.session.peer = none ∨ n.session.peer = some peer) := by
  obtain ⟨e, hr, -⟩ | ⟨hopen, hcall⟩ := n.startCall_turnedDown_or peer
  · rw [hr]
    exact .inl ⟨rfl, fun _ h => by cases h⟩
  have hattach := n.sides_attachTracks (n.liveMedia?.getD ⟨[]⟩)
  obtain ⟨m, e, ha, hr⟩ | ⟨m, ha, ⟨-, hr⟩ | ⟨c, e, ⟨armed, -, rfl⟩, hr⟩ | ⟨-, hr⟩⟩ :=
    n.startCall_cases hopen hcall <;> rw [ha] at hattach <;> rw [hr]
  · exact .inl ⟨m.sides_abandon.trans hattach, fun _ h => by cases h⟩
  · exact .inl ⟨hattach, fun _ h => by cases h⟩
  · exact .inl ⟨(sides_abandon _).trans hattach, fun _ h => by cases h⟩
  · -- the peer is adopted with the offer, and not before
    generalize hmade : { m with connection := { m.connection with
      offersCreated := m.connection.offersCreated + 1 } } = made
    have hsides : made.sides = n.sides := by
      rw [← hmade]
      exact hattach
    have hsent := made.sides_sendOffer peer m.connection.nextOffer
    rcases hsend : made.sendOffer peer m.connection.nextOffer with ⟨m', e | sent⟩ <;>
      rw [hsend] at hsent
    · exact .inl ⟨m'.sides_abandon.trans (hsent.trans hsides), fun _ h => by cases h⟩
    · have hid : made.localId = n.localId := congrArg Prod.fst hsides
      rw [hid] at hsent
      obtain ⟨hpeer, payload, rfl⟩ := hsent
      exact .inr ⟨payload, rfl, hpeer, peer_of_callRefusal?_eq_none hcall⟩

/-! ### Events -/

/-- **An event of the connection** leaves the sides alone, and gives to send at most a candidate. -/
theorem handle_tellsPeer (n : Negotiation) (e : ConnectionEvent) :
    (n.handle e).1.sides = n.sides ∧ ∀ m ∈ signalled (n.handle e).2, n.TellsPeer m := by
  unfold handle
  split
  · exact ⟨rfl, fun _ h => by cases h⟩
  cases e with
  | localCandidate c =>
      refine ⟨rfl, fun m hm => ?_⟩
      -- without a peer nobody is told
      rcases hp : n.session.peer with _ | peer
      · simp [signalled, Except.toOption, hp] at hm
      · simp [signalled, Except.toOption, hp, NegotiationEvent.signal?] at hm
        exact ⟨peer, c.payload, hp, hm.symm⟩
  | signalingChanged s =>
      refine ⟨?_, nofun⟩
      show Negotiation.sides (if s.isStable then n.settle else n) = _
      split
      · exact n.sides_settle
      · rfl
  | iceChanged s => exact ⟨rfl, nofun⟩
  | remoteTrack t => exact ⟨rfl, nofun⟩

/-- Whom a message tells depends on the sides only. -/
theorem TellsPeer.of_sides {n' : Negotiation} {m : Message} (h : n'.TellsPeer m)
    (hsides : n'.sides = n.sides) : n.TellsPeer m := by
  obtain ⟨peer, payload, hp, rfl⟩ := h
  have hid : n'.localId = n.localId := congrArg Prod.fst hsides
  have hpeer : n'.session.peer = n.session.peer := congrArg Prod.snd hsides
  exact ⟨peer, payload, hpeer ▸ hp, by rw [hid]⟩

/-- However many events are handled, what they report goes to the peer. -/
theorem handleAll_tellsPeer (n : Negotiation) (es : List ConnectionEvent) :
    (n.handleAll es).1.sides = n.sides ∧
      ∀ m ∈ (Completion.pumped (n.handleAll es).2).reports, n.TellsPeer m := by
  induction es generalizing n with
  | nil => exact ⟨rfl, nofun⟩
  | cons e es ih =>
      obtain ⟨hsides, htells⟩ := n.handle_tellsPeer e
      obtain ⟨hrest, hall⟩ := ih (n.handle e).1
      refine ⟨hrest.trans hsides, fun m hm => ?_⟩
      obtain ⟨h, hh, hm⟩ := List.mem_filterMap.mp hm
      obtain rfl | hh := List.mem_cons.mp hh
      · exact htells m hm
      · exact (hall m (List.mem_filterMap.mpr ⟨h, hh, hm⟩)).of_sides hsides

/-! ### Releasing and closing -/

/-- A peer is released between exchanges, or not at all. -/
theorem resetPeer_appoints (n : Negotiation) :
    (n.resetPeer.1 = n ∧ ∃ e, n.resetPeer.2 = .error e) ∨
      n.resetPeer.2 = .ok n.session.peer ∧ n.session.negotiating = false ∧
        n.resetPeer.1.sides = (n.localId, none) := by
  unfold resetPeer
  split
  · exact .inl ⟨rfl, _, rfl⟩
  · split
    · exact .inl ⟨rfl, _, rfl⟩
    · next hrest => exact .inr ⟨rfl, by simpa using hrest, rfl⟩

/-- Closing keeps the peer on record. -/
theorem sides_close (n : Negotiation) : n.close.1.sides = n.sides := by
  unfold close
  split <;> rfl

/-- The operation sends no description, and tells of candidates only the peer. -/
structure Quiet (n : Negotiation) (c : Completion) : Prop where
  offer : c.offer? = none
  reply : c.reply? = none
  reports : ∀ m ∈ c.reports, n.TellsPeer m

/-- There is nothing to send at all. -/
theorem Quiet.of_nil {c : Completion} (hoffer : c.offer? = none) (hreply : c.reply? = none)
    (hreports : c.reports = []) : Quiet n c := by
  refine ⟨hoffer, hreply, ?_⟩
  rw [hreports]
  exact List.forall_mem_nil _

/-! ### Any operation -/

/-- **One operation** leaves the sides as they are and is quiet, or it appoints the peer. -/
theorem run_appoints (n : Negotiation) (op : Operation) :
    ((op.run n).1.sides = n.sides ∧ ∀ c ∈ (op.run n).2, Quiet n c) ∨
      (op.run n).1.localId = n.localId ∧
        ∃ c ∈ (op.run n).2, Appoints n op c (op.run n).1.session.peer := by
  cases op with
  | call peer =>
      have hcall := n.startCall_appoints peer
      simp only [Operation.run]
      rcases hr : n.startCall peer with ⟨m, (e | offer) | _⟩ <;> rw [hr] at hcall
      · obtain ⟨hsides, -⟩ | ⟨payload, hr, -⟩ := hcall
        · refine .inl ⟨hsides, fun c hc => ?_⟩
          cases hc
          exact .of_nil rfl rfl rfl
        · cases hr
      · obtain ⟨-, hnone⟩ | ⟨payload, hr, hsides, hadopted⟩ := hcall
        · exact absurd rfl (hnone offer)
        · cases hr
          have hpeer : m.session.peer = some peer := congrArg Prod.snd hsides
          refine .inr ⟨congrArg Prod.fst hsides, _, rfl, ?_⟩
          show Appoints n _ _ m.session.peer
          rw [hpeer]
          exact .called hadopted
      · obtain ⟨hsides, -⟩ | ⟨payload, hr, -⟩ := hcall
        · exact .inl ⟨hsides, fun c hc => by cases hc⟩
        · cases hr
  | receive m =>
      -- an offer that is taken up appoints, and nothing else that is received
      obtain ⟨hsides, hreply⟩ | ⟨hid, happoints⟩ := n.heard_receive m
      · refine .inl ⟨hsides, fun c hc => ?_⟩
        cases hc
        exact .of_nil rfl hreply rfl
      · exact .inr ⟨hid, _, rfl, happoints⟩
  | handle e =>
      obtain ⟨hsides, htells⟩ := n.handle_tellsPeer e
      refine .inl ⟨hsides, fun c hc => ?_⟩
      cases hc
      exact ⟨rfl, rfl, fun m hm => htells m (Option.mem_toList.mp hm)⟩
  | resetPeer =>
      obtain ⟨hsame, e, hr⟩ | ⟨hr, hrest, hsides⟩ := n.resetPeer_appoints
      · refine .inl ⟨congrArg sides hsame, fun c hc => ?_⟩
        cases hc
        exact .of_nil rfl rfl rfl
      · have hpeer : n.resetPeer.1.session.peer = none := congrArg Prod.snd hsides
        refine .inr ⟨congrArg Prod.fst hsides, .released n.resetPeer.2, rfl, ?_⟩
        show Appoints n _ _ n.resetPeer.1.session.peer
        rw [hpeer, hr]
        exact .released hrest
  | close =>
      refine .inl ⟨n.sides_close, fun c hc => ?_⟩
      cases hc
      exact .of_nil rfl rfl rfl

end Negotiation

namespace Endpoint

open Negotiation

variable {e : Endpoint}

/-! ## Actions -/

def peer (e : Endpoint) : Option ClientId := e.negotiation.session.peer

/-- Who finds the session closed has nothing to send. -/
theorem quiet_late (n : Negotiation) (w : Waiter) : Quiet n w.late := by
  cases w with
  | operation op => cases op <;> exact .of_nil rfl rfl rfl
  | pump taken =>
      apply Quiet.of_nil rfl rfl
      simp [Waiter.late, Waiter.closes, Waiter.fail, Completion.reports, signalled, Except.toOption]

/-- **One action** leaves the sides as they are, and what ends by it is quiet; or it is an operation
that ends at once and appoints the peer. -/
theorem act_appoints (e : Endpoint) (a : Action) :
    ((e.act a).1.negotiation.sides = e.negotiation.sides ∧
        ∀ ended ∈ (e.act a).2, Quiet e.negotiation ended.2) ∨
      (e.act a).1.negotiation.localId = e.negotiation.localId ∧
        ∃ ticket op c, a = .submit ticket op ∧ (e.act a).2 = [(ticket, c)] ∧
          Appoints e.negotiation op c (e.act a).1.peer := by
  cases a with
  | submit ticket op =>
      cases hheld : e.holder with
      | none =>
          have hrun := e.negotiation.run_appoints op
          simp only [act, peer, negotiation_submit hheld, ended_submit hheld]
          rcases hr : op.run e.negotiation with ⟨n, _ | c⟩ <;> rw [hr] at hrun
          · obtain ⟨hsides, -⟩ | ⟨-, c, hc, -⟩ := hrun
            · exact .inl ⟨hsides, List.forall_mem_nil _⟩
            · cases hc
          · obtain ⟨hsides, hquiet⟩ | ⟨hid, c', hc, happoints⟩ := hrun
            · left
              refine ⟨hsides, fun ended hended => ?_⟩
              obtain rfl := List.mem_singleton.mp hended
              exact hquiet c rfl
            · cases hc
              exact .inr ⟨hid, ticket, op, c, rfl, rfl, happoints⟩
      | some holder =>
          left
          refine ⟨?_, fun ended hended => ?_⟩
          · show (e.submit ticket op).1.negotiation.sides = _
            by_cases hop : op = .close
            · subst hop
              rw [(submit_close_of_busy hheld ticket).1]
              exact sides_close _
            · rw [(submit_of_busy hheld hop ticket).1]
          · -- who is turned away is told nothing
            obtain ⟨-, w, hw⟩ := late_of_busy hheld hended
            rw [hw]
            exact quiet_late _ w
  | pump ticket =>
      left
      obtain ⟨hleft, hended⟩ | ⟨-, hleft, hended⟩ := e.pump_cases ticket <;>
        simp only [act, hleft, hended]
      · obtain ⟨hsides, htells⟩ :=
          e.negotiation.withoutEvents.handleAll_tellsPeer e.negotiation.connection.events
        refine ⟨hsides, fun ended hended => ?_⟩
        obtain rfl := List.mem_singleton.mp hended
        exact ⟨rfl, rfl, fun m hm => (htells m hm).of_sides rfl⟩
      · exact ⟨rfl, List.forall_mem_nil _⟩
  | setMedia m => exact .inl ⟨rfl, List.forall_mem_nil _⟩
  | failNext op => exact .inl ⟨rfl, List.forall_mem_nil _⟩
  | stallOffers on => exact .inl ⟨rfl, List.forall_mem_nil _⟩
  | emit event => exact .inl ⟨rfl, List.forall_mem_nil _⟩
  | takeEvents => exact .inl ⟨rfl, List.forall_mem_nil _⟩

/-! ## Runs -/

/-- A side never changes its own id. -/
theorem localId_after (localId : ClientId) (label : String) (as : List Action) :
    ((fresh localId label).after as).negotiation.localId = localId := by
  have hact : ∀ e a, e.negotiation.localId = localId → (act e a).1.negotiation.localId = localId := by
    intro e a hid
    obtain ⟨hsides, -⟩ | ⟨hsame, -⟩ := e.act_appoints a
    · exact (congrArg Prod.fst hsides).trans hid
    · exact hsame.trans hid
  exact invariant_of_act (P := fun e => e.negotiation.localId = localId) hact rfl as

/-! ### The peer of a run -/

/-- The peer stays unless it is released. -/
theorem peer_act {p : ClientId} (hp : e.peer = some p) (a : Action) :
    (e.act a).1.peer = some p ∨
      (e.act a).1.peer = none ∧ e.negotiation.session.negotiating = false ∧
        ∃ ticket, a = .submit ticket .resetPeer ∧
          (e.act a).2 = [(ticket, .released (.ok (some p)))] := by
  have hp' : e.negotiation.session.peer = some p := hp
  obtain ⟨hsides, -⟩ | ⟨-, ticket, op, c, rfl, hended, happoints⟩ := e.act_appoints a
  · exact .inl ((congrArg Prod.snd hsides).trans hp)
  · generalize (e.act (.submit ticket op)).1.peer = peer at happoints ⊢
    cases happoints with
    | called hadopted =>
        rw [hp'] at hadopted
        -- a call is made to the peer, once there is one
        obtain hnone | hsame := hadopted
        · cases hnone
        · exact .inl hsame.symm
    | received htopic hread hr =>
        left
        rw [hp']
        rfl
    | released hrest =>
        rw [hp'] at hended
        exact .inr ⟨rfl, hrest, ticket, rfl, hended⟩

/-- A peer stays through any run in which it is not released. -/
theorem peer_after {p : ClientId} (hp : e.peer = some p) {as : List Action}
    (hkept : ∀ ticket, .submit ticket .resetPeer ∉ as) : (e.after as).peer = some p := by
  induction as generalizing e with
  | nil => exact hp
  | cons a as ih =>
      obtain hstays | ⟨-, -, ticket, rfl, -⟩ := e.peer_act hp a
      · exact ih hstays fun ticket hmem => hkept ticket (.tail _ hmem)
      · exact absurd (.head _) (hkept ticket)

/-- A session gets its peer from a call that makes its offer, or from an offer that is taken up. -/
theorem adopts_act {p : ClientId} (hnone : e.peer = none) {a : Action}
    (hp : (e.act a).1.peer = some p) :
    (∃ ticket m, a = .submit ticket (.call p) ∧ (e.act a).2 = [(ticket, .called (.ok m))]) ∨
      ∃ ticket s offer r, a = .submit ticket (.receive (.signal s)) ∧ s.topic = .offer ∧
        s.sender = p ∧ s.payload.decode Description.read = .ok offer ∧
        (e.act a).2 = [(ticket, .received r)] ∧ r ≠ .ok .glare := by
  have hnone' : e.negotiation.session.peer = none := hnone
  obtain ⟨hsides, -⟩ | ⟨-, ticket, op, c, rfl, hended, happoints⟩ := e.act_appoints a
  · have hsame : (e.act a).1.peer = e.peer := congrArg Prod.snd hsides
    rw [hp, hnone] at hsame
    cases hsame
  · rw [hp] at happoints
    generalize hpeer : some p = peer at happoints
    cases happoints with
    | called hadopted =>
        cases hpeer
        exact .inl ⟨ticket, _, rfl, hended⟩
    | @received s offer r htopic hread hr =>
        rw [hnone'] at hpeer
        cases hpeer
        refine .inr ⟨ticket, s, offer, r, rfl, htopic, rfl, hread, hended, ?_⟩
        -- an offer that is taken up is answered, so it was not glare
        rintro rfl
        obtain ⟨payload, hglare⟩ := hr _ rfl
        cases hglare
    | released hrest => cases hpeer

/-- What an action gives to send goes out in the name of this side: an offer to the peer by then, an
answer to whoever made the offer, and candidates to the peer, who was so before. -/
theorem messages_act {a : Action} {r : Nat × Completion} (hr : r ∈ (e.act a).2) :
    (∀ m ∈ r.2.offer?, ∃ p payload,
      (e.act a).1.peer = some p ∧ m = .signal ⟨.offer, e.negotiation.localId, p, payload⟩) ∧
    (∀ m ∈ r.2.reply?, ∃ ticket s payload,
      a = .submit ticket (.receive (.signal s)) ∧ s.topic = .offer ∧
        m = .signal ⟨.answer, e.negotiation.localId, s.sender, payload⟩) ∧
    ∀ m ∈ r.2.reports, ∃ p payload,
      e.peer = some p ∧ (e.act a).1.peer = some p ∧
        m = .signal ⟨.candidate, e.negotiation.localId, p, payload⟩ := by
  obtain ⟨hsides, hquiet⟩ | ⟨-, ticket, op, c, rfl, hended, happoints⟩ := e.act_appoints a
  · have hpeer : (e.act a).1.peer = e.peer := congrArg Prod.snd hsides
    obtain ⟨hoffer, hreply, hreports⟩ := hquiet r hr
    rw [hoffer, hreply]
    refine ⟨nofun, nofun, fun m hm => ?_⟩
    obtain ⟨p, payload, hp, rfl⟩ := hreports m hm
    exact ⟨p, payload, hp, hpeer.trans hp, rfl⟩
  · rw [hended] at hr
    obtain rfl := List.mem_singleton.mp hr
    generalize (e.act (.submit ticket op)).1.peer = peer at happoints ⊢
    cases happoints with
    | called hadopted =>
        refine ⟨fun m hm => ?_, nofun, nofun⟩
        cases hm
        exact ⟨_, _, rfl, rfl⟩
    | @received s offer outcome htopic hread hanswer =>
        refine ⟨nofun, fun m hm => ?_, nofun⟩
        rcases outcome with cause | outcome
        · cases hm
        · obtain ⟨payload, rfl⟩ := hanswer _ rfl
          cases hm
          exact ⟨ticket, s, payload, rfl, htopic, rfl⟩
    | released hrest => exact ⟨nofun, nofun, nofun⟩

/-! ### From the first peer on -/

/-- **The first peer stays.** At any point of any run, whatever is done next: a peer that was
adopted stays, unless it is released, and that takes a reset while no exchange is under way. A
session without a peer adopts `p` only by a call of `p` that makes its offer, or by an offer of `p`
that can be read and is not glare. An offer is addressed to the peer at that time, an answer goes to
whoever made the offer, the candidates of this side go to the peer, and all of them name this side
as their sender. -/
theorem first_peer_stays (localId : ClientId) (label : String) (as : List Action) (a : Action) :
    let e := (fresh localId label).after as
    let e' := (e.act a).1
    let ended := (e.act a).2
    (∀ p, e.peer = some p →
      (e'.peer = some p ∨
        e'.peer = none ∧ e.negotiation.session.negotiating = false ∧
          ∃ ticket, a = .submit ticket .resetPeer ∧
            ended = [(ticket, .released (.ok (some p)))]) ∧
      ∀ later, (∀ ticket, .submit ticket .resetPeer ∉ later) → (e.after later).peer = some p) ∧
    (∀ p, e.peer = none → e'.peer = some p →
      (∃ ticket m, a = .submit ticket (.call p) ∧ ended = [(ticket, .called (.ok m))]) ∨
        ∃ ticket s offer r, a = .submit ticket (.receive (.signal s)) ∧ s.topic = .offer ∧
          s.sender = p ∧ s.payload.decode Description.read = .ok offer ∧
          ended = [(ticket, .received r)] ∧ r ≠ .ok .glare) ∧
    (∀ r ∈ ended,
      (∀ m ∈ r.2.offer?, ∃ p payload,
        e'.peer = some p ∧ m = .signal ⟨.offer, localId, p, payload⟩) ∧
      (∀ m ∈ r.2.reply?, ∃ ticket s payload,
        a = .submit ticket (.receive (.signal s)) ∧ s.topic = .offer ∧
          m = .signal ⟨.answer, localId, s.sender, payload⟩) ∧
      ∀ m ∈ r.2.reports, ∃ p payload,
        e.peer = some p ∧ e'.peer = some p ∧ m = .signal ⟨.candidate, localId, p, payload⟩) := by
  intro e e' ended
  have hid : e.negotiation.localId = localId := localId_after localId label as
  refine ⟨fun p hp => ⟨peer_act hp a, fun later hkept => peer_after hp hkept⟩,
    fun p hnone hp => adopts_act hnone hp, fun r hr => ?_⟩
  have hmessages := messages_act (e := e) (r := r) hr
  rw [hid] at hmessages
  exact hmessages

/-- An offer of `a` is answered. -/
def adoptedCaller : List Action := [.submit 0 (.receive (offerFrom ⟨"a"⟩ "v=0 1"))]

/-- An offer of `c` is answered to `c`, and `a` stays the peer. -/
theorem first_peer_stays_adoptedCaller :
    let e := (fresh ⟨"b"⟩ "b").after adoptedCaller
    let r := e.act (.submit 1 (.receive (offerFrom ⟨"c"⟩ "v=0 2")))
    e.peer = some ⟨"a"⟩ ∧ r.1.peer = some ⟨"a"⟩ ∧
      ∃ payload, r.2 = [(1, .received (.ok (.reply (.signal ⟨.answer, ⟨"b"⟩, ⟨"c"⟩, payload⟩))))] := by
  intro e r
  have hp : e.peer = some ⟨"a"⟩ := by cbv
  obtain ⟨answer, hended⟩ : ∃ answer, r.2 = [(1, .received (.ok (.reply answer)))] :=
    ⟨_, by cbv⟩
  obtain ⟨hstays, -, hmessages⟩ := first_peer_stays ⟨"b"⟩ "b" adoptedCaller
    (.submit 1 (.receive (offerFrom ⟨"c"⟩ "v=0 2")))
  refine ⟨hp, ?_, ?_⟩
  · obtain ⟨hsame | ⟨-, -, ticket, hreset, -⟩, -⟩ := hstays ⟨"a"⟩ hp
    · exact hsame
    · cases hreset
  · obtain ⟨-, hreply, -⟩ := hmessages (1, .received (.ok (.reply answer)))
      (by rw [show _ = _ from hended]; exact .head _)
    obtain ⟨ticket, s, payload, hsubmit, -, rfl⟩ := hreply answer rfl
    cases hsubmit
    exact ⟨payload, hended⟩

end Endpoint

end Switchboard
