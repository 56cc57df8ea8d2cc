import Switchboard.Proofs.Call.Candidates
import Switchboard.Proofs.Call.Peers
import Switchboard.Proofs.Json.Written
import Switchboard.Proofs.Relay.Transparency

/-!
# What one side says is what the other side applies

A `Notice` is what one side of a call tells the other: an offer or an answer with any description,
or a candidate. It is sent as the payload of a signal, and may come back from a relay with another
sender.

The three ends of its way are looked at one by one. A negotiation that has something to tell gives
out the notice of it (`startCall_gives`, `reply_gives`, `handle_gives`). A notice is read in the
frame that a relay makes of it (`receive_signal_ofCall`, `frame_signal_ofCall`). And the other side
takes up that very notice and applies what is in it (`receive_eq_take`, `applied_take`).
-/

namespace Switchboard

open Json

/-! ## Payloads -/

/-- A description is written as a value. -/
theorem Description.value_write (d : Description) : Value d.write := by
  apply value_writeObject
  rw [List.forall_mem_cons, List.forall_mem_singleton]
  exact ⟨value_writeText d.kind.name, value_writeText d.sdp⟩

/-- A candidate is written as a value, whichever parts it has. -/
theorem Candidate.value_write (c : Candidate) : Value c.write := by
  apply value_writeObject
  intro m hm
  simp only [members, List.mem_append, List.mem_singleton, Option.mem_toList,
    Option.map_eq_some_iff] at hm
  rcases hm with ((rfl | ⟨s, -, rfl⟩) | ⟨w, -, rfl⟩) | ⟨s, -, rfl⟩
  · exact value_writeText c.candidate
  · exact value_writeText s
  · exact value_toDigits w.toNat
  · exact value_writeText s

/-- A payload that one side of a call has made: a description or a candidate. -/
inductive Payload.OfCall : Payload → Prop
  | description (d : Description) : OfCall d.payload
  | candidate (c : Candidate) : OfCall c.payload

/-- It is an object, so it is not taken for nothing. -/
theorem Payload.OfCall.value {p : Payload} (h : p.OfCall) :
    Value p.text.toList ∧ p.text ≠ "null" := by
  have hobject : ∀ ms : List (String × List Char), String.ofList (writeObject ms) ≠ "null" := by
    -- they differ in their first characters
    intro ms h
    have hchars := congrArg String.toList h
    rw [String.toList_ofList, writeObject_eq] at hchars
    exact absurd (List.cons.inj hchars).1 (by decide)
  cases h with
  | description d =>
      refine ⟨?_, hobject _⟩
      show Value (String.ofList d.write).toList
      rw [String.toList_ofList]
      exact d.value_write
  | candidate c =>
      refine ⟨?_, hobject _⟩
      show Value (String.ofList c.write).toList
      rw [String.toList_ofList]
      exact c.value_write

/-! ## Frames -/

section Frames

variable {s : Signal}

/-- A signal of a call is read back as it was written. -/
theorem Message.decode_signal_ofCall (h : s.payload.OfCall) :
    decode (signal s).encode = .ok (signal s) := by
  obtain ⟨hv, hnull⟩ := h.value
  exact (decode_encode_signal s hv).trans (if_neg hnull)

/-- Whatever the frame says about its sender, the payload is read in it. -/
theorem Message.receive_signal_ofCall (h : s.payload.OfCall) (sender : ClientId) :
    receive sender (signal s).encode = .ok (signal { s with sender }) := by
  obtain ⟨hv, hnull⟩ := h.value
  exact (receive_encode_signal sender s hv).trans (if_neg hnull)

/-- Nothing but its length stands against the frame before its recipient is looked up. -/
theorem Relay.route_signal_ofCall (h : s.payload.OfCall) (r : Relay) (sender : ClientId) :
    r.route sender (Message.signal s).encode =
      if r.frameLimit < (Message.signal s).encode.utf8ByteSize then
        .error (.tooLarge (Message.signal s).encode.utf8ByteSize r.frameLimit)
      else r.forward { s with sender } := by
  rw [route, Message.receive_signal_ofCall h]

/-- The frame that is queued for the recipient is read as the signal of the client it came from. -/
theorem Relay.frame_signal_ofCall (h : s.payload.OfCall) {r r' : Relay} {sender : ClientId}
    {delivery : Delivery} (hroute : r.route sender (Message.signal s).encode = .ok (delivery, r')) :
    ∃ handle o frame, r.registry.find? s.recipient = some handle ∧
      r.outbox? handle.outbox = some o ∧
      r' = r.setOutbox handle.outbox { o with frames := o.frames ++ [frame] } ∧
      Message.decode frame = .ok (.signal { s with sender }) := by
  rw [r.route_signal_ofCall h sender] at hroute
  split at hroute
  · cases hroute
  -- a frame comes about only if it is queued for someone
  obtain ⟨e, hforward⟩ | ⟨handle, o, hfind, ho, -, -, hforward⟩ :=
    r.forward_cases { s with sender }
  · rw [hforward] at hroute
    cases hroute
  · rw [hforward] at hroute
    cases hroute
    have hstamped : Signal.payload { s with sender } |>.OfCall := h
    exact ⟨handle, o, _, hfind, ho, rfl, Message.decode_signal_ofCall hstamped⟩

end Frames

/-! ## Notices -/

inductive Notice where
  | offer (d : Description)
  | answer (d : Description)
  | candidate (c : Candidate)
deriving DecidableEq, Repr

namespace Notice

def topic : Notice → Topic
  | offer _ => .offer
  | answer _ => .answer
  | candidate _ => .candidate

def payload : Notice → Payload
  | offer d | answer d => d.payload
  | candidate c => c.payload

def signal (x : Notice) (sender recipient : ClientId) : Signal :=
  ⟨x.topic, sender, recipient, x.payload⟩

/-- What a notice carries is a payload of a call. -/
theorem ofCall (x : Notice) : x.payload.OfCall := by
  cases x with
  | offer d => exact .description d
  | answer d => exact .description d
  | candidate c => exact .candidate c

end Notice

namespace Negotiation

variable {n n' : Negotiation} {peer sender recipient : ClientId} {m : Message}

/-! ## Giving out notices -/

/-- Completing an exchange is a matter of the session only. -/
theorem connection_complete (n : Negotiation) : n.complete.connection = n.connection := by
  unfold complete settle
  split <;> rfl

/-- The offer of a call is the local description from then on. -/
theorem startCall_gives (h : n.startCall peer = (n', .finished (.ok m))) :
    ∃ d, n'.connection.localDescription = some d ∧
      m = .signal ((Notice.offer d).signal n.localId peer) := by
  obtain ⟨e, hr, -⟩ | ⟨hopen, hcall⟩ := n.startCall_turnedDown_or peer
  · rw [hr] at h
    cases h
  obtain ⟨n₁, e, -, hr⟩ | ⟨n₁, hattach, hr⟩ := startCall_cases hopen hcall
  · rw [hr] at h
    cases h
  -- attaching tracks makes nobody someone else
  have hid : n₁.localId = n.localId := by
    have hsides := congrArg Prod.fst (n.sides_attachTracks (n.liveMedia?.getD ⟨[]⟩))
    rw [hattach] at hsides
    exact hsides
  obtain ⟨-, hr⟩ | ⟨c, e, -, hr⟩ | ⟨-, hr⟩ := hr
  · rw [hr] at h
    cases h
  · rw [hr] at h
    cases h
  simp only at hr
  rw [hr] at h
  obtain ⟨n₂, e, hsend⟩ | ⟨n₂, hsend, -, -, -, -, hlocal⟩ := sendOffer_cases
    { n₁ with connection := { n₁.connection with offersCreated := n₁.connection.offersCreated + 1 } }
    peer n₁.connection.kind_nextOffer
  · rw [hsend] at h
    cases h
  · rw [hsend] at h
    cases h
    exact ⟨_, hlocal, by rw [← hid]; rfl⟩

/-! ### Stages of an answer -/

/-- This side is `id`, and `offer` is what it has heard of the other side. -/
def Considers (id : ClientId) (offer : Description) (n : Negotiation) : Prop :=
  n.localId = id ∧ n.connection.remoteDescription = some offer

/-- An offer was answered: the answer, which goes to the sender, is the local description. -/
def AnswersWith (id sender : ClientId) (offer : Description) (answer : Message)
    (n : Negotiation) : Prop :=
  n.connection.remoteDescription = some offer ∧
    ∃ d, n.connection.localDescription = some d ∧
      answer = .signal ((Notice.answer d).signal id sender)

variable {id : ClientId} {offer d : Description}

/-- A flush changes neither who this side is nor what it considers. -/
theorem Considers.flushCandidates (h : Considers id offer n) :
    Considers id offer n.flushCandidates := by
  obtain ⟨taken, armed, -, -, hr⟩ := n.flushCandidates_frame
  rw [hr]
  exact h

/-- Making the answer does not yet apply it. -/
theorem Considers.createAnswer (h : Considers id offer n) :
    Leaves (fun e _ => Refused e) (fun _ => Considers id offer)
      (n.onConnection Connection.createAnswer) := by
  obtain ⟨c, e, -, hr⟩ | ⟨-, hr⟩ := n.connection.createAnswer_cases
  · rw [onConnection_eq Connection.createAnswer hr]
    exact ⟨e, rfl⟩
  · rw [onConnection_eq Connection.createAnswer hr]
    exact h

/-- What is applied as a local description is one. -/
theorem Considers.setLocalDescription (h : Considers id offer n) (d : Description) :
    Leaves (fun e _ => Refused e)
      (fun _ n' => Considers id offer n' ∧ n'.connection.localDescription = some d)
      (n.onConnection (·.setLocalDescription d)) := by
  obtain ⟨c, e, -, hr⟩ | ⟨-, -, hr⟩ | ⟨-, -, hr⟩ := n.connection.setLocalDescription_cases d
  · rw [onConnection_eq (·.setLocalDescription d) hr]
    exact ⟨e, rfl⟩
  · rw [onConnection_eq (·.setLocalDescription d) hr, Connection.moveTo_eq]
    exact ⟨h, rfl⟩
  · rw [onConnection_eq (·.setLocalDescription d) hr, Connection.moveTo_eq]
    exact ⟨h, rfl⟩

/-- What is applied as a remote description is one. -/
theorem considers_setRemoteDescription (n : Negotiation) (d : Description) :
    Leaves (fun e _ => Refused e) (fun _ => Considers n.localId d)
      (n.onConnection (·.setRemoteDescription d)) := by
  obtain ⟨c, e, -, hr⟩ | ⟨-, -, hr⟩ | ⟨-, -, hr⟩ := n.connection.setRemoteDescription_cases d
  · rw [onConnection_eq (·.setRemoteDescription d) hr]
    exact ⟨e, rfl⟩
  · rw [onConnection_eq (·.setRemoteDescription d) hr, Connection.moveTo_eq]
    exact ⟨rfl, rfl⟩
  · rw [onConnection_eq (·.setRemoteDescription d) hr, Connection.moveTo_eq]
    exact ⟨rfl, rfl⟩

/-- Attaching does not change who this side is. -/
theorem leaves_attachLiveMedia (n : Negotiation) :
    Leaves (fun e _ => Refused e) (fun _ n' => n'.localId = n.localId) n.attachLiveMedia := by
  have hsides := congrArg Prod.fst n.sides_attachLiveMedia
  rcases hr : n.attachLiveMedia with ⟨n', e | ⟨⟩⟩
  · unfold attachLiveMedia at hr
    split at hr
    · cases hr
    · exact refused_attachTracks hr
  · rw [hr] at hsides
    exact hsides

/-- The answer that is sent is the one that has been applied here. -/
theorem Considers.answerPending (h : Considers id offer n) (sender : ClientId) :
    Leaves (fun e _ => Refused e) (AnswersWith id sender offer) (n.answerPending sender) := by
  unfold Negotiation.answerPending
  apply h.flushCandidates.createAnswer.andThen
  intro answer n₁ h₁
  apply (h₁.setLocalDescription answer).andThen
  rintro - n₂ ⟨⟨rfl, hremote⟩, hlocal⟩
  have hsame := n₂.connection_complete
  exact ⟨by rw [hsame, hremote], answer, by rw [hsame, hlocal], rfl⟩

/-- The offer that is answered is the one that has been applied here. -/
theorem answersWith_answerOffer (n : Negotiation) (sender : ClientId) (offer : Description) :
    Leaves (fun e _ => Refused e) (AnswersWith n.localId sender offer)
      (n.answerOffer sender offer) := by
  rw [answerOffer_eq]
  apply n.leaves_attachLiveMedia.andThen
  intro _ n₁ hid
  rw [← hid]
  apply (n₁.considers_setRemoteDescription offer).andThen
  intro _ n₂ h₂
  have hnoted : Considers n₁.localId offer
      (n₂.onSession fun s => { s with state := .haveRemoteOffer }) := h₂
  exact hnoted.answerPending sender

/-! ## Taking up notices -/

/-- What a negotiation does with a notice of `sender`. -/
def take (n : Negotiation) (sender : ClientId) : Notice → Attempt RemoteOutcome
  | .offer d => n.receiveOffer sender d
  | .answer d => if n.session.state ≠ .haveLocalOffer then (n, .ok .staleAnswer) else n.applyAnswer d
  | .candidate c => n.receiveCandidate c

/-- A notice is taken up as it was given out. -/
theorem receive_eq_take (hopen : n.session.isClosed = false) (x : Notice)
    (sender recipient : ClientId) :
    n.receive (.signal (x.signal sender recipient)) = n.take sender x := by
  rw [receive, if_neg (by simp [hopen])]
  cases x with
  | offer d =>
      have hread : d.payload.decode Description.read = .ok d := d.decode_payload
      simp only [receiveSignal, Notice.signal, Notice.topic, Notice.payload, hread, take]
  | answer d =>
      have hread : d.payload.decode Description.read = .ok d := d.decode_payload
      simp only [receiveSignal, Notice.signal, Notice.topic, Notice.payload, hread, take]
  | candidate c =>
      have hread : c.payload.decode Candidate.read = .ok c := c.decode_payload
      simp only [receiveSignal, Notice.signal, Notice.topic, Notice.payload, hread, take]

/-- These candidates wait, and all of them are applied by a flush to a connection that
knows the other side and refuses none. -/
def HoldsBack (waiting : List Candidate) (n : Negotiation) : Prop :=
  n.session.pending.pending = waiting ∧
    ∀ connection : Connection, connection.Ready .addCandidate →
      connection.remoteDescription.isSome →
        { n with connection }.flushCandidates.connection.candidates =
          connection.candidates ++ waiting

/-! ### What has been applied -/

/-- What has become of a notice that was taken up: it was applied as it is, or it was kept for the
next flush, or it came too late and nothing of it was applied. -/
def Applied (n : Negotiation) (sender : ClientId) :
    Notice → RemoteOutcome → Negotiation → Prop
  | .offer d, .reply answer, n' => AnswersWith n.localId sender d answer n'
  | .offer _, .glare, n' => n'.connection.remoteDescription = n.connection.remoteDescription
  | .answer d, .answerApplied, n' => n'.connection.remoteDescription = some d
  | .answer _, .staleAnswer, n' => n' = n
  | .candidate c, .candidateApplied, n' =>
    n'.connection.candidates = n.connection.candidates ++ [c]
  | .candidate c, .candidateBuffered, n' => n'.HoldsBack (n.session.pending.pending ++ [c])
  | _, _, _ => False

/-! ### What each notice does -/

/-- Whoever takes an offer up replies with its own answer. -/
theorem answersWith_takeOffer (n : Negotiation) (sender : ClientId) (d : Description) :
    Leaves (fun e _ => Refused e)
      (fun outcome n' => ∃ answer, outcome = .reply answer ∧ AnswersWith n.localId sender d answer n')
      (n.takeOffer sender d) := by
  rw [takeOffer_eq]
  have hanswer := answersWith_answerOffer
    (n.onSession fun s => { s.adoptPeer sender with negotiating := true }) sender d
  apply (hanswer.orAbandon fun _ _ h => h).andThen
  intro answer n₁ h₁
  exact ⟨answer, rfl, h₁⟩

/-- An offer that is taken up leads to an answer, on whatever terms it was taken up. -/
theorem Leaves.applied_offer {r : Attempt RemoteOutcome}
    (h : Leaves (fun e _ => Refused e)
      (fun outcome n' => ∃ answer, outcome = .reply answer ∧ AnswersWith n.localId sender d answer n')
      r) :
    Leaves (fun e _ => Refused e) (Applied n sender (.offer d)) r := by
  obtain ⟨n', e | outcome⟩ := r
  · exact h
  · obtain ⟨answer, rfl, hanswer⟩ := h
    exact hanswer

/-- An offer that is taken up is the remote description from then on; one that is not leaves it
alone. -/
theorem applied_receiveOffer (n : Negotiation) (sender : ClientId) (d : Description) :
    Leaves (fun e _ => Refused e) (Applied n sender (.offer d)) (n.receiveOffer sender d) := by
  unfold receiveOffer
  split
  · split
    · -- the offers have crossed, and ours has to give way
      obtain ⟨n₁, hw, hexchange, -⟩ | ⟨n₁, hw⟩ := n.withdraw_cases
      · simp only [hw]
        exact congrArg Exchange.remoteDescription hexchange
      · have hid : n₁.localId = n.localId := by
          have hsides := congrArg Prod.fst n.sides_withdraw
          rw [hw] at hsides
          exact hsides
        simp only [hw]
        have htaken := n₁.answersWith_takeOffer sender d
        rw [hid] at htaken
        exact htaken.applied_offer
    · exact rfl
  · exact (n.answersWith_takeOffer sender d).applied_offer

/-- The answer is the remote description from then on. -/
theorem applied_applyAnswer (n : Negotiation) (sender : ClientId) (d : Description) :
    Leaves (fun e _ => Refused e) (Applied n sender (.answer d)) (n.applyAnswer d) := by
  rw [applyAnswer_eq]
  apply ((n.considers_setRemoteDescription d).orAbandon fun _ _ h => h).andThen
  rintro - n₁ h₁
  show n₁.flushCandidates.complete.connection.remoteDescription = some d
  rw [connection_complete]
  exact h₁.flushCandidates.2

/-- Whatever waits is flushed as it is. -/
theorem holdsBack_pending (n : Negotiation) : n.HoldsBack n.session.pending.pending := by
  refine ⟨rfl, fun connection hready hremote => ?_⟩
  rw [flushCandidates_of_ready (n := { n with connection }) hready hremote]

/-- A candidate is added to those of the other side, or waits behind those that wait. -/
theorem applied_receiveCandidate (n : Negotiation) (sender : ClientId) (c : Candidate) :
    Leaves (fun e _ => Refused e) (Applied n sender (.candidate c)) (n.receiveCandidate c) := by
  cases hd : n.connection.remoteDescription with
  | none =>
      rw [receiveCandidate_none hd]
      exact holdsBack_pending (n.onSession fun s => { s with pending := s.pending.enqueue c })
  | some d =>
      obtain ⟨c', e, -, hr⟩ | ⟨-, hr⟩ := n.connection.addCandidate_cases c
      · simp only [receiveCandidate, hd, onConnection_eq (·.addCandidate c) hr]
        exact ⟨e, rfl⟩
      · rw [receiveCandidate_some (by rw [hd]; rfl) hr]
        exact rfl

/-- **What is applied is what was said**, or the connection has refused it. -/
theorem applied_take (n : Negotiation) (sender : ClientId) (x : Notice) :
    Leaves (fun e _ => Refused e) (Applied n sender x) (n.take sender x) := by
  cases x with
  | offer d => exact n.applied_receiveOffer sender d
  | answer d =>
      rw [take]
      split
      · exact rfl
      · exact n.applied_applyAnswer sender d
  | candidate c => exact n.applied_receiveCandidate sender c

/-! ## Replies and candidates -/

/-- A reply is an answer to an offer, and it is the local description from then on. -/
theorem reply_gives {s : Signal} (h : n.receive (.signal s) = (n', .ok (.reply m))) :
    ∃ d, n'.connection.localDescription = some d ∧
      m = .signal ((Notice.answer d).signal n.localId s.sender) := by
  have hreceives := n.receives (.signal s)
  generalize n.receive (.signal s) = r at hreceives h
  -- only an offer is replied to
  cases hreceives with
  | nothing hr => cases hr <;> cases h
  | @offer _ offer =>
      have happlied := n.applied_receiveOffer s.sender offer
      rw [h] at happlied
      exact happlied.2
  | @answer _ answer =>
      have happlied := n.applied_applyAnswer s.sender answer
      rw [h] at happlied
      exact happlied.elim
  | @candidate _ x =>
      have happlied := n.applied_receiveCandidate s.sender x
      rw [h] at happlied
      exact happlied.elim

/-- A candidate of this side is told to the peer. -/
theorem handle_gives {c : Candidate}
    (h : n.handle (.localCandidate c) = (n', .ok (some (.signal m)))) :
    ∃ peer, n.session.peer = some peer ∧
      m = .signal ((Notice.candidate c).signal n.localId peer) := by
  unfold handle at h
  split at h
  · cases h
  · simp only [Prod.mk.injEq, Except.ok.injEq, Option.map_eq_some_iff] at h
    obtain ⟨-, peer, hpeer, hm⟩ := h
    cases hm
    exact ⟨peer, hpeer, rfl⟩

/-! ## From one side to the other -/

/-- **What one side gives out is what the other side applies.** Descriptions and candidates are read
back as they are, also from a signal that was written as a frame, routed and read again. Calls,
replies and candidates give out notices of this side's own description or candidate; and a side that
is told of a notice takes up what is in it. -/
theorem notices_arrive :
    (∀ d : Description, d.payload.decode Description.read = .ok d) ∧
      (∀ c : Candidate, c.payload.decode Candidate.read = .ok c) ∧
      (∀ (s : Signal) (r : Relay) (sender : ClientId), s.payload.OfCall →
        (r.route sender (Message.signal s).encode =
          if r.frameLimit < (Message.signal s).encode.utf8ByteSize then
            .error (.tooLarge (Message.signal s).encode.utf8ByteSize r.frameLimit)
          else r.forward { s with sender }) ∧
        ∀ delivery r', r.route sender (Message.signal s).encode = .ok (delivery, r') →
          ∃ handle o frame, r.registry.find? s.recipient = some handle ∧
            r.outbox? handle.outbox = some o ∧
            r' = r.setOutbox handle.outbox { o with frames := o.frames ++ [frame] } ∧
            Message.decode frame = .ok (.signal { s with sender })) ∧
      (∀ (n n' : Negotiation) (peer : ClientId) (m : Message),
        n.startCall peer = (n', .finished (.ok m)) →
          ∃ d, n'.connection.localDescription = some d ∧
            m = .signal ((Notice.offer d).signal n.localId peer)) ∧
      (∀ (n n' : Negotiation) (s : Signal) (m : Message),
        n.receive (.signal s) = (n', .ok (.reply m)) →
          ∃ d, n'.connection.localDescription = some d ∧
            m = .signal ((Notice.answer d).signal n.localId s.sender)) ∧
      (∀ (n n' : Negotiation) (c : Candidate) (m : Message),
        n.handle (.localCandidate c) = (n', .ok (some (.signal m))) →
          ∃ peer, n.session.peer = some peer ∧
            m = .signal ((Notice.candidate c).signal n.localId peer)) ∧
      ∀ (n : Negotiation) (x : Notice) (sender recipient : ClientId),
        x.payload.OfCall ∧ (n.session.isClosed = false →
          n.receive (.signal (x.signal sender recipient)) = n.take sender x ∧
            Leaves (fun e _ => Refused e) (Applied n sender x) (n.take sender x)) := by
  refine ⟨Description.decode_payload, Candidate.decode_payload, ?_, ?_, ?_, ?_, ?_⟩
  · intro s r sender h
    exact ⟨r.route_signal_ofCall h sender, fun _ _ => Relay.frame_signal_ofCall h⟩
  · intro n n' peer m h
    exact startCall_gives h
  · intro n n' s m h
    exact reply_gives h
  · intro n n' c m h
    exact handle_gives h
  · intro n x sender recipient
    refine ⟨x.ofCall, fun hopen => ?_⟩
    exact ⟨receive_eq_take hopen x sender recipient, n.applied_take sender x⟩

/-! ### A first call -/

/-- A side with a camera and a microphone, before any call. -/
def equipped (id : ClientId) (label : String) : Negotiation :=
  (start id { label }).setMedia (some (.cameraAndMicrophone label))

def firstOffer : Signal := (Notice.offer ⟨.offer, "v=0 A-offer-1"⟩).signal ⟨"a"⟩ ⟨"b"⟩

/-- The side that has taken up the first offer. -/
def answering : Negotiation := ((equipped ⟨"b"⟩ "B").receive (.signal firstOffer)).1

def calling : Negotiation := ((equipped ⟨"a"⟩ "A").startCall ⟨"b"⟩).1

def firstAnswer : Signal := (Notice.answer ⟨.answer, "v=0 B-answer-1"⟩).signal ⟨"b"⟩ ⟨"a"⟩

/-- The side that has taken up the answer to its call. -/
def connected : Negotiation := (calling.receive (.signal firstAnswer)).1

/-- The offer of a call passes a relay and is answered; the answer is applied, and so is a candidate
of the answering side. A candidate that came before the offer is kept, and applied by a flush. -/
theorem notices_arrive_firstOffer :
    ∃ delivery r' frame told,
      (equipped ⟨"a"⟩ "A").startCall ⟨"b"⟩ = (calling, .finished (.ok (.signal firstOffer))) ∧
      lookout.route ⟨"a"⟩ (Message.signal firstOffer).encode = .ok (delivery, r') ∧
      r'.outbox? 0 = some ⟨2, [frame], false⟩ ∧
      Message.decode frame = .ok (.signal firstOffer) ∧
      (equipped ⟨"b"⟩ "B").receive (.signal firstOffer) =
        (answering, .ok (.reply (.signal firstAnswer))) ∧
      answering.connection.remoteDescription = calling.connection.localDescription ∧
      (∃ d, answering.connection.localDescription = some d ∧
        Message.signal firstAnswer = .signal ((Notice.answer d).signal ⟨"b"⟩ ⟨"a"⟩)) ∧
      calling.receive (.signal firstAnswer) = (connected, .ok .answerApplied) ∧
      connected.connection.remoteDescription = answering.connection.localDescription ∧
      answering.handle (.localCandidate { candidate := "c1" }) =
        (answering, .ok (some (.signal told))) ∧
      told = .signal ((Notice.candidate { candidate := "c1" }).signal ⟨"b"⟩ ⟨"a"⟩) ∧
      (∃ n, connected.receive told = (n, .ok .candidateApplied) ∧
        n.connection.candidates = [{ candidate := "c1" }]) ∧
      ∃ n, (equipped ⟨"b"⟩ "B").receive
          (.signal ((Notice.candidate { candidate := "c0" }).signal ⟨"a"⟩ ⟨"b"⟩)) =
            (n, .ok .candidateBuffered) ∧
        { n with connection := answering.connection }.flushCandidates.connection.candidates =
          [{ candidate := "c0" }] := by
  obtain ⟨hread, -, hframe, hcall, hreply, hhandle, hother⟩ := notices_arrive
  have harrives {n n' : Negotiation} {x : Notice} {sender recipient : ClientId}
      {result : Except NegotiationError RemoteOutcome} (hopen : n.session.isClosed = false)
      (h : n.receive (.signal (x.signal sender recipient)) = (n', result)) :
      Leaves (fun e _ => Refused e) (Applied n sender x) (n', result) := by
    obtain ⟨htake, happlied⟩ := (hother n x sender recipient).2 hopen
    rwa [htake.symm.trans h] at happlied
  have hcalled : (equipped ⟨"a"⟩ "A").startCall ⟨"b"⟩ =
      (calling, .finished (.ok (.signal firstOffer))) := by cbv
  obtain ⟨offer, hlocal, hoffer⟩ := hcall _ _ _ _ hcalled
  -- the offer is the one that can be read in the signal
  obtain rfl : ⟨.offer, "v=0 A-offer-1"⟩ = offer := by
    have hpayload := congrArg Signal.payload (Message.signal.inj hoffer)
    have hdecoded := congrArg (Payload.decode · Description.read) hpayload
    exact Except.ok.inj ((hread _).symm.trans (hdecoded.trans (hread _)))
  obtain ⟨delivery, r', hrouted⟩ : ∃ delivery r', lookout.route ⟨"a"⟩
      (Message.signal firstOffer).encode = .ok (delivery, r') := ⟨_, _, by cbv⟩
  have hofCall : firstOffer.payload.OfCall := .description _
  obtain ⟨handle, o, frame, hfind, ho, hr', hdecode⟩ :=
    (hframe firstOffer lookout ⟨"a"⟩ hofCall).2 _ _ hrouted
  obtain rfl : Handle.mk 0 none = handle := Option.some.inj (hfind.symm.trans (by cbv)).symm
  obtain rfl : Outbox.ofCapacity 2 = o := Option.some.inj ho
  -- the offer is answered
  have hreceived : (equipped ⟨"b"⟩ "B").receive (.signal firstOffer) =
      (answering, .ok (.reply (.signal firstAnswer))) := by cbv
  have happlied := harrives rfl hreceived
  -- the answer is applied
  have hanswered : calling.receive (.signal firstAnswer) = (connected, .ok .answerApplied) := by cbv
  have hcompleted := harrives (by cbv) hanswered
  have hknown : answering.connection.localDescription = some ⟨.answer, "v=0 B-answer-1"⟩ := by cbv
  -- the answering side tells of a candidate
  obtain ⟨told, htold⟩ : ∃ told, answering.handle (.localCandidate { candidate := "c1" }) =
      (answering, .ok (some (.signal told))) := ⟨_, by cbv⟩
  obtain ⟨peer, hpeer, hcandidate⟩ := hhandle _ _ _ _ htold
  obtain rfl : ⟨"a"⟩ = peer := Option.some.inj (hpeer.symm.trans (by cbv)).symm
  have hid : answering.localId = ⟨"b"⟩ := by cbv
  rw [hid] at hcandidate
  have happlies : ∃ n, connected.receive told = (n, .ok .candidateApplied) ∧
      n.connection.candidates = [{ candidate := "c1" }] := by
    obtain ⟨n, hn⟩ : ∃ n, connected.receive (.signal
        ((Notice.candidate { candidate := "c1" }).signal ⟨"b"⟩ ⟨"a"⟩)) =
          (n, .ok .candidateApplied) := ⟨_, by cbv⟩
    have hadded := harrives (by cbv) hn
    have hnone : connected.connection.candidates = [] := by cbv
    refine ⟨n, hcandidate ▸ hn, ?_⟩
    rw [show n.connection.candidates = connected.connection.candidates ++ _ from hadded, hnone]
    rfl
  -- a candidate of the calling side comes too early for the other
  have hkept : ∃ n, (equipped ⟨"b"⟩ "B").receive
      (.signal ((Notice.candidate { candidate := "c0" }).signal ⟨"a"⟩ ⟨"b"⟩)) =
        (n, .ok .candidateBuffered) ∧
      { n with connection := answering.connection }.flushCandidates.connection.candidates =
        [{ candidate := "c0" }] := by
    obtain ⟨n, hn⟩ : ∃ n, (equipped ⟨"b"⟩ "B").receive
        (.signal ((Notice.candidate { candidate := "c0" }).signal ⟨"a"⟩ ⟨"b"⟩)) =
          (n, .ok .candidateBuffered) := ⟨_, by cbv⟩
    have hwaits := harrives rfl hn
    have hopen : answering.connection.signaling = .stable := by cbv
    have harmed : answering.connection.armed = [] := by cbv
    have hremote : answering.connection.remoteDescription.isSome = true := by cbv
    have hnone : answering.connection.candidates = [] := by cbv
    refine ⟨n, hn, ?_⟩
    rw [hwaits.2 answering.connection ⟨by simp [hopen], by simp [harmed]⟩ hremote, hnone]
    rfl
  exact ⟨delivery, r', frame, told, hcalled, hrouted, by rw [hr']; rfl, hdecode, hreceived,
    happlied.1.trans hlocal.symm, hreply _ _ _ _ hreceived, hanswered,
    (show connected.connection.remoteDescription = some _ from hcompleted).trans hknown.symm,
    htold, hcandidate, happlies, hkept⟩

end Negotiation

end Switchboard
