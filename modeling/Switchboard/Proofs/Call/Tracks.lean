import Switchboard.Proofs.Call.Candidates

/-!
# The tracks of one media set

A side sends the tracks of one media set, all of them and each once, or none. They are attached
where none are sent, as a whole or not at all. Nothing but a rollback takes them away again, and
that takes all. So whatever is sent at some point goes back to the media that were live when it was
attached (`tracks_of_one_set`), whatever has become of the media since.

A crossing offer can do both in one go: ours is withdrawn with its tracks, and the answer attaches
the media that are live by then. This is why an operation is looked at from the point at which it
attaches (`Carries`), which is then after the withdrawal.
-/

namespace Switchboard

namespace Connection

variable {c : Connection}

/-! ## Attaching -/

/-- **Tracks are added as a whole or not at all**: a failure that is armed hits the first one. -/
theorem addTracks_cases (c : Connection) (ts : List Track) :
    (∃ c' e, Spends c c' ∧ c.addTracks ts = (c', .error e)) ∨
      c.addTracks ts = ({ c with tracks := c.tracks ++ ts }, .ok ()) := by
  cases ts with
  | nil => exact .inr (by simp [addTracks])
  | cons t ts =>
      obtain ⟨c', e, hs, h⟩ | ⟨hready, -⟩ := c.attempt_cases .addTrack
        ({ c with tracks := c.tracks ++ [t] }, .ok ())
      · left
        exact ⟨c', e, hs, by simp only [addTracks, addTrack, h]⟩
      · exact .inr (addTracks_of_ready hready (t :: ts))

/-- A media set is refused, comes too late, or gives all of its tracks. -/
theorem attach_cases (c : Connection) (m : MediaSet) :
    (∃ c' e, Spends c c' ∧ c.attach m = (c', .error e)) ∨
      (c.tracks ≠ [] ∧ c.attach m = (c, .ok 0)) ∨
      (c.tracks = [] ∧ c.attach m = ({ c with tracks := m.tracks }, .ok m.size)) := by
  unfold attach
  rcases hempty : c.tracks with _ | ⟨t, ts⟩
  · obtain ⟨c', e, hs, h⟩ | h := c.addTracks_cases m.tracks
    · exact .inl ⟨c', e, hs, by simp [h]⟩
    · exact .inr (.inr ⟨rfl, by simp [h, hempty]⟩)
  · exact .inr (.inl ⟨by simp, by simp⟩)

end Connection

namespace Negotiation

variable {n₀ n : Negotiation} {α : Type}

/-! ## What is sent -/

/-- What a side sends, whether its session knows, and what it could send. -/
def outgoing (n : Negotiation) : List Track × Bool × Option MediaSet :=
  (n.connection.tracks, n.session.localStreamAttached, n.media)

/-- The session knows whether tracks are sent. -/
def Informed (n : Negotiation) : Prop :=
  n.session.localStreamAttached = !n.connection.tracks.isEmpty

/-- `n` comes of `n₀`, and sends what `n₀` sends, or nothing any more, or `n₀` sends nothing yet and
`n` sends the media that are live in it. -/
structure Carries (n₀ n : Negotiation) : Prop where
  informed : n.Informed
  tracks : n.connection.tracks = n₀.connection.tracks ∨ n.connection.tracks = [] ∨
    n₀.connection.tracks = [] ∧ ∃ m, n₀.liveMedia? = some m ∧ n.connection.tracks = m.tracks

/-- To begin with, nothing has been attached. -/
theorem Informed.carries (h : n.Informed) : Carries n n := ⟨h, .inl rfl⟩

/-- What is carried depends on the tracks and on the flag only. -/
theorem Carries.congr {n' : Negotiation} (h : Carries n₀ n) (hsame : n'.outgoing = n.outgoing) :
    Carries n₀ n' := by
  have htracks : n'.connection.tracks = n.connection.tracks := congrArg Prod.fst hsame
  have hknown : n'.session.localStreamAttached = n.session.localStreamAttached :=
    congrArg (·.2.1) hsame
  refine ⟨?_, ?_⟩
  · show n'.session.localStreamAttached = !n'.connection.tracks.isEmpty
    rw [htracks, hknown]
    exact h.informed
  · rw [htracks]
    exact h.tracks

/-! ## Stages that leave the tracks alone -/

/-- An own description says nothing about the tracks. -/
theorem outgoing_setLocalDescription (n : Negotiation) (d : Description) :
    (n.onConnection (·.setLocalDescription d)).1.outgoing = n.outgoing := by
  obtain ⟨c, e, ⟨armed, -, rfl⟩, hr⟩ | ⟨-, -, hr⟩ | ⟨-, -, hr⟩ :=
    n.connection.setLocalDescription_cases d <;>
    rw [onConnection_eq (·.setLocalDescription d) hr]
  · rfl
  all_goals rw [Connection.moveTo_eq]; rfl

/-- A description of the other side says nothing about the tracks either. -/
theorem outgoing_setRemoteDescription (n : Negotiation) (d : Description) :
    (n.onConnection (·.setRemoteDescription d)).1.outgoing = n.outgoing := by
  obtain ⟨c, e, ⟨armed, -, rfl⟩, hr⟩ | ⟨-, -, hr⟩ | ⟨-, -, hr⟩ :=
    n.connection.setRemoteDescription_cases d <;>
    rw [onConnection_eq (·.setRemoteDescription d) hr]
  · rfl
  all_goals rw [Connection.moveTo_eq]; rfl

/-- Making an answer attaches nothing. -/
theorem outgoing_createAnswer (n : Negotiation) :
    (n.onConnection Connection.createAnswer).1.outgoing = n.outgoing := by
  obtain ⟨c, e, ⟨armed, -, rfl⟩, hr⟩ | ⟨-, hr⟩ := n.connection.createAnswer_cases <;>
    rw [onConnection_eq Connection.createAnswer hr] <;> rfl

/-- Candidates are no tracks. -/
theorem outgoing_flushCandidates (n : Negotiation) : n.flushCandidates.outgoing = n.outgoing := by
  obtain ⟨taken, armed, -, -, hr⟩ := n.flushCandidates_frame
  rw [hr]
  rfl

theorem outgoing_settle (n : Negotiation) : n.settle.outgoing = n.outgoing := by
  unfold settle
  split <;> rfl

theorem outgoing_receiveCandidate (n : Negotiation) (x : Candidate) :
    (n.receiveCandidate x).1.outgoing = n.outgoing := by
  unfold receiveCandidate
  split
  · rfl
  · obtain ⟨c, e, ⟨armed, -, rfl⟩, hr⟩ | ⟨-, hr⟩ := n.connection.addCandidate_cases x <;>
      rw [onConnection_eq (·.addCandidate x) hr] <;> rfl

/-- Sending an offer attaches nothing. -/
theorem outgoing_sendOffer (n : Negotiation) (peer : ClientId) (offer : Description) :
    (n.sendOffer peer offer).1.outgoing = n.outgoing := by
  rw [sendOffer_eq]
  have hsend := andThen_keeps outgoing (n.onConnection (·.setLocalDescription offer))
    (f := fun n _ => (n.onSession fun s =>
        { s with peer := some peer, state := .haveLocalOffer, negotiating := true },
      .ok (Message.signal ⟨.offer, n.localId, peer, offer.payload⟩))) fun _ _ => rfl
  exact hsend.trans (n.outgoing_setLocalDescription offer)

/-- An answer needs no tracks of its own. -/
theorem outgoing_answerPending (n : Negotiation) (sender : ClientId) :
    (n.answerPending sender).1.outgoing = n.outgoing := by
  unfold answerPending
  rw [andThen_keeps outgoing, outgoing_createAnswer, outgoing_flushCandidates]
  intro m answer
  rw [andThen_keeps outgoing, outgoing_setLocalDescription]
  intro m _
  exact outgoing_settle _

/-- No event attaches anything. -/
theorem outgoing_handle (n : Negotiation) (e : ConnectionEvent) :
    (n.handle e).1.outgoing = n.outgoing := by
  unfold handle
  split
  · rfl
  cases e with
  | signalingChanged s =>
      show outgoing (if s.isStable then n.settle else n) = _
      split
      · exact n.outgoing_settle
      · rfl
  | _ => rfl

theorem outgoing_handleAll (n : Negotiation) (es : List ConnectionEvent) :
    (n.handleAll es).1.outgoing = n.outgoing := by
  induction es generalizing n with
  | nil => rfl
  | cons e es ih => exact (ih _).trans (n.outgoing_handle e)

theorem outgoing_resetPeer (n : Negotiation) : n.resetPeer.1.outgoing = n.outgoing := by
  unfold resetPeer
  split
  · rfl
  · split <;> rfl

/-! ## Attaching and giving up -/

/-- The tracks of the live set are attached, unless some are already. -/
theorem Informed.attachTracks (h : n.Informed) {m : MediaSet} (hlive : n.liveMedia? = some m) :
    Carries n (n.attachTracks m).1 := by
  obtain ⟨c, e, ⟨armed, -, rfl⟩, hr⟩ | ⟨-, hr⟩ | ⟨hnone, hr⟩ := n.connection.attach_cases m <;>
    rw [Negotiation.attachTracks, onConnection_eq (·.attach m) hr]
  · exact h.carries.congr rfl
  · exact ⟨rfl, .inl rfl⟩
  · exact ⟨rfl, .inr (.inr ⟨hnone, m, hlive, rfl⟩)⟩

theorem Informed.attachLiveMedia (h : n.Informed) : Carries n n.attachLiveMedia.1 := by
  unfold Negotiation.attachLiveMedia
  rcases hlive : n.liveMedia? with _ | m
  · exact h.carries
  · exact h.attachTracks hlive

/-- Giving up leaves the tracks alone, or takes all of them away. -/
theorem Carries.undo (h : Carries n₀ n) : Carries n₀ n.undo := by
  unfold Negotiation.undo
  split
  · exact h
  · obtain ⟨c, e, ⟨armed, -, rfl⟩, hr⟩ | ⟨-, -, hr⟩ := n.connection.rollback_cases <;> rw [hr]
    · exact ⟨rfl, h.tracks⟩
    · exact ⟨rfl, .inr (.inl rfl)⟩

/-- An abandoned exchange takes the tracks with it, or leaves them all. -/
theorem Carries.abandon (h : Carries n₀ n) : Carries n₀ n.abandon := by
  have hquiet : Carries n₀ (n.onSession fun s => { s with negotiating := false }) := h.congr rfl
  exact hquiet.undo.congr rfl

/-- Abandoned or not, the tracks are those of one set. -/
theorem Carries.orAbandon {r : Attempt α} (h : Carries n₀ r.1) : Carries n₀ (orAbandon r).1 := by
  obtain ⟨m, e | a⟩ := r
  · exact Carries.abandon h
  · exact h

/-! ## Operations -/

/-- An answer attaches what is live, before anything else is done. -/
theorem Informed.answerOffer (h : n.Informed) (sender : ClientId) (offer : Description) :
    Carries n (n.answerOffer sender offer).1 := by
  apply h.attachLiveMedia.congr
  rw [answerOffer_eq, andThen_keeps outgoing]
  intro m _
  rw [andThen_keeps outgoing, outgoing_setRemoteDescription]
  intro m _
  exact outgoing_answerPending _ sender

/-- Whoever takes an offer up attaches the live set before answering. -/
theorem Informed.takeOffer (h : n.Informed) (sender : ClientId) (offer : Description) :
    Carries n (n.takeOffer sender offer).1 := by
  have hadopt : Informed (n.onSession fun s => { s.adoptPeer sender with negotiating := true }) := h
  have hanswer := (hadopt.answerOffer sender offer).orAbandon
  have htaken : Carries (n.onSession fun s => { s.adoptPeer sender with negotiating := true })
      (n.takeOffer sender offer).1 := by
    apply hanswer.congr
    rw [takeOffer_eq, andThen_keeps outgoing]
    intro m answer
    rfl
  exact ⟨htaken.informed, htaken.tracks⟩

/-! ### Giving way first -/

/-- Our offer is withdrawn for the message, which is an offer that crosses it. -/
def Withdraws (n : Negotiation) (m : Message) : Prop :=
  ∃ s offer, m = .signal s ∧ s.topic = .offer ∧ s.payload.decode Description.read = .ok offer ∧
    n.session.state = .haveLocalOffer ∧ n.yieldsTo s.sender = true ∧ n.withdraw.2 = true

/-- What was sent with our offer is withdrawn with it, and nothing is where the offer stands. -/
theorem Informed.withdraw (h : n.Informed) :
    (n.withdraw.2 = false ∧ Carries n n.withdraw.1) ∨
      n.withdraw.2 = true ∧ n.withdraw.1.Informed ∧ n.withdraw.1.connection.tracks = [] ∧
        n.withdraw.1.liveMedia? = n.liveMedia? := by
  unfold Negotiation.withdraw
  obtain ⟨c, e, ⟨armed, -, rfl⟩, hr⟩ | ⟨-, -, hr⟩ := n.connection.rollback_cases <;> rw [hr]
  · exact .inl ⟨rfl, h.carries.congr rfl⟩
  · exact .inr ⟨rfl, rfl, rfl, rfl⟩

/-- **A message** attaches tracks where none are sent, or where it has ours withdrawn. -/
theorem Informed.receive (h : n.Informed) (m : Message) :
    Carries n (n.receive m).1 ∨ n.Withdraws m ∧ Carries n.withdraw.1 (n.receive m).1 := by
  have hreceives := n.receives m
  generalize n.receive m = r at hreceives ⊢
  cases hreceives with
  | nothing => exact .inl h.carries
  | @offer s offer htopic hread =>
      unfold receiveOffer
      split
      · next hstate =>
          split
          · next hyields =>
              -- whose own offer gives way may lose its tracks with it
              have hw := h.withdraw
              rcases hr : n.withdraw with ⟨m, _ | _⟩ <;> rw [hr] at hw
              · obtain ⟨-, hkept⟩ | ⟨hgone, -⟩ := hw
                · exact .inl hkept
                · cases hgone
              · obtain ⟨hkept, -⟩ | ⟨-, hinformed, -⟩ := hw
                · cases hkept
                · have hwithdraws : n.Withdraws (.signal s) :=
                    ⟨s, offer, rfl, htopic, hread, hstate, hyields, by rw [hr]⟩
                  exact .inr ⟨hwithdraws, hinformed.takeOffer s.sender offer⟩
          · exact .inl h.carries
      · exact .inl (h.takeOffer s.sender offer)
  | @answer s answer =>
      left
      have hremote : Carries n (n.onConnection (·.setRemoteDescription answer)).1 :=
        h.carries.congr (n.outgoing_setRemoteDescription answer)
      apply hremote.orAbandon.congr
      show outgoing (n.applyAnswer answer).1 = _
      rw [applyAnswer_eq, andThen_keeps outgoing]
      intro m _
      exact (outgoing_settle _).trans m.outgoing_flushCandidates
  | @candidate _ x => exact .inl (h.carries.congr (n.outgoing_receiveCandidate x))

/-- **A call** attaches what is live before it makes its offer. -/
theorem Informed.startCall (h : n.Informed) (peer : ClientId) :
    Carries n (n.startCall peer).1 := by
  obtain ⟨e, hr, -⟩ | ⟨hopen, hcall⟩ := n.startCall_turnedDown_or peer
  · rw [hr]
    exact h.carries
  -- without live media the call would have been refused
  obtain ⟨media, hlive⟩ : ∃ media, n.liveMedia? = some media := by
    by_contra hnone
    simp_all [callRefusal?, ← Option.eq_none_iff_forall_ne_some]
  have hattach := h.attachTracks hlive
  have hmedia : n.liveMedia?.getD ⟨[]⟩ = media := by rw [hlive]; rfl
  obtain ⟨m, e, ha, hr⟩ | ⟨m, ha, ⟨-, hr⟩ | ⟨c, e, ⟨armed, -, rfl⟩, hr⟩ | ⟨-, hr⟩⟩ :=
    n.startCall_cases hopen hcall <;> rw [hmedia] at ha <;> rw [ha] at hattach <;> rw [hr]
  · exact hattach.abandon
  · exact hattach
  · apply Carries.abandon
    exact hattach.congr rfl
  · apply Carries.orAbandon
    exact hattach.congr (outgoing_sendOffer _ peer _)

/-! ### Any operation -/

/-- **One operation** that leaves the session open. -/
theorem Informed.run (h : n.Informed) {op : Operation} (hop : op ≠ .close) :
    Carries n (op.run n).1 ∨
      ∃ m, op = .receive m ∧ n.Withdraws m ∧ Carries n.withdraw.1 (op.run n).1 := by
  cases op with
  | call peer =>
      left
      have hcall := h.startCall peer
      simp only [Operation.run]
      rcases hr : n.startCall peer with ⟨m, r | _⟩ <;> rw [hr] at hcall <;> exact hcall
  | receive m =>
      obtain hcarries | ⟨hwithdraws, hcarries⟩ := h.receive m
      · exact .inl hcarries
      · exact .inr ⟨m, rfl, hwithdraws, hcarries⟩
  | handle e => exact .inl (h.carries.congr (n.outgoing_handle e))
  | resetPeer => exact .inl (h.carries.congr n.outgoing_resetPeer)
  | close => exact absurd rfl hop

end Negotiation

namespace Endpoint

open Negotiation

variable {e : Endpoint}

/-! ## Actions -/

def tracks (e : Endpoint) : List Track := e.negotiation.connection.tracks

/-- The action attaches the live media `m`: none were sent before, or they are withdrawn by it. -/
def Attaches (e : Endpoint) (a : Action) (m : MediaSet) : Prop :=
  e.negotiation.liveMedia? = some m ∧ (e.act a).1.tracks = m.tracks ∧
    (e.tracks = [] ∨
      ∃ ticket message, a = .submit ticket (.receive message) ∧ e.negotiation.Withdraws message)

/-- What an action makes of the tracks, if it does not close the session. -/
def Follows (e : Endpoint) (a : Action) : Prop :=
  (e.act a).1.negotiation.Informed ∧
    ((e.act a).1.tracks = e.tracks ∨ (e.act a).1.tracks = [] ∨ ∃ m, e.Attaches a m)

/-- An action that carries the tracks on follows. -/
theorem follows_of_carries {a : Action} (h : Carries e.negotiation (e.act a).1.negotiation) :
    Follows e a := by
  refine ⟨h.informed, ?_⟩
  obtain hsame | hnone | ⟨hnone, m, hlive, htracks⟩ := h.tracks
  · exact .inl hsame
  · exact .inr (.inl hnone)
  · exact .inr (.inr ⟨m, hlive, htracks, .inl hnone⟩)

/-- An action that has to withdraw an offer first follows as well. -/
theorem follows_of_withdraws (h : e.negotiation.Informed) {ticket : Nat} {m : Message}
    (hw : e.negotiation.Withdraws m)
    (hc : Carries e.negotiation.withdraw.1
      (e.act (.submit ticket (.receive m))).1.negotiation) :
    Follows e (.submit ticket (.receive m)) := by
  have hgone : e.negotiation.withdraw.2 = true := by
    obtain ⟨-, -, -, -, -, -, -, hgone⟩ := hw
    exact hgone
  refine ⟨hc.informed, .inr ?_⟩
  obtain ⟨hkept, -⟩ | ⟨-, -, hnone, hlive⟩ := h.withdraw
  · rw [hgone] at hkept
    cases hkept
  · -- the connection was renewed: what it carries now was attached for the answer
    obtain hsame | hnone' | ⟨-, media, hlive', htracks⟩ := hc.tracks
    · exact .inl (hsame.trans hnone)
    · exact .inl hnone'
    · exact .inr ⟨media, hlive.symm.trans hlive', htracks, .inr ⟨ticket, m, rfl, hw⟩⟩

/-- **One action.** -/
theorem follows_act (h : e.negotiation.Informed) {a : Action}
    (hopen : (e.act a).1.isClosed = false) : Follows e a := by
  cases a with
  | submit ticket op =>
      obtain ⟨hop, ⟨-, hsame, -⟩ | ⟨hsame, -⟩⟩ := submit_cases_of_open hopen
      · obtain hcarries | ⟨m, rfl, hw, hcarries⟩ := h.run hop
        · apply follows_of_carries
          rw [show (e.act (.submit ticket op)).1.negotiation = _ from hsame]
          exact hcarries
        · apply follows_of_withdraws h hw
          rw [show (e.act (.submit ticket (.receive m))).1.negotiation = _ from hsame]
          exact hcarries
      · apply follows_of_carries
        rw [show (e.act (.submit ticket op)).1.negotiation = _ from hsame]
        exact h.carries
  | pump ticket =>
      apply follows_of_carries
      show Carries _ (e.pump ticket).1.negotiation
      obtain hleft | hleft := e.negotiation_pump ticket <;> rw [hleft]
      · exact h.carries.congr (outgoing_handleAll _ _)
      · exact h.carries.congr rfl
  | setMedia m => exact ⟨h, .inl rfl⟩
  | failNext op =>
      apply follows_of_carries
      apply h.carries.congr
      simp only [act, modify, Negotiation.failNext, Connection.failNext]
      rfl
  | stallOffers on => exact ⟨h, .inl rfl⟩
  | emit event => exact ⟨h, .inl rfl⟩
  | takeEvents => exact ⟨h, .inl rfl⟩

/-! ## Runs -/

/-- The action `a`, which comes after `before`, has attached the media `m`, and the tracks have not
changed in the course of `later`. -/
def Sends (start : Endpoint) (before : List Action) (a : Action) (later : List Action)
    (m : MediaSet) : Prop :=
  (start.after before).Attaches a m ∧
    ∀ soon, soon <+: later → (start.after (before ++ a :: soon)).tracks = m.tracks

/-- The tracks that an action attaches are those of the set that is live then. -/
theorem Sends.nil {start : Endpoint} {before : List Action} {a : Action} {m : MediaSet}
    (h : (start.after before).Attaches a m) : Sends start before a [] m := by
  refine ⟨h, fun soon hsoon => ?_⟩
  obtain rfl := List.prefix_nil.mp hsoon
  rw [after_append]
  exact h.2.1

/-- They stay as long as nothing changes them. -/
theorem Sends.snoc {start : Endpoint} {before later : List Action} {a b : Action} {m : MediaSet}
    (h : Sends start before a later m)
    (hsame : (start.after (before ++ a :: later ++ [b])).tracks =
      (start.after (before ++ a :: later)).tracks) :
    Sends start before a (later ++ [b]) m := by
  refine ⟨h.1, fun soon hsoon => ?_⟩
  obtain rfl | hsoon := List.prefix_concat_iff.mp hsoon
  · rw [← h.2 later (List.prefix_refl _), ← hsame]
    simp
  · exact h.2 soon hsoon

/-! ### The set that was attached -/

/-- **The tracks of one media set.** At any point of any run, as long as the session is not closed:
no tracks are sent, or exactly those of one media set, in their order. The set was live when it was
attached, by an action that found nothing to be sent or withdrew what was, and since then the tracks
have not changed. And the session says that tracks are sent if, and only if, there are any. -/
theorem tracks_of_one_set (localId : ClientId) (label : String) (as : List Action)
    (hopen : ((fresh localId label).after as).isClosed = false) :
    let e := (fresh localId label).after as
    (e.tracks = [] ∨
      ∃ before a later m, as = before ++ a :: later ∧
        Sends (fresh localId label) before a later m ∧ e.tracks = m.tracks) ∧
    (e.negotiation.session.localStreamAttached = true ↔ e.tracks ≠ []) := by
  have hrun : ((fresh localId label).after as).negotiation.Informed ∧
      (((fresh localId label).after as).tracks = [] ∨
        ∃ before a later m, as = before ++ a :: later ∧
          Sends (fresh localId label) before a later m) := by
    induction as using List.reverseRecOn with
    | nil => exact ⟨rfl, .inl rfl⟩
    | append_singleton as a ih =>
        rw [after_append] at hopen
        have hbefore := @isOpen_of_after _ [a] hopen
        obtain ⟨hinformed, hsends⟩ := ih hbefore
        obtain ⟨hinformed', htracks⟩ := follows_act hinformed hopen
        have hact : (fresh localId label).after (as ++ [a]) =
            (((fresh localId label).after as).act a).1 := after_append _ as [a]
        rw [hact]
        refine ⟨hinformed', ?_⟩
        obtain hsame | hnone | ⟨m, hattaches⟩ := htracks
        · -- the tracks are still those that the earlier action has attached
          obtain hnone | ⟨before, b, later, m, rfl, hsends⟩ := hsends
          · exact .inl (hsame.trans hnone)
          · rw [← hact] at hsame
            exact .inr ⟨before, b, later ++ [a], m, by simp, hsends.snoc hsame⟩
        · exact .inl hnone
        · exact .inr ⟨as, a, [], m, rfl, .nil hattaches⟩
  obtain ⟨hinformed, hsends⟩ := hrun
  refine ⟨?_, ?_⟩
  · obtain hnone | ⟨before, a, later, m, rfl, hsends⟩ := hsends
    · exact .inl hnone
    · exact .inr ⟨before, a, later, m, rfl, hsends, hsends.2 later (List.prefix_refl _)⟩
  · rw [hinformed]
    simp [tracks]

/-- The media are replaced while our offer waits, and the peer makes an offer of its own. Then they
are replaced again. -/
def replacedMedia : List Action :=
  [.setMedia (some ⟨[⟨"audio/opus", "t1", "s1"⟩]⟩), .submit 0 (.call ⟨"b"⟩),
    .setMedia (some ⟨[⟨"audio/opus", "t2", "s2"⟩]⟩),
    .submit 1 (.receive (.signal ⟨.offer, ⟨"b"⟩, ⟨"a"⟩, (⟨.offer, "v=0"⟩ : Description).payload⟩)),
    .setMedia (some ⟨[⟨"audio/opus", "t3", "s3"⟩]⟩)]

/-- The answer has sent the media of its time. They were attached by some action, they were live
then, and the session knows that they are sent. -/
theorem tracks_of_one_set_replacedMedia :
    let e := (fresh ⟨"a"⟩ "A").after replacedMedia
    e.tracks = [⟨"audio/opus", "t2", "s2"⟩] ∧ e.negotiation.session.localStreamAttached = true ∧
      ∃ before a later m, replacedMedia = before ++ a :: later ∧
        ((fresh ⟨"a"⟩ "A").after before).negotiation.liveMedia? = some m ∧ m.tracks = e.tracks := by
  intro e
  have htracks : e.tracks = [⟨"audio/opus", "t2", "s2"⟩] := by cbv
  obtain ⟨hset, hknown⟩ := tracks_of_one_set ⟨"a"⟩ "A" replacedMedia (by cbv)
  have hsome : e.tracks ≠ [] := by
    rw [htracks]
    exact List.cons_ne_nil _ _
  obtain ⟨before, a, later, m, hrun, ⟨⟨hlive, -⟩, -⟩, hm⟩ := hset.resolve_left hsome
  exact ⟨htracks, hknown.mpr hsome, before, a, later, m, hrun, hlive, hm.symm⟩

end Endpoint

end Switchboard
