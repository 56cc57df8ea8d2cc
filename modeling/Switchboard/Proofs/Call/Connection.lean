import Switchboard.Call.Session

/-!
# What the operations of a connection do

For each operation one lemma says all that can come of it: a refusal, which uses up armed failures
at most (`Spends`), or its effect, together with what must have been the case before. A second
lemma says that the effect does come when the connection is `Ready` for the operation, and a third
one which failure a refusal can have used up: the one that was armed for the operation (`disarm`).
Nothing else needs to look into an operation.
-/

namespace Switchboard

namespace Connection

variable {c c' : Connection}

/-! ## Refusals -/

/-- `c'` is `c`, but for armed failures that are used up. -/
def Spends (c c' : Connection) : Prop := ∃ armed, armed ⊆ c.armed ∧ c' = { c with armed }

def Ready (c : Connection) (op : ConnectionOp) : Prop := c.signaling ≠ .closed ∧ op ∉ c.armed

theorem Spends.refl (c : Connection) : Spends c c := ⟨c.armed, fun _ h => h, rfl⟩

/-- Nothing can be used up where nothing is armed. -/
theorem Spends.eq_of_armed (h : Spends c c') (ha : c.armed = []) : c' = c := by
  obtain ⟨armed, hsub, rfl⟩ := h
  rw [ha] at hsub
  rw [List.subset_nil.mp hsub, ← ha]

/-- Every operation is refused as a whole, or takes its course. -/
theorem attempt_cases {α : Type} (c : Connection) (op : ConnectionOp) (act : Attempt α) :
    (∃ c' e, Spends c c' ∧ c.attempt op act = (c', .error e)) ∨
      (c.Ready op ∧ c.attempt op act = act) := by
  unfold attempt
  split
  · exact .inl ⟨c, _, .refl c, rfl⟩
  · next hopen =>
      split
      · exact .inl ⟨_, _, ⟨_, List.filter_sublist.subset, rfl⟩, rfl⟩
      · next harmed => exact .inr ⟨⟨hopen, harmed⟩, rfl⟩

/-- Nothing stands between a ready connection and what it does. -/
theorem attempt_of_ready {α : Type} {op : ConnectionOp} (h : c.Ready op) (act : Attempt α) :
    c.attempt op act = act := by
  rw [attempt, if_neg h.1, if_neg h.2]

/-- An armed failure strikes, unless the connection is closed already; it is refused either way. -/
theorem attempt_of_armed {α : Type} {op : ConnectionOp} (h : op ∈ c.armed) (act : Attempt α) :
    ∃ c' e, Spends c c' ∧ c.attempt op act = (c', .error e) :=
  (c.attempt_cases op act).resolve_right fun hready => hready.1.2 h

/-- On an open connection an operation takes its course unless it is armed. -/
theorem attempt_cases_of_open {α : Type} (hopen : c.signaling ≠ .closed) (op : ConnectionOp)
    (act : Attempt α) :
    (op ∈ c.armed ∧ ∃ c' e, Spends c c' ∧ c.attempt op act = (c', .error e)) ∨
      c.attempt op act = act := by
  by_cases harmed : op ∈ c.armed
  · exact .inl ⟨harmed, attempt_of_armed harmed act⟩
  · exact .inr (attempt_of_ready ⟨hopen, harmed⟩ act)

/-- The failure that was armed for `op` is used up. -/
def disarm (c : Connection) (op : ConnectionOp) : Connection :=
  { c with armed := c.armed.filter (· ≠ op) }

/-- A refusal comes of closing, of the armed failure, or of the operation itself. -/
theorem of_attempt_eq_error {α : Type} {op : ConnectionOp} {act : Attempt α} {e : ConnectionError}
    (h : c.attempt op act = (c', .error e)) :
    c' = c ∨ op ∈ c.armed ∧ c' = c.disarm op ∨ act = (c', .error e) := by
  unfold attempt at h
  split at h
  · cases h
    exact .inl rfl
  · split at h
    · next harmed =>
        cases h
        exact .inr (.inl ⟨harmed, rfl⟩)
    · exact .inr (.inr h)

/-- An operation that was refused was made to fail, or has left everything as it was, provided that
it does not change anything before it refuses. -/
theorem eq_or_disarm_of_attempt {α : Type} {op : ConnectionOp} {act : Attempt α}
    {e : ConnectionError} (hact : ∀ c' e, act = (c', .error e) → c' = c)
    (h : c.attempt op act = (c', .error e)) : c' = c ∨ op ∈ c.armed ∧ c' = c.disarm op := by
  obtain hsame | hspent | hown := of_attempt_eq_error h
  · exact .inl hsame
  · exact .inr hspent
  · exact .inl (hact c' e hown)

/-! ## Going to another signaling state -/

/-- The move itself does not depend on what is reported of it. -/
theorem moveTo_eq (c : Connection) (next : SignalingState) :
    c.moveTo next = { c with
      signaling := next
      events := if c.signaling = next then c.events else c.events ++ [.signalingChanged next] } := by
  unfold moveTo emit
  split
  · next h => subst h; rfl
  · rfl

/-! ## Making descriptions -/

def nextOffer (c : Connection) : Description :=
  ⟨.offer, "v=0 " ++ c.label ++ "-offer-" ++ toString (c.offersCreated + 1)⟩

def nextAnswer (c : Connection) : Description :=
  ⟨.answer, "v=0 " ++ c.label ++ "-answer-" ++ toString (c.answersCreated + 1)⟩

@[simp] theorem kind_nextOffer (c : Connection) : c.nextOffer.kind = .offer := rfl

@[simp] theorem kind_nextAnswer (c : Connection) : c.nextAnswer.kind = .answer := rfl

/-! ### Offers -/

/-- An offer is refused, never finished, or the next one in line. -/
theorem createOffer_cases (c : Connection) :
    (∃ c' e, Spends c c' ∧ c.createOffer = (c', some (.error e))) ∨
      (c.stallsOffers = true ∧ c.createOffer = (c, none)) ∨
      (c.stallsOffers = false ∧ c.createOffer =
        ({ c with offersCreated := c.offersCreated + 1 }, some (.ok c.nextOffer))) := by
  obtain ⟨c', e, hs, h⟩ | ⟨-, h⟩ := c.attempt_cases .createOffer (c, .ok ())
  · exact .inl ⟨c', e, hs, by rw [createOffer, h]⟩
  · right
    rw [createOffer, h]
    cases hstall : c.stallsOffers with
    | true => exact .inl ⟨rfl, by simp [hstall]⟩
    | false => exact .inr ⟨rfl, by simp [hstall, nextOffer]⟩

theorem of_createOffer_eq_error {e : ConnectionError}
    (h : c.createOffer = (c', some (.error e))) :
    c' = c ∨ .createOffer ∈ c.armed ∧ c' = c.disarm .createOffer := by
  rcases hr : c.attempt .createOffer (c, .ok ()) with ⟨m, e' | ⟨⟩⟩ <;> rw [createOffer, hr] at h
  · cases h
    exact eq_or_disarm_of_attempt (fun _ _ hact => by cases hact) hr
  · simp only at h
    split at h <;> cases h

/-- A ready connection whose offers do not stall finishes the next one. -/
theorem createOffer_of_ready (h : c.Ready .createOffer) (hs : c.stallsOffers = false) :
    c.createOffer =
      ({ c with offersCreated := c.offersCreated + 1 }, some (.ok c.nextOffer)) := by
  rw [createOffer, attempt_of_ready h]
  simp [hs, nextOffer]

/-! ### Answers -/

/-- Only a pending offer of the other side is answered. -/
theorem createAnswer_cases (c : Connection) :
    (∃ c' e, Spends c c' ∧ c.createAnswer = (c', .error e)) ∨
      (c.signaling = .haveRemoteOffer ∧ c.createAnswer =
        ({ c with answersCreated := c.answersCreated + 1 }, .ok c.nextAnswer)) := by
  obtain h | ⟨-, h⟩ := c.attempt_cases .createAnswer _
  · exact .inl h
  · rw [createAnswer, h]
    split
    · next hstate => exact .inr ⟨hstate, rfl⟩
    · exact .inl ⟨c, _, .refl c, rfl⟩

theorem of_createAnswer_eq_error {e : ConnectionError} (h : c.createAnswer = (c', .error e)) :
    c' = c ∨ .createAnswer ∈ c.armed ∧ c' = c.disarm .createAnswer := by
  refine eq_or_disarm_of_attempt (fun m e hact => ?_) h
  split at hact <;> cases hact
  rfl

/-- A ready connection answers the pending offer of the other side. -/
theorem createAnswer_of_ready (h : c.Ready .createAnswer) (hs : c.signaling = .haveRemoteOffer) :
    c.createAnswer = ({ c with answersCreated := c.answersCreated + 1 }, .ok c.nextAnswer) := by
  rw [createAnswer, attempt_of_ready h, if_pos hs]
  rfl

theorem createAnswer_of_armed (h : .createAnswer ∈ c.armed) :
    ∃ c' e, Spends c c' ∧ c.createAnswer = (c', .error e) :=
  attempt_of_armed h _

/-- While an offer of the other side is pending, only what is armed stands against an answer. -/
theorem createAnswer_cases_of_pending (hs : c.signaling = .haveRemoteOffer) :
    (.createAnswer ∈ c.armed ∧ ∃ c' e, Spends c c' ∧ c.createAnswer = (c', .error e)) ∨
      c.createAnswer = ({ c with answersCreated := c.answersCreated + 1 }, .ok c.nextAnswer) := by
  obtain h | h := attempt_cases_of_open (c := c) (by simp [hs]) .createAnswer _
  · exact .inl h
  · rw [createAnswer, h, if_pos hs]
    exact .inr rfl

/-! ## Applying descriptions -/

/-! ### Own descriptions -/

/-- An own offer is applied while no offer of the other side is pending, an own answer only while
one is. The answer completes the exchange. -/
theorem setLocalDescription_cases (c : Connection) (d : Description) :
    (∃ c' e, Spends c c' ∧ c.setLocalDescription d = (c', .error e)) ∨
      (d.kind = .offer ∧ (c.signaling = .stable ∨ c.signaling = .haveLocalOffer) ∧
        c.setLocalDescription d =
          ({ c with localDescription := some d }.moveTo .haveLocalOffer, .ok ())) ∨
      (d.kind = .answer ∧ c.signaling = .haveRemoteOffer ∧
        c.setLocalDescription d =
          ({ c with localDescription := some d, established := true }.moveTo .stable, .ok ())) := by
  obtain h | ⟨-, h⟩ := c.attempt_cases .setLocalDescription _
  · exact .inl h
  · rw [setLocalDescription, h]
    split
    · next hk hs => exact .inr (.inl ⟨hk, .inl hs, rfl⟩)
    · next hk hs => exact .inr (.inl ⟨hk, .inr hs, rfl⟩)
    · next hk hs => exact .inr (.inr ⟨hk, hs, rfl⟩)
    · exact .inl ⟨c, _, .refl c, rfl⟩

/-- A refused description leaves no trace but the failure that struck. -/
theorem of_setLocalDescription_eq_error {d : Description} {e : ConnectionError}
    (h : c.setLocalDescription d = (c', .error e)) :
    c' = c ∨ .setLocalDescription ∈ c.armed ∧ c' = c.disarm .setLocalDescription := by
  refine eq_or_disarm_of_attempt (fun m e hact => ?_) h
  split at hact <;> cases hact
  rfl

/-- A ready connection applies an own offer, also in the place of the one before. -/
theorem setLocalDescription_offer (h : c.Ready .setLocalDescription) {d : Description}
    (hd : d.kind = .offer) (hs : c.signaling = .stable ∨ c.signaling = .haveLocalOffer) :
    c.setLocalDescription d =
      ({ c with localDescription := some d }.moveTo .haveLocalOffer, .ok ()) := by
  rw [setLocalDescription, attempt_of_ready h]
  rcases hs with hs | hs <;> simp only [hd, hs]

/-- A ready connection applies an own answer to the pending offer. -/
theorem setLocalDescription_answer (h : c.Ready .setLocalDescription) {d : Description}
    (hd : d.kind = .answer) (hs : c.signaling = .haveRemoteOffer) :
    c.setLocalDescription d =
      ({ c with localDescription := some d, established := true }.moveTo .stable, .ok ()) := by
  rw [setLocalDescription, attempt_of_ready h]
  simp only [hd, hs]

theorem setLocalDescription_of_armed (h : .setLocalDescription ∈ c.armed) (d : Description) :
    ∃ c' e, Spends c c' ∧ c.setLocalDescription d = (c', .error e) :=
  attempt_of_armed h _

/-- Where an answer fits the signaling state, only an armed failure can refuse it. -/
theorem setLocalDescription_answer_cases {d : Description} (hd : d.kind = .answer)
    (hs : c.signaling = .haveRemoteOffer) :
    (.setLocalDescription ∈ c.armed ∧
        ∃ c' e, Spends c c' ∧ c.setLocalDescription d = (c', .error e)) ∨
      c.setLocalDescription d =
        ({ c with localDescription := some d, established := true }.moveTo .stable, .ok ()) := by
  obtain h | h := attempt_cases_of_open (c := c) (by simp [hs]) .setLocalDescription _
  · exact .inl h
  · rw [setLocalDescription, h]
    right
    simp only [hd, hs]

/-! ### Descriptions of the other side -/

/-- An offer of the other side is applied in a stable connection, and an answer to a pending own
offer. The answer completes the exchange. -/
theorem setRemoteDescription_cases (c : Connection) (d : Description) :
    (∃ c' e, Spends c c' ∧ c.setRemoteDescription d = (c', .error e)) ∨
      (d.kind = .offer ∧ c.signaling = .stable ∧
        c.setRemoteDescription d =
          ({ c with remoteDescription := some d }.moveTo .haveRemoteOffer, .ok ())) ∨
      (d.kind = .answer ∧ c.signaling = .haveLocalOffer ∧
        c.setRemoteDescription d =
          ({ c with remoteDescription := some d, established := true }.moveTo .stable, .ok ())) := by
  obtain h | ⟨-, h⟩ := c.attempt_cases .setRemoteDescription _
  · exact .inl h
  · rw [setRemoteDescription, h]
    split
    · next hk hs => exact .inr (.inl ⟨hk, hs, rfl⟩)
    · next hk hs => exact .inr (.inr ⟨hk, hs, rfl⟩)
    · exact .inl ⟨c, _, .refl c, rfl⟩

theorem of_setRemoteDescription_eq_error {d : Description} {e : ConnectionError}
    (h : c.setRemoteDescription d = (c', .error e)) :
    c' = c ∨ .setRemoteDescription ∈ c.armed ∧ c' = c.disarm .setRemoteDescription := by
  refine eq_or_disarm_of_attempt (fun m e hact => ?_) h
  split at hact <;> cases hact
  rfl

/-- A ready connection that is stable applies an offer of the other side. -/
theorem setRemoteDescription_offer (h : c.Ready .setRemoteDescription) {d : Description}
    (hd : d.kind = .offer) (hs : c.signaling = .stable) :
    c.setRemoteDescription d =
      ({ c with remoteDescription := some d }.moveTo .haveRemoteOffer, .ok ()) := by
  rw [setRemoteDescription, attempt_of_ready h]
  simp only [hd, hs]

/-- A ready connection applies the answer to its own offer. -/
theorem setRemoteDescription_answer (h : c.Ready .setRemoteDescription) {d : Description}
    (hd : d.kind = .answer) (hs : c.signaling = .haveLocalOffer) :
    c.setRemoteDescription d =
      ({ c with remoteDescription := some d, established := true }.moveTo .stable, .ok ()) := by
  rw [setRemoteDescription, attempt_of_ready h]
  simp only [hd, hs]

/-! ### Rolling back -/

/-- What is rolled back is a pending description of the first exchange, and with it goes all that
the exchange has brought. -/
theorem rollback_cases (c : Connection) :
    (∃ c' e, Spends c c' ∧ c.rollback = (c', .error e)) ∨
      (c.signaling.isStable = false ∧ c.established = false ∧
        c.rollback = ({ c with signaling := .stable, localDescription := none,
                               remoteDescription := none, candidates := [], tracks := [] },
          .ok ())) := by
  obtain h | ⟨-, h⟩ := c.attempt_cases .rollback _
  · exact .inl h
  · rw [rollback, h]
    split
    · exact .inl ⟨c, _, .refl c, rfl⟩
    · next hstable =>
        split
        · exact .inl ⟨c, _, .refl c, rfl⟩
        · next hnew => exact .inr ⟨by simpa using hstable, by simpa using hnew, rfl⟩

theorem of_rollback_eq_error {e : ConnectionError} (h : c.rollback = (c', .error e)) :
    c' = c ∨ .rollback ∈ c.armed ∧ c' = c.disarm .rollback := by
  refine eq_or_disarm_of_attempt (fun m e hact => ?_) h
  split at hact
  · cases hact
    rfl
  · split at hact <;> cases hact
    rfl

/-- A ready connection rolls its first exchange back. -/
theorem rollback_of_ready (h : c.Ready .rollback) (hs : c.signaling.isStable = false)
    (he : c.established = false) :
    c.rollback = ({ c with signaling := .stable, localDescription := none,
                           remoteDescription := none, candidates := [], tracks := [] }, .ok ()) := by
  rw [rollback, attempt_of_ready h]
  simp [hs, he]

/-- After a completed exchange nothing is rolled back. -/
theorem rollback_of_established (he : c.established = true) :
    ∃ c' e, Spends c c' ∧ c.rollback = (c', .error e) := by
  obtain h | ⟨-, hnew, -⟩ := c.rollback_cases
  · exact h
  · rw [he] at hnew; cases hnew

/-! ## Candidates -/

/-- A candidate is added only where a description of the other side is known. -/
theorem addCandidate_cases (c : Connection) (x : Candidate) :
    (∃ c' e, Spends c c' ∧ c.addCandidate x = (c', .error e)) ∨
      (c.remoteDescription.isSome ∧
        c.addCandidate x = ({ c with candidates := c.candidates ++ [x] }, .ok ())) := by
  obtain h | ⟨-, h⟩ := c.attempt_cases .addCandidate _
  · exact .inl h
  · rw [addCandidate, h]
    split
    · exact .inl ⟨c, _, .refl c, rfl⟩
    · next hd => exact .inr ⟨by rw [hd]; rfl, rfl⟩

theorem of_addCandidate_eq_error {x : Candidate} {e : ConnectionError}
    (h : c.addCandidate x = (c', .error e)) :
    c' = c ∨ .addCandidate ∈ c.armed ∧ c' = c.disarm .addCandidate := by
  refine eq_or_disarm_of_attempt (fun m e hact => ?_) h
  split at hact <;> cases hact
  rfl

/-- A ready connection adds any candidate. -/
theorem addCandidate_of_ready (h : c.Ready .addCandidate) (hd : c.remoteDescription.isSome)
    (x : Candidate) :
    c.addCandidate x = ({ c with candidates := c.candidates ++ [x] }, .ok ()) := by
  obtain ⟨d, hd⟩ := Option.isSome_iff_exists.mp hd
  rw [addCandidate, attempt_of_ready h, hd]

/-! ### Several candidates -/

/-- Of the candidates that are offered some may be refused; the others are applied in their order.
-/
theorem offerAll_frame (c : Connection) (cs : List Candidate) :
    ∃ taken armed, taken.Sublist cs ∧ armed ⊆ c.armed ∧
      (CandidateBuffer.offerAll c cs).1 =
        { c with candidates := c.candidates ++ taken, armed } := by
  induction cs generalizing c with
  | nil => exact ⟨[], c.armed, .refl _, fun _ h => h, by simp [CandidateBuffer.offerAll]⟩
  | cons x cs ih =>
      obtain ⟨c', e, ⟨armed', hsub', rfl⟩, h⟩ | ⟨-, h⟩ := c.addCandidate_cases x
      · obtain ⟨taken, armed, hle, hsub, heq⟩ := ih { c with armed := armed' }
        refine ⟨taken, armed, hle.cons x, fun _ hx => hsub' (hsub hx), ?_⟩
        rw [CandidateBuffer.offerAll_refused h, heq]
      · obtain ⟨taken, armed, hle, hsub, heq⟩ := ih { c with candidates := c.candidates ++ [x] }
        refine ⟨x :: taken, armed, hle.cons_cons x, hsub, ?_⟩
        rw [CandidateBuffer.offerAll_taken h, heq]
        simp

/-- A ready connection refuses none of the candidates. -/
theorem offerAll_of_ready (h : c.Ready .addCandidate) (hd : c.remoteDescription.isSome)
    (cs : List Candidate) :
    (CandidateBuffer.offerAll c cs).1 = { c with candidates := c.candidates ++ cs } := by
  induction cs generalizing c with
  | nil => simp [CandidateBuffer.offerAll]
  | cons x cs ih =>
      have hx := ih (c := { c with candidates := c.candidates ++ [x] }) h hd
      rw [CandidateBuffer.offerAll_taken (addCandidate_of_ready h hd x), hx]
      simp

/-! ## Tracks -/

theorem addTrack_cases (c : Connection) (t : Track) :
    (∃ c' e, Spends c c' ∧ c.addTrack t = (c', .error e)) ∨
      c.addTrack t = ({ c with tracks := c.tracks ++ [t] }, .ok ()) :=
  (c.attempt_cases .addTrack _).imp_right And.right

theorem of_addTrack_eq_error {t : Track} {e : ConnectionError}
    (h : c.addTrack t = (c', .error e)) :
    c' = c ∨ .addTrack ∈ c.armed ∧ c' = c.disarm .addTrack :=
  eq_or_disarm_of_attempt (fun _ _ hact => by cases hact) h

/-! ### Several tracks -/

/-- Tracks are all that adding tracks adds, also if it stops halfway. -/
theorem addTracks_frame (c : Connection) (ts : List Track) :
    ∃ tracks armed, armed ⊆ c.armed ∧ (c.addTracks ts).1 = { c with tracks, armed } := by
  induction ts generalizing c with
  | nil => exact ⟨c.tracks, c.armed, fun _ h => h, rfl⟩
  | cons t ts ih =>
      obtain ⟨c', e, ⟨armed, hsub, rfl⟩, h⟩ | ⟨-, h⟩ := c.attempt_cases .addTrack
        ({ c with tracks := c.tracks ++ [t] }, .ok ())
      · refine ⟨c.tracks, armed, hsub, ?_⟩
        simp only [addTracks, addTrack, h]
      · obtain ⟨tracks, armed, hsub, heq⟩ := ih { c with tracks := c.tracks ++ [t] }
        refine ⟨tracks, armed, hsub, ?_⟩
        simp only [addTracks, addTrack, h, heq]

/-- A ready connection sends all the tracks, after those that it sends already. -/
theorem addTracks_of_ready (h : c.Ready .addTrack) (ts : List Track) :
    c.addTracks ts = ({ c with tracks := c.tracks ++ ts }, .ok ()) := by
  induction ts generalizing c with
  | nil => simp [addTracks]
  | cons t ts ih =>
      have hx := ih (c := { c with tracks := c.tracks ++ [t] }) h
      simp only [addTracks, addTrack, attempt_of_ready h, hx]
      simp

/-- Attaching changes no more than adding tracks does. -/
theorem attach_frame (c : Connection) (m : MediaSet) :
    ∃ tracks armed, armed ⊆ c.armed ∧ (c.attach m).1 = { c with tracks, armed } := by
  unfold attach
  split
  · have h := c.addTracks_frame m.tracks
    rcases hr : c.addTracks m.tracks with ⟨c', r⟩
    rw [hr] at h
    cases r <;> exact h
  · exact ⟨c.tracks, c.armed, fun _ h => h, rfl⟩

/-- A ready connection sends the tracks of the media set, unless it sends some already. -/
theorem attach_of_ready (h : c.Ready .addTrack) (m : MediaSet) :
    ∃ n, c.attach m =
      ({ c with tracks := if c.tracks.isEmpty then m.tracks else c.tracks }, .ok n) := by
  unfold attach
  split
  · next hempty =>
      have hnone : c.tracks = [] := by simpa using hempty
      refine ⟨m.size, ?_⟩
      rw [addTracks_of_ready h, hnone]
      rfl
  · exact ⟨0, rfl⟩

end Connection

end Switchboard
