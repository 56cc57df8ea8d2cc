import Switchboard.Proofs.Call.Dialogue

/-!
# Two sides agree

In an orderly run of two sides there are four situations, the `Phase`s of their dialogue: nothing is
under way, one offer is under way, two first offers have crossed, or an answer is under way. Every
step goes from one of them to another. Candidates go back and forth beside all this and disturb
nothing: whatever one side has told is heard by the other or still on its way.

The main statement is `agreement_of_drained`: when nothing is on its way any more and an offer was
ever made, the two sides agree on everything.
-/

namespace Switchboard

namespace Dialogue

variable {id : Side → ClientId} {d d' : Dialogue} {s : Side}

/-! ## Offers and answers on their way -/

/-- The offers and answers on their way to a side, oldest first. -/
def descriptions (d : Dialogue) (s : Side) : List Letter := (d.mail s).filter Letter.isDescription

/-! ### What a step does to it -/

@[simp] theorem standing_take (t : Side) : (d.take s).standing t = d.standing t := rfl

@[simp] theorem standing_send (l : Letter) (t : Side) :
    (d.send s l).standing t = d.standing t := rfl

@[simp] theorem standing_become_self (st : Standing) : (d.become s st).standing s = st := by
  simp [become]

@[simp] theorem standing_become_other (st : Standing) :
    (d.become s st).standing s.other = d.standing s.other := by
  simp [become]

@[simp] theorem descriptions_become (st : Standing) (t : Side) :
    (d.become s st).descriptions t = d.descriptions t := rfl

/-! ### Descriptions that are posted and taken -/

@[simp] theorem descriptions_send_self (l : Letter) :
    (d.send s l).descriptions s = d.descriptions s := by
  simp [send, descriptions]

@[simp] theorem descriptions_send_other (l : Letter) :
    (d.send s l).descriptions s.other =
      d.descriptions s.other ++ [l].filter Letter.isDescription := by
  simp [send, descriptions]

@[simp] theorem descriptions_take_other :
    (d.take s).descriptions s.other = d.descriptions s.other := by
  simp [take, descriptions]

/-- An offer or answer that arrives was the first of those on their way. -/
theorem descriptions_eq_cons {l : Letter} (hm : (d.mail s).head? = some l)
    (hl : l.isDescription = true) : d.descriptions s = l :: (d.take s).descriptions s := by
  obtain ⟨ls, hls⟩ := List.head?_eq_some_iff.mp hm
  simp [descriptions, take, hls, hl]

/-- A candidate that arrives was none of them. -/
theorem descriptions_take_candidate {c : Candidate} (hm : (d.mail s).head? = some (.candidate c))
    (t : Side) : (d.take s).descriptions t = d.descriptions t := by
  obtain ⟨ls, hls⟩ := List.head?_eq_some_iff.mp hm
  obtain rfl | rfl := s.eq_or_eq_other t
  · simp [descriptions, take, hls, Letter.isDescription]
  · exact descriptions_take_other

/-- Telling of a candidate puts no description on its way. -/
theorem descriptions_send_candidate (s : Side) (c : Candidate) (t : Side) :
    (d.send s (.candidate c)).descriptions t = d.descriptions t := by
  obtain rfl | rfl := s.eq_or_eq_other t
  · exact descriptions_send_self _
  · simp [Letter.isDescription]

/-! ## Phases -/

structure Quiet (d : Dialogue) : Prop where
  silent : ∀ s, d.descriptions s = []
  stable : ∀ s, (d.standing s).signaling = .stable
  agreed : ∀ s, (d.standing s).localDescription = (d.standing s.other).remoteDescription
  even : ∀ s, (d.standing s).established = (d.standing s.other).established
  /-- An exchange that was begun has completed. -/
  begun : ∀ s t sdp, .offer sdp ∈ d.sent s → (d.standing t).established = true

/-- An offer of `s` is on its way to the other side, which will answer it. -/
structure Offered (id : Side → ClientId) (d : Dialogue) (s : Side) (sdp : String) : Prop where
  offering : (d.standing s).signaling = .haveLocalOffer
  offer : (d.standing s).localDescription = some ⟨.offer, sdp⟩
  even : (d.standing s).established = (d.standing s.other).established
  silent : d.descriptions s = []
  pending : d.descriptions s.other = [.offer sdp]
  way : d.GivesWay id s.other

/-- First offers of both sides are on their way. -/
structure Crossed (d : Dialogue) : Prop where
  offering : ∀ s, (d.standing s).signaling = .haveLocalOffer
  fresh : ∀ s, (d.standing s).established = false
  pending : ∀ s, ∃ sdp, (d.standing s).localDescription = some ⟨.offer, sdp⟩ ∧
    d.descriptions s.other = [.offer sdp]

/-- The answer to an offer of `s` is on its way. An offer that the other side has withdrawn may
still be before it. -/
structure Answered (id : Side → ClientId) (d : Dialogue) (s : Side) (sdp sdp' : String) : Prop where
  offering : (d.standing s).signaling = .haveLocalOffer
  offer : (d.standing s).localDescription = some ⟨.offer, sdp⟩
  answered : d.standing s.other =
    { signaling := .stable, localDescription := some ⟨.answer, sdp'⟩
      remoteDescription := some ⟨.offer, sdp⟩, established := true }
  silent : d.descriptions s.other = []
  pending : d.descriptions s = [.answer sdp'] ∨
    (¬d.GivesWay id s ∧ ∃ lost, d.descriptions s = [.offer lost, .answer sdp'])

inductive Phase (id : Side → ClientId) (d : Dialogue) : Prop
  | quiet (h : d.Quiet)
  | offered (s : Side) (sdp : String) (h : d.Offered id s sdp)
  | crossed (h : d.Crossed)
  | answered (s : Side) (sdp sdp' : String) (h : d.Answered id s sdp sdp')

/-- Nobody has said anything at the beginning. -/
theorem phase_start (id : Side → ClientId) : Phase id start :=
  .quiet
    { silent := fun _ => rfl
      stable := fun _ => rfl
      agreed := fun _ => rfl
      even := fun _ => rfl
      begun := fun _ _ _ h => by cases h }

/-! ## Steps that disturb nothing -/

theorem givesWay_congr (h : d'.standing s = d.standing s) : d'.GivesWay id s ↔ d.GivesWay id s := by
  rw [GivesWay, GivesWay, h]

/-- Where the sides stand and what they offer and answer hangs on no candidate. -/
theorem Phase.congr (h : Phase id d) (hst : ∀ t, d'.standing t = d.standing t)
    (hds : ∀ t, d'.descriptions t = d.descriptions t)
    (hsent : ∀ t sdp, .offer sdp ∈ d'.sent t → .offer sdp ∈ d.sent t) : Phase id d' := by
  cases h with
  | quiet h =>
      refine .quiet ⟨?_, ?_, ?_, ?_, ?_⟩
      · simpa only [hds] using h.silent
      · simpa only [hst] using h.stable
      · simpa only [hst] using h.agreed
      · simpa only [hst] using h.even
      · intro t u sdp hmem
        rw [hst]
        exact h.begun t u sdp (hsent t sdp hmem)
  | offered s sdp h =>
      refine .offered s sdp ⟨?_, ?_, ?_, ?_, ?_, ?_⟩
      · rw [hst]; exact h.offering
      · rw [hst]; exact h.offer
      · rw [hst, hst]; exact h.even
      · rw [hds]; exact h.silent
      · rw [hds]; exact h.pending
      · exact (givesWay_congr (hst _)).mpr h.way
  | crossed h =>
      refine .crossed ⟨?_, ?_, ?_⟩
      · simpa only [hst] using h.offering
      · simpa only [hst] using h.fresh
      · simpa only [hst, hds] using h.pending
  | answered s sdp sdp' h =>
      refine .answered s sdp sdp' ⟨?_, ?_, ?_, ?_, ?_⟩
      · rw [hst]; exact h.offering
      · rw [hst]; exact h.offer
      · rw [hst]; exact h.answered
      · rw [hds]; exact h.silent
      · rw [hds, givesWay_congr (hst _)]; exact h.pending

/-- Hearing of a candidate leaves the phase as it is. -/
theorem Phase.hear (h : Phase id d) {c : Candidate}
    (hm : (d.mail s).head? = some (.candidate c)) : Phase id ((d.take s).hear s c) :=
  h.congr (fun _ => rfl) (fun t => descriptions_take_candidate hm t) (fun _ _ hmem => hmem)

/-- Telling of a candidate leaves the phase as it is. -/
theorem Phase.tell (h : Phase id d) (s : Side) (c : Candidate) :
    Phase id (d.send s (.candidate c)) := by
  refine h.congr (fun _ => rfl) (descriptions_send_candidate s c) ?_
  intro t sdp hmem
  by_cases ht : t = s
  · subst ht
    simpa [send] using hmem
  · simpa [send, ht] using hmem

/-! ## Calls -/

/-- A side that has completed an exchange finds nothing under way. -/
def Calm (d : Dialogue) (s : Side) : Prop :=
  (d.standing s).established = true →
    ∀ t, (d.standing t).signaling ≠ .haveLocalOffer ∧ d.descriptions t = []

/-- A call is the only offer under way, or the second of two first offers. -/
theorem Phase.offer (h : Phase id d) (hs : (d.standing s).signaling = .stable)
    (hcalm : d.Calm s) (sdp : String) :
    Phase id ((d.become s { d.standing s with
      signaling := .haveLocalOffer, localDescription := some ⟨.offer, sdp⟩ }).send s
        (.offer sdp)) := by
  cases h with
  | quiet h =>
      refine .offered s sdp ⟨by simp, by simp, ?_, ?_, ?_, .inl ?_⟩
      · simpa using h.even s
      · simpa using h.silent s
      · simp [h.silent, Letter.isDescription]
      · simpa using h.stable s.other
  | offered s₀ sdp₀ h =>
      obtain rfl | rfl := s.eq_or_eq_other s₀
      · rw [h.offering] at hs; cases hs
      · -- had this side completed an exchange, it would have waited
        have hfresh : (d.standing s).established = false := by
          cases he : (d.standing s).established with
          | false => rfl
          | true => exact absurd h.offering (hcalm he s.other).1
        have heven : (d.standing s.other).established = (d.standing s).established := by
          simpa using h.even
        have hpending : d.descriptions s = [.offer sdp₀] := by simpa using h.pending
        refine .crossed ⟨?_, ?_, ?_⟩ <;> intro t
        · obtain rfl | rfl := s.eq_or_eq_other t
          · simp
          · simpa using h.offering
        · obtain rfl | rfl := s.eq_or_eq_other t
          · simpa using hfresh
          · simpa using heven.trans hfresh
        · obtain rfl | rfl := s.eq_or_eq_other t
          · exact ⟨sdp, by simp, by simp [h.silent, Letter.isDescription]⟩
          · exact ⟨sdp₀, by simpa using h.offer, by simpa using hpending⟩
  | crossed h => rw [h.offering] at hs; cases hs
  | answered s₀ sdp₀ sdp' h =>
      obtain rfl | rfl := s.eq_or_eq_other s₀
      · rw [h.offering] at hs; cases hs
      · have hanswered : (d.standing s).established = true := by
          have := h.answered
          rw [Side.other_other] at this
          rw [this]
        exact absurd h.offering (hcalm hanswered s.other).1

/-! ## Arrivals -/

/-! ### An offer arrives -/

/-- An offer that arrives is the one under way, one of two that have crossed, or one of ours that
the other side did not answer and that was lost. -/
theorem Phase.of_offer (h : Phase id d) {sdp : String}
    (hm : (d.mail s).head? = some (.offer sdp)) :
    (d.Offered id s.other sdp ∧ (d.take s).descriptions s = []) ∨
      (d.Crossed ∧ (d.standing s.other).localDescription = some ⟨.offer, sdp⟩ ∧
        (d.take s).descriptions s = []) ∨
      ∃ sdp₀ sdp', d.Answered id s sdp₀ sdp' ∧ ¬d.GivesWay id s ∧
        (d.take s).descriptions s = [.answer sdp'] := by
  have hcons := descriptions_eq_cons hm rfl
  cases h with
  -- nothing is on its way, so there is no such letter
  | quiet h => rw [h.silent] at hcons; cases hcons
  | offered s₀ sdp₀ h =>
      -- to the one who offered nothing is on its way, to the other that offer is
      obtain rfl | rfl := s.eq_or_eq_other s₀
      · rw [h.silent] at hcons; cases hcons
      · have hpending : d.descriptions s = [.offer sdp₀] := by simpa using h.pending
        rw [hpending] at hcons
        injection hcons with hhead htail
        cases hhead
        exact .inl ⟨h, htail.symm⟩
  | crossed h =>
      obtain ⟨sdp₀, hoffer, hpending⟩ := h.pending s.other
      rw [Side.other_other] at hpending
      rw [hpending] at hcons
      injection hcons with hhead htail
      cases hhead
      exact .inr (.inl ⟨h, hoffer, htail.symm⟩)
  | answered s₀ sdp₀ sdp' h =>
      obtain rfl | rfl := s.eq_or_eq_other s₀
      · -- only after crossed offers does one still come before the answer
        rcases h.pending with hp | ⟨hfirm, lost, hp⟩
        · rw [hp] at hcons; cases hcons
        · rw [hp] at hcons
          injection hcons with _ htail
          exact .inr (.inr ⟨sdp₀, sdp', h, hfirm, htail.symm⟩)
      · have hsilent : d.descriptions s = [] := by simpa using h.silent
        rw [hsilent] at hcons; cases hcons

/-- An answer that arrives is the one to our offer, and nothing comes after it. -/
theorem Phase.of_answer (h : Phase id d) {sdp' : String}
    (hm : (d.mail s).head? = some (.answer sdp')) :
    ∃ sdp, d.Answered id s sdp sdp' ∧ (d.take s).descriptions s = [] := by
  have hcons := descriptions_eq_cons hm rfl
  cases h with
  | quiet h => rw [h.silent] at hcons; cases hcons
  | offered s₀ sdp₀ h =>
      obtain rfl | rfl := s.eq_or_eq_other s₀
      · rw [h.silent] at hcons; cases hcons
      · have hpending : d.descriptions s = [.offer sdp₀] := by simpa using h.pending
        rw [hpending] at hcons; cases hcons
  | crossed h =>
      -- both letters are offers
      obtain ⟨sdp₀, -, hpending⟩ := h.pending s.other
      rw [Side.other_other] at hpending
      rw [hpending] at hcons; cases hcons
  | answered s₀ sdp₀ sdp₁ h =>
      obtain rfl | rfl := s.eq_or_eq_other s₀
      · -- if an offer of the crossing comes first, the letter is no answer
        rcases h.pending with hp | ⟨-, lost, hp⟩
        · rw [hp] at hcons
          injection hcons with hhead htail
          cases hhead
          exact ⟨sdp₀, h, htail.symm⟩
        · rw [hp] at hcons; cases hcons
      · have hsilent : d.descriptions s = [] := by simpa using h.silent
        rw [hsilent] at hcons; cases hcons

/-! ### It is answered, or stands -/

/-- An offer that is answered leaves its answer under way. An offer of our own that is withdrawn for
it may still be on its way before. -/
theorem Phase.answer (h : Phase id d) {sdp : String}
    (hm : (d.mail s).head? = some (.offer sdp)) (hway : d.GivesWay id s) (sdp' : String) :
    Phase id (((d.take s).become s
      { signaling := .stable, localDescription := some ⟨.answer, sdp'⟩
        remoteDescription := some ⟨.offer, sdp⟩, established := true }).send s (.answer sdp')) := by
  obtain ⟨h, htail⟩ | ⟨h, hoffer, htail⟩ | ⟨-, -, -, hfirm, -⟩ := h.of_offer hm
  · -- the offers did not cross: only the answer is on its way
    refine .answered s.other sdp sdp' ⟨?_, ?_, ?_, ?_, .inl ?_⟩
    · simpa using h.offering
    · simpa using h.offer
    · simp
    · simpa using htail
    · simp [h.silent, Letter.isDescription]
  · -- they crossed: the offer that is given up arrives before the answer
    obtain ⟨lost, -, hlost⟩ := h.pending s
    have hlow : id s < id s.other :=
      (hway.resolve_left fun hs => by rw [h.offering] at hs; cases hs).2
    refine .answered s.other sdp sdp' ⟨?_, ?_, ?_, ?_, .inr ⟨?_, lost, ?_⟩⟩
    · simpa using h.offering s.other
    · simpa using hoffer
    · simp
    · simpa using htail
    · simp [GivesWay, h.offering, ClientId.lt_asymm hlow]
    · simp [hlost, Letter.isDescription]
  · exact absurd hway hfirm

/-- An offer that is not answered is the lost one of two that have crossed. -/
theorem Phase.stand (h : Phase id d) (hid : id s ≠ id s.other) {sdp : String}
    (hm : (d.mail s).head? = some (.offer sdp)) (hway : ¬d.GivesWay id s) :
    Phase id (d.take s) := by
  obtain ⟨h, -⟩ | ⟨h, -, htail⟩ | ⟨sdp₀, sdp', h, -, htail⟩ := h.of_offer hm
  · exact absurd (by simpa using h.way) hway
  · obtain ⟨sdp₀, hoffer, hpending⟩ := h.pending s
    have hhigh : id s.other < id s :=
      ClientId.lt_of_not_lt hid fun hlow => hway (.inr ⟨h.fresh s, hlow⟩)
    refine .offered s sdp₀ ⟨h.offering s, hoffer, ?_, htail, ?_, .inr ⟨h.fresh s.other, ?_⟩⟩
    · simp [h.fresh]
    · simpa using hpending
    · simpa using hhigh
  · exact .answered s sdp₀ sdp'
      ⟨h.offering, h.offer, h.answered, by simpa using h.silent, .inl htail⟩

/-! ### An answer arrives -/

/-- The answer that arrives ends the exchange on the side that has offered. -/
theorem Phase.complete (h : Phase id d) {sdp : String}
    (hm : (d.mail s).head? = some (.answer sdp)) :
    Phase id ((d.take s).become s { d.standing s with
      signaling := .stable, remoteDescription := some ⟨.answer, sdp⟩, established := true }) := by
  obtain ⟨sdp₀, h, htail⟩ := h.of_answer hm
  -- each part of rest on the side of the answer, and then on the other
  refine .quiet ⟨fun t => ?_, fun t => ?_, fun t => ?_, fun t => ?_, fun _ t _ _ => ?_⟩ <;>
    obtain rfl | rfl := s.eq_or_eq_other t
  · exact htail
  · simpa using h.silent
  · simp
  · simp [h.answered]
  · simp [h.answered, h.offer]
  · simp [h.answered, h.offer]
  · simp [h.answered]
  · simp [h.answered]
  · simp
  · simp [h.answered]

/-! ## Every step -/

/-- **Every orderly step goes from phase to phase.** -/
theorem Phase.step (h : Phase id d) (hid : ∀ s, id s ≠ id s.other) {t : Turn}
    (hcalm : ∀ s, t = .call s → d.Calm s) (hstep : Step id d t d') : Phase id d' := by
  cases hstep with
  | refuse s => exact h
  | offer s sdp hs => exact h.offer hs (hcalm s rfl) sdp
  | idle s hm => exact h
  | answer s hm hway sdp' => exact h.answer hm hway sdp'
  | stand s hm hway => exact h.stand (hid s) hm hway
  | complete s hm hs => exact h.complete hm
  | stale s hm hs =>
      obtain ⟨sdp, h, -⟩ := h.of_answer hm
      rw [h.offering] at hs; cases hs
  | hear s hm => exact h.hear hm
  | keep s e => exact h
  | tell s e c => exact h.tell s c

/-! ## Candidates -/

def candidates (ls : List Letter) : List Candidate := ls.filterMap Letter.candidate?

@[simp] theorem candidates_append (ls ls' : List Letter) :
    candidates (ls ++ ls') = candidates ls ++ candidates ls' := List.filterMap_append

/-- Whatever one side has told of is heard by the other or still on its way, in order. -/
def Kept (d : Dialogue) : Prop :=
  ∀ s, d.heard s ++ candidates (d.mail s) = candidates (d.sent s.other)

/-- What is posted is still to be heard. -/
theorem Kept.send (h : d.Kept) (s : Side) (l : Letter) : (d.send s l).Kept := by
  intro t
  obtain rfl | rfl := s.eq_or_eq_other t
  · simpa [Dialogue.send] using h _
  · have ht := h s.other
    rw [Side.other_other] at ht
    simp [Dialogue.send, ← ht]

/-- An offer or an answer that is taken off the mail was no candidate to be heard. -/
theorem Kept.take (h : d.Kept) {l : Letter} (hm : (d.mail s).head? = some l)
    (hl : l.candidate? = none) : (d.take s).Kept := by
  intro t
  obtain ⟨ls, hls⟩ := List.head?_eq_some_iff.mp hm
  by_cases ht : t = s
  · subst ht
    have hs := h t
    rw [hls] at hs
    simpa [Dialogue.take, hls, candidates, hl] using hs
  · simpa [Dialogue.take, ht] using h t

/-- The candidate that is taken off the mail is heard. -/
theorem Kept.hear (h : d.Kept) {c : Candidate} (hm : (d.mail s).head? = some (.candidate c)) :
    ((d.take s).hear s c).Kept := by
  intro t
  obtain ⟨ls, hls⟩ := List.head?_eq_some_iff.mp hm
  by_cases ht : t = s
  · subst ht
    have hs := h t
    rw [hls] at hs
    simpa [Dialogue.take, Dialogue.hear, hls, candidates, Letter.candidate?] using hs
  · simpa [Dialogue.take, Dialogue.hear, ht] using h t

/-- **No candidate is lost, told twice or overtaken**, whatever the turns. -/
theorem Kept.step (h : d.Kept) {t : Turn} (hstep : Step id d t d') : d'.Kept := by
  cases hstep with
  | refuse s => exact h
  | offer s sdp hs => exact Kept.send (d := d.become s _) h s _
  | idle s hm => exact h
  | answer s hm hway sdp' => exact Kept.send (d := (d.take s).become s _) (h.take hm rfl) s _
  | stand s hm hway => exact h.take hm rfl
  | complete s hm hs => exact h.take hm rfl
  | stale s hm hs => exact h.take hm rfl
  | hear s hm => exact h.hear hm
  | keep s e => exact h
  | tell s e c => exact h.send s _

end Dialogue

/-! ## Agreement -/

namespace Pair

open Dialogue

variable {id : Side → ClientId} {p : Pair} {d : Dialogue}

/-- No offer and no answer is on its way where no message carries one. -/
theorem descriptions_eq_nil (hd : Depicts id p d) {s : Side}
    (h : ∀ m ∈ p.inbox s, m.kind ≠ .signal .offer ∧ m.kind ≠ .signal .answer) :
    d.descriptions s = [] := by
  apply List.filter_eq_nil_iff.mpr
  intro l hl hdescription
  have hmem : l.message (id s.other) (id s) ∈ p.inbox s := by
    rw [hd.mail]
    exact List.mem_map_of_mem hl
  obtain ⟨hoffer, hanswer⟩ := h _ hmem
  cases l with
  | offer sdp => exact hoffer rfl
  | answer sdp => exact hanswer rfl
  | candidate c => cases hdescription

/-- What is orderly for the pair is calm for its dialogue. -/
theorem Orderly.calm {s : Side} (h : p.Orderly (.call s)) (hd : Depicts id p d) : d.Calm s := by
  intro he t
  have hestablished : (p.party s).session.established = true := by
    rw [(hd.steady s).established]
    exact (congrArg Standing.established (hd.standing s)).trans he
  obtain ⟨hquiet, hinbox⟩ := h hestablished t
  refine ⟨?_, descriptions_eq_nil hd hinbox⟩
  intro hs
  have hbusy := (hd.steady t).negotiating.mpr
    ((congrArg Standing.signaling (hd.standing t)).trans hs)
  rw [hquiet] at hbusy
  cases hbusy

/-- An orderly run of a pair is a dialogue in one of the phases, and no candidate of it is lost. -/
theorem phase_of_reaches (hid : ∀ s, id s ≠ id s.other) {label : Side → String}
    {media : Side → Option MediaSet} (h : Reaches Orderly (start id label media) p) :
    ∃ d, Depicts id p d ∧ d.Phase id ∧ d.Kept := by
  refine invariant_of_step (I := fun d => d.Phase id ∧ d.Kept) ?_
    (depicts_start id label media) ⟨phase_start id, fun _ => rfl⟩ h
  intro p d t d' hd ⟨hphase, hkept⟩ hallowed hstep
  refine ⟨?_, hkept.step hstep⟩
  apply hphase.step hid ?_ hstep
  intro s hs
  subst hs
  exact Orderly.calm hallowed hd

/-- The candidate signals among the messages that carry some letters. -/
theorem filter_candidate (a b : ClientId) (ls : List Letter) :
    (ls.map (Letter.message a b)).filter (fun m => m.kind = .signal .candidate) =
      (candidates ls).map fun c => .signal ⟨.candidate, a, b, c.payload⟩ := by
  induction ls with
  | nil => rfl
  | cons l ls ih =>
      cases l with
      | offer sdp => exact ih
      | answer sdp => exact ih
      | candidate c => exact congrArg (List.cons _) ih

/-- When nothing is on its way, nothing is under way. -/
theorem quiet_of_drained (hphase : d.Phase id) (hd : Depicts id p d)
    (hdrained : ∀ s, p.inbox s = []) : d.Quiet ∧ ∀ s, d.mail s = [] := by
  have hmail : ∀ s, d.mail s = [] := fun s => by simpa [hdrained s] using (hd.mail s).symm
  have hsilent : ∀ s, d.descriptions s = [] := fun s => by rw [descriptions, hmail]; rfl
  refine ⟨?_, hmail⟩
  cases hphase with
  | quiet h => exact h
  | offered s sdp h =>
      have hpending := h.pending
      rw [hsilent] at hpending; cases hpending
  | crossed h =>
      obtain ⟨sdp, -, hpending⟩ := h.pending .left
      rw [hsilent] at hpending; cases hpending
  | answered s sdp sdp' h =>
      rcases h.pending with hp | ⟨-, lost, hp⟩ <;> rw [hsilent] at hp <;> cases hp

/-! ### When everything has been heard -/

/-- **Agreement.** Two sides with different ids that call each other in an orderly way agree on
everything as soon as an offer was made and nothing is on its way any more: both are at rest with
each other, each has applied the description that the other made, and each has applied exactly the
candidates that the other has told of, in that order. -/
theorem agreement_of_drained {label : Side → String} {media : Side → Option MediaSet}
    (hid : id .left ≠ id .right) (h : Reaches Orderly (start id label media) p)
    (hdrained : ∀ s, p.inbox s = []) (hoffer : ∃ s, ∃ m ∈ p.sent s, m.kind = .signal .offer) :
    ∀ s, (p.party s).session.state = .stable ∧ (p.party s).session.negotiating = false ∧
      (p.party s).session.peer = some (id s.other) ∧
      (∃ description, (p.party s).connection.localDescription = some description ∧
        (p.party s.other).connection.remoteDescription = some description) ∧
      (p.party s).session.pending.pending = [] ∧
      (p.sent s).filter (fun m => m.kind = .signal .candidate) =
        (p.party s.other).connection.candidates.map fun c =>
          .signal ⟨.candidate, id s, id s.other, c.payload⟩ := by
  have hids : ∀ s, id s ≠ id s.other := fun s => by cases s <;> simp [Side.other, hid, hid.symm]
  obtain ⟨d, hd, hphase, hkept⟩ := phase_of_reaches hids h
  obtain ⟨hquiet, hmail⟩ := quiet_of_drained hphase hd hdrained
  -- the offer that was made has led to a completed exchange
  have hestablished : ∀ s, (p.party s).connection.established = true := fun s => by
    obtain ⟨t, m, hm, hkind⟩ := hoffer
    rw [hd.sent] at hm
    obtain ⟨l, hl, rfl⟩ := List.mem_map.mp hm
    cases l with
    | offer sdp => exact (congrArg Standing.established (hd.standing s)).trans (hquiet.begun t s sdp hl)
    | answer sdp => cases hkind
    | candidate c => cases hkind
  intro s
  have hsteady := hd.steady s
  obtain ⟨hstate, hrest⟩ := hsteady.atRest
    ((congrArg Standing.signaling (hd.standing s)).trans (hquiet.stable s)) (hestablished s)
  have hlocal : (p.party s).connection.localDescription =
      (p.party s.other).connection.remoteDescription := by
    have hagreed := hquiet.agreed s
    rw [← hd.standing s, ← hd.standing s.other] at hagreed
    exact hagreed
  refine ⟨hstate, hrest, hsteady.adopted (.inr (hestablished s)), ?_,
    hsteady.flushed (hestablished s), ?_⟩
  · have hsome := (hd.steady s.other).described.trans (hestablished s.other)
    obtain ⟨description, hdescription⟩ := Option.isSome_iff_exists.mp hsome
    exact ⟨description, hlocal.trans hdescription, hdescription⟩
  · have hheard := hkept s.other
    rw [Side.other_other, hmail, ← hd.heard s.other, Negotiation.heard,
      (hd.steady s.other).flushed (hestablished s.other)] at hheard
    rw [hd.sent s, filter_candidate, ← hheard]
    simp [candidates]

/-! ### A call from both sides -/

/-- The left side has the lower id. -/
def names : Side → ClientId
  | .left => ⟨"a"⟩
  | .right => ⟨"b"⟩

def meeting : Pair := start names (fun _ => "x") fun _ => some ⟨[⟨"audio/opus", "t", "s"⟩]⟩

/-- Both sides call at once, and the right one tells of a candidate before it has its answer. -/
def crossedCall : Pair :=
  ((meeting.step (.call .left)).step (.call .right)).after
    [.handle .right (.localCandidate { candidate := "c" }),
      .deliver .left, .deliver .left, .deliver .right, .deliver .right]

/-- The crossed call is an orderly run. -/
theorem reaches_crossedCall : Reaches Orderly meeting crossedCall := by
  have hleft : meeting.Orderly (.call .left) := fun he => by cases he
  have hright : (meeting.step (.call .left)).Orderly (.call .right) := fun he => by cases he
  apply Reaches.after ((Reaches.refl.step hleft).step hright)
  intro t ht q
  simp only [List.mem_cons, List.not_mem_nil, or_false] at ht
  rcases ht with rfl | rfl | rfl | rfl | rfl <;> trivial

/-- The left side has given way, and has the candidate that came after the offer. -/
theorem agreement_of_crossedCall :
    (crossedCall.sent .right).length = 2 ∧
      ∀ s, (crossedCall.party s).session.state = .stable ∧
        (crossedCall.sent s).filter (fun m => m.kind = .signal .candidate) =
          (crossedCall.party s.other).connection.candidates.map fun c =>
            .signal ⟨.candidate, names s, names s.other, c.payload⟩ := by
  have hdrained : ∀ s, crossedCall.inbox s = [] := fun s => by cases s <;> cbv
  have hoffer : ∃ m ∈ crossedCall.sent .left, m.kind = .signal .offer :=
    ⟨_, List.mem_cons_self, by cbv⟩
  have h := agreement_of_drained (by decide) reaches_crossedCall hdrained ⟨.left, hoffer⟩
  exact ⟨by cbv, fun s => ⟨(h s).1, (h s).2.2.2.2.2⟩⟩

end Pair

end Switchboard
