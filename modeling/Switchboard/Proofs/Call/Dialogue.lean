import Switchboard.Proofs.Call.Pair
import Switchboard.Proofs.Call.Steady

/-!
# The dialogue of two sides

What matters of a `Pair` whose sides are steady is where each side stands, which candidates it has
heard of and which letters are on their way: its `Dialogue`. `Dialogue.Step` lists the few things
that a turn can do to it. `Depicts.step` says that the list is complete, so that what is to be shown
of all runs of two sides can be shown of dialogues.
-/

namespace Switchboard

inductive Letter where
  | offer (sdp : String)
  | answer (sdp : String)
  | candidate (c : Candidate)
deriving DecidableEq, Repr

namespace Letter

def message (sender recipient : ClientId) : Letter → Message
  | offer sdp => .signal ⟨.offer, sender, recipient, (⟨.offer, sdp⟩ : Description).payload⟩
  | answer sdp => .signal ⟨.answer, sender, recipient, (⟨.answer, sdp⟩ : Description).payload⟩
  | candidate c => .signal ⟨.candidate, sender, recipient, c.payload⟩

def isDescription : Letter → Bool
  | offer _ | answer _ => true
  | candidate _ => false

def candidate? : Letter → Option Candidate
  | candidate c => some c
  | _ => none

end Letter

/-- What matters of two sides and of what is on its way between them. -/
structure Dialogue where
  standing : Side → Standing
  heard : Side → List Candidate
  /-- The letters on their way to a side, oldest first. -/
  mail : Side → List Letter
  /-- All letters that a side has sent so far, oldest first. -/
  sent : Side → List Letter

namespace Dialogue

variable {id : Side → ClientId} {d d' : Dialogue}

/-! ## Steps -/

def take (d : Dialogue) (s : Side) : Dialogue :=
  { d with mail := Function.update d.mail s (d.mail s).tail }

def become (d : Dialogue) (s : Side) (st : Standing) : Dialogue :=
  { d with standing := Function.update d.standing s st }

def hear (d : Dialogue) (s : Side) (c : Candidate) : Dialogue :=
  { d with heard := Function.update d.heard s (d.heard s ++ [c]) }

def send (d : Dialogue) (s : Side) (l : Letter) : Dialogue :=
  { d with
    mail := Function.update d.mail s.other (d.mail s.other ++ [l])
    sent := Function.update d.sent s (d.sent s ++ [l]) }

/-- `s` answers an offer that arrives now: nothing of its own is pending, or it can still be
withdrawn and its id is the lower one. -/
def GivesWay (id : Side → ClientId) (d : Dialogue) (s : Side) : Prop :=
  (d.standing s).signaling = .stable ∨
    ((d.standing s).established = false ∧ id s < id s.other)

inductive Step (id : Side → ClientId) (d : Dialogue) : Turn → Dialogue → Prop
  | refuse (s : Side) : Step id d (.call s) d
  | offer (s : Side) (sdp : String) (hs : (d.standing s).signaling = .stable) :
      Step id d (.call s)
        ((d.become s { d.standing s with
          signaling := .haveLocalOffer, localDescription := some ⟨.offer, sdp⟩ }).send s (.offer sdp))
  | idle (s : Side) (hm : d.mail s = []) : Step id d (.deliver s) d
  | answer (s : Side) {sdp : String} (hm : (d.mail s).head? = some (.offer sdp))
      (hway : d.GivesWay id s) (sdp' : String) :
      Step id d (.deliver s)
        (((d.take s).become s
          { signaling := .stable, localDescription := some ⟨.answer, sdp'⟩
            remoteDescription := some ⟨.offer, sdp⟩, established := true }).send s (.answer sdp'))
  /-- An offer is not answered, because an offer of our own stands. -/
  | stand (s : Side) {sdp : String} (hm : (d.mail s).head? = some (.offer sdp))
      (hway : ¬d.GivesWay id s) : Step id d (.deliver s) (d.take s)
  | complete (s : Side) {sdp : String} (hm : (d.mail s).head? = some (.answer sdp))
      (hs : (d.standing s).signaling = .haveLocalOffer) :
      Step id d (.deliver s)
        ((d.take s).become s { d.standing s with
          signaling := .stable, remoteDescription := some ⟨.answer, sdp⟩, established := true })
  /-- An answer comes while no offer of ours is pending. -/
  | stale (s : Side) {sdp : String} (hm : (d.mail s).head? = some (.answer sdp))
      (hs : (d.standing s).signaling = .stable) : Step id d (.deliver s) (d.take s)
  | hear (s : Side) {c : Candidate} (hm : (d.mail s).head? = some (.candidate c)) :
      Step id d (.deliver s) ((d.take s).hear s c)
  /-- An event is handled in silence. -/
  | keep (s : Side) (e : ConnectionEvent) : Step id d (.handle s e) d
  | tell (s : Side) (e : ConnectionEvent) (c : Candidate) :
      Step id d (.handle s e) (d.send s (.candidate c))

/-! ## The dialogue of a pair -/

/-- Both sides of the pair are steady, and the dialogue is theirs. -/
structure Depicts (id : Side → ClientId) (p : Pair) (d : Dialogue) : Prop where
  steady : ∀ s, (p.party s).Steady (id s) (id s.other)
  standing : ∀ s, (p.party s).standing = d.standing s
  heard : ∀ s, (p.party s).heard = d.heard s
  mail : ∀ s, p.inbox s = (d.mail s).map (Letter.message (id s.other) (id s))
  sent : ∀ s, p.sent s = (d.sent s).map (Letter.message (id s) (id s.other))

def start : Dialogue where
  standing _ :=
    { signaling := .stable, localDescription := none, remoteDescription := none
      established := false }
  heard _ := []
  mail _ := []
  sent _ := []

/-! ### Moves of the pair -/

/-- A fresh pair is a dialogue that has not begun. -/
theorem depicts_start (id : Side → ClientId) (label : Side → String)
    (media : Side → Option MediaSet) : Depicts id (Pair.start id label media) start where
  steady s := Negotiation.steady_start (id s) (id s.other) (label s) (media s)
  standing _ := rfl
  heard _ := rfl
  mail _ := rfl
  sent _ := rfl

section Depicts

variable {p : Pair} (h : Depicts id p d)
include h

/-- Taking a message off one side is taking the letter off. -/
theorem Depicts.take (s : Side) : Depicts id (p.take s) (d.take s) where
  steady := h.steady
  standing := h.standing
  heard := h.heard
  mail t := by
    by_cases ht : t = s
    · subst ht
      simp [Pair.take, Dialogue.take, h.mail]
    · simp [Pair.take, Dialogue.take, ht, h.mail]
  sent := h.sent

/-- One side goes on steadily, and the other one is steady as before. -/
theorem Depicts.steady_become {s : Side} {n : Negotiation} (hn : n.Steady (id s) (id s.other))
    (t : Side) : ((p.become s n).party t).Steady (id t) (id t.other) := by
  by_cases ht : t = s
  · subst ht
    simpa [Pair.become] using hn
  · simpa [Pair.become, ht] using h.steady t

/-- A side that has gone on steadily is depicted by its new standing. -/
theorem Depicts.become {s : Side} {n : Negotiation} {st : Standing}
    (hn : n.Steady (id s) (id s.other)) (hst : n.standing = st)
    (hheard : n.heard = (p.party s).heard) : Depicts id (p.become s n) (d.become s st) where
  steady := h.steady_become hn
  standing t := by
    by_cases ht : t = s
    · subst ht
      simpa [Pair.become, Dialogue.become] using hst
    · simpa [Pair.become, Dialogue.become, ht] using h.standing t
  heard t := by
    by_cases ht : t = s
    · subst ht
      simpa [Pair.become, Dialogue.become] using hheard.trans (h.heard t)
    · simpa [Pair.become, Dialogue.become, ht] using h.heard t
  mail := h.mail
  sent := h.sent

/-- A side hears of a candidate and stands where it stood. -/
theorem Depicts.hear {s : Side} {n : Negotiation} {c : Candidate}
    (hn : n.Steady (id s) (id s.other)) (hst : n.standing = (p.party s).standing)
    (hheard : n.heard = (p.party s).heard ++ [c]) : Depicts id (p.become s n) (d.hear s c) where
  steady := h.steady_become hn
  standing t := by
    by_cases ht : t = s
    · subst ht
      simpa [Pair.become, Dialogue.hear] using hst.trans (h.standing t)
    · simpa [Pair.become, Dialogue.hear, ht] using h.standing t
  heard t := by
    by_cases ht : t = s
    · subst ht
      simp [Pair.become, Dialogue.hear, hheard, h.heard]
    · simpa [Pair.become, Dialogue.hear, ht] using h.heard t
  mail := h.mail
  sent := h.sent

/-- Posting a message is sending the letter. -/
theorem Depicts.send (s : Side) (l : Letter) :
    Depicts id (p.post s (some (l.message (id s) (id s.other)))) (d.send s l) where
  steady := h.steady
  standing := h.standing
  heard := h.heard
  mail t := by
    obtain rfl | rfl := s.eq_or_eq_other t
    · simp [Pair.post, Dialogue.send, h.mail]
    · simp [Pair.post, Dialogue.send, h.mail]
  sent t := by
    by_cases ht : t = s
    · subst ht
      simp [Pair.post, Dialogue.send, h.sent]
    · simp [Pair.post, Dialogue.send, ht, h.sent]

theorem Depicts.keep {s : Side} {n : Negotiation} (hn : n.Steady (id s) (id s.other))
    (hst : n.standing = (p.party s).standing) (hheard : n.heard = (p.party s).heard) :
    Depicts id (p.become s n) d := by
  have hb := h.become hn (hst.trans (h.standing s)) hheard
  rwa [Dialogue.become, Function.update_eq_self] at hb

/-- The first letter is the first message of the inbox. -/
theorem Depicts.head? {s : Side} {l : Letter} {ls : List Letter} (hm : d.mail s = l :: ls) :
    ∃ rest, p.inbox s = l.message (id s.other) (id s) :: rest := by
  refine ⟨ls.map (Letter.message (id s.other) (id s)), ?_⟩
  rw [h.mail, hm]
  rfl

/-- Giving way can be read off the connection. -/
theorem Depicts.givesWay_iff (s : Side) :
    d.GivesWay id s ↔ (p.party s).connection.signaling = .stable ∨
      ((p.party s).connection.established = false ∧ id s < id s.other) := by
  rw [GivesWay, ← h.standing s]
  rfl

/-! ### Turns of the pair -/

/-- A call of a pair is a call of its dialogue. -/
theorem Depicts.call (s : Side) :
    ∃ d', Step id d (.call s) d' ∧ Depicts id (p.step (.call s)) d' := by
  have hother : (p.party s.other).localId = id s.other := (h.steady s.other).localId
  obtain ⟨e, hr⟩ | ⟨hs, n, ⟨kind, sdp⟩, hk, hr, hn, hst, hheard⟩ := (h.steady s).startCall
  · refine ⟨d, .refuse s, ?_⟩
    simp only [Pair.step, hother, hr]
    exact h.keep (h.steady s) rfl rfl
  · cases hk
    refine ⟨_, .offer s sdp ?_, ?_⟩
    · rw [← h.standing s]
      exact hs
    · simp only [Pair.step, hother, hr]
      rw [h.standing s] at hst
      exact (h.become hn hst hheard).send s (.offer sdp)

/-- What arrives is answered, changes where a side stands, is heard of, or comes to nothing. -/
theorem Depicts.deliver (s : Side) :
    ∃ d', Step id d (.deliver s) d' ∧ Depicts id (p.step (.deliver s)) d' := by
  have hsteady := h.steady s
  have hstand : (d.standing s).signaling = (p.party s).connection.signaling := by
    rw [← h.standing s]
    rfl
  -- by the letter that is next, and then by what the side makes of it
  cases hm : d.mail s with
  | nil =>
      refine ⟨d, .idle s hm, ?_⟩
      have hnil : p.inbox s = [] := by rw [h.mail, hm]; rfl
      simpa only [Pair.step, hnil] using h
  | cons l ls =>
      have hhead : (d.mail s).head? = some l := by rw [hm]; rfl
      obtain ⟨rest, hinbox⟩ := h.head? hm
      cases l with
      | offer sdp =>
          by_cases hway : d.GivesWay id s
          · obtain ⟨n, ⟨kind, sdp'⟩, hk, hr, hn, hst, hheard⟩ :=
              hsteady.receive_offer ⟨.offer, sdp⟩ rfl ((h.givesWay_iff s).mp hway)
            cases hk
            refine ⟨_, .answer s hhead hway sdp', ?_⟩
            simp only [Pair.step, hinbox, Letter.message, hr]
            exact ((h.take s).become hn hst hheard).send s (.answer sdp')
          · refine ⟨_, .stand s hhead hway, ?_⟩
            have hway' := mt (h.givesWay_iff s).mpr hway
            -- who does not give way has an own offer pending
            have hs : (p.party s).connection.signaling = .haveLocalOffer :=
              hsteady.signaling_cases.resolve_left fun hs => hway' (.inl hs)
            have hr := hsteady.receive_offer_glare ⟨.offer, sdp⟩ hs fun hlow => hway' (.inr hlow)
            simp only [Pair.step, hinbox, Letter.message, hr]
            exact (h.take s).keep hsteady rfl rfl
      | answer sdp =>
          obtain hs | hs := hsteady.signaling_cases
          · refine ⟨_, .stale s hhead (hstand.trans hs), ?_⟩
            have hr := hsteady.receive_answer_stale ⟨.answer, sdp⟩ hs
            simp only [Pair.step, hinbox, Letter.message, hr]
            exact (h.take s).keep hsteady rfl rfl
          · obtain ⟨n, hr, hn, hst, hheard⟩ :=
              hsteady.receive_answer ⟨.answer, sdp⟩ rfl hs
            refine ⟨_, .complete s hhead (hstand.trans hs), ?_⟩
            simp only [Pair.step, hinbox, Letter.message, hr]
            rw [h.standing s] at hst
            exact (h.take s).become hn hst hheard
      | candidate c =>
          obtain ⟨n, outcome, hr, hsilent, hn, hst, hheard⟩ := hsteady.receive_candidate c
          refine ⟨_, .hear s hhead, ?_⟩
          -- nothing is said back to a candidate
          have hnone : outcome.message? = none := by
            cases outcome with
            | reply m => exact absurd rfl (hsilent m)
            | _ => rfl
          simp only [Pair.step, hinbox, Letter.message, hr]
          show Depicts id (Pair.post _ s outcome.message?) _
          rw [hnone]
          exact (h.take s).hear hn hst hheard

/-- Handling an event tells the other side of a candidate, or tells it nothing. -/
theorem Depicts.handle (s : Side) (e : ConnectionEvent) :
    ∃ d', Step id d (.handle s e) d' ∧ Depicts id (p.step (.handle s e)) d' := by
  obtain ⟨n, r, hr, hn, hst, hheard, hsignal⟩ := (h.steady s).handle e
  have hkeep := h.keep hn hst hheard
  simp only [Pair.step, hr]
  show ∃ d', _ ∧ Depicts id (Pair.post _ s (r.bind NegotiationEvent.message?)) d'
  cases hm : r.bind NegotiationEvent.message? with
  | none => exact ⟨d, .keep s e, hkeep⟩
  | some m =>
      obtain ⟨event, rfl, hevent⟩ := Option.bind_eq_some_iff.mp hm
      cases event with
      | signal m' =>
          cases hevent
          -- of all that is reported only a candidate is told to the other side
          obtain ⟨c, rfl⟩ := hsignal _ rfl
          exact ⟨_, .tell s e c, hkeep.send s (.candidate c)⟩
      | iceChanged _ => cases hevent
      | remoteTrack _ => cases hevent

/-- **Every turn of a pair is a step of its dialogue.** -/
theorem Depicts.step (t : Turn) : ∃ d', Step id d t d' ∧ Depicts id (p.step t) d' := by
  cases t with
  | call s => exact h.call s
  | deliver s => exact h.deliver s
  | handle s e => exact h.handle s e

end Depicts

/-- **Invariants of dialogues.** What holds of a dialogue and is kept by the steps of allowed turns
holds of the dialogue of every state that is reached. -/
theorem invariant_of_step {allowed : Pair → Turn → Prop} {I : Dialogue → Prop}
    (hstep : ∀ {p d t d'}, Depicts id p d → I d → allowed p t → Step id d t d' → I d')
    {p q : Pair} (hd : Depicts id p d) (hi : I d) (h : Pair.Reaches allowed p q) :
    ∃ d, Depicts id q d ∧ I d := by
  induction h with
  | refl => exact ⟨d, hd, hi⟩
  | @step q t _ ht ih =>
      obtain ⟨d, hd, hi⟩ := ih
      obtain ⟨d', hs, hd'⟩ := hd.step t
      exact ⟨d', hd', hstep hd hi ht hs⟩

end Dialogue

end Switchboard
