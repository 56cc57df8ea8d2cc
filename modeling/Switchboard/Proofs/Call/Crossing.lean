import Switchboard.Proofs.Call.Agreement

/-!
# Offers that cross

When offers of two sides cross, the side with the lower id is to give way and answer, and the other
one is to wait for that answer. Giving way means to withdraw an offer, and an offer can be withdrawn
only before the first completed exchange. So crossed first offers are always resolved, and crossed
later ones never are: each side reports that its own offer stands, and both wait for ever.
-/

namespace Switchboard

namespace Dialogue

variable {id : Side → ClientId} {d d' : Dialogue}

/-! ## Two offers that are stuck -/

/-- Both sides wait for an answer, and none will come. -/
def Stuck (d : Dialogue) : Prop :=
  ∀ s, (d.standing s).signaling = .haveLocalOffer ∧ d.descriptions s = []

/-- No turn helps. -/
theorem Stuck.step (h : d.Stuck) {t : Turn} (hstep : Step id d t d') : d'.Stuck := by
  -- nothing but candidates can arrive
  have hnone : ∀ {s l}, (d.mail s).head? = some l → l.isDescription = true → False :=
    fun {s l} hm hl => by
      have hcons := descriptions_eq_cons hm hl
      rw [(h s).2] at hcons
      cases hcons
  cases hstep with
  | refuse s => exact h
  | offer s sdp hs => rw [(h s).1] at hs; cases hs
  | idle s hm => exact h
  | answer s hm hway sdp' => exact (hnone hm rfl).elim
  | stand s hm hway => exact (hnone hm rfl).elim
  | complete s hm hs => exact (hnone hm rfl).elim
  | stale s hm hs => exact (hnone hm rfl).elim
  | hear s hm => exact fun t => ⟨(h t).1, (descriptions_take_candidate hm t).trans (h t).2⟩
  | keep s e => exact h
  | tell s e c => exact fun t => ⟨(h t).1, (descriptions_send_candidate s c t).trans (h t).2⟩

end Dialogue

namespace Pair

open Dialogue

variable {id : Side → ClientId} {label : Side → String} {media : Side → Option MediaSet} {p q : Pair}

/-- Every run of a pair is a run of a dialogue. -/
theorem depicts_of_reaches {allowed : Pair → Turn → Prop}
    (h : Reaches allowed (start id label media) p) : ∃ d, Depicts id p d := by
  obtain ⟨d, hd, -⟩ := invariant_of_step (I := fun _ => True) (fun _ _ _ _ => trivial)
    (depicts_start id label media) trivial h
  exact ⟨d, hd⟩

/-! ## Which crossings resolve -/

/-- **Crossed offers are resolved exactly before the first completed exchange** of the side with the
lower id. The side with the higher id stands firm in any case and is left as it was, so it does not
matter which offer arrives first. -/
theorem crossed_offers_resolve_iff (h : Reaches Free (start id label media) p) {s : Side}
    (hlower : id s < id s.other) (hpending : ∀ t, (p.party t).session.state = .haveLocalOffer)
    (low : Description) {high : Description}
    (hhigh : (p.party s.other).connection.localDescription = some high) :
    (p.party s.other).receive (.signal ⟨.offer, id s, id s.other, low.payload⟩) =
        (p.party s.other, .ok .glare) ∧
      ((∃ n reply m,
          (p.party s).receive (.signal ⟨.offer, id s.other, id s, high.payload⟩) =
            (n, .ok (.reply reply)) ∧
          (p.party s.other).receive reply = (m, .ok .answerApplied) ∧ n.AtRest ∧ m.AtRest) ↔
        (p.party s).connection.established = false) ∧
      ((p.party s).connection.established = true →
        (p.party s).receive (.signal ⟨.offer, id s.other, id s, high.payload⟩) =
            (p.party s, .ok .glare) ∧
          ∀ t, (p.party t).session.negotiating = true) := by
  -- both have an own offer pending, so the connections have too
  obtain ⟨d, hd⟩ := depicts_of_reaches h
  have hs := (hd.steady s).state_eq_haveLocalOffer.mp (hpending s)
  have hother := (hd.steady s.other).state_eq_haveLocalOffer.mp (hpending s.other)
  have hhigher := hd.steady s.other
  rw [Side.other_other] at hhigher
  have hkind : high.kind = .offer := by
    obtain ⟨o, ho, hk⟩ := hhigher.offering hother
    rw [hhigh] at ho
    cases ho
    exact hk
  -- once an exchange is completed, also the lower side stands by its offer
  have hstands : (p.party s).connection.established = true →
      (p.party s).receive (.signal ⟨.offer, id s.other, id s, high.payload⟩) =
        (p.party s, .ok .glare) := fun he =>
    (hd.steady s).receive_offer_glare high hs fun hway => by rw [he] at hway; cases hway.1
  refine ⟨?_, ⟨?_, ?_⟩, fun he => ⟨hstands he, fun t => ?_⟩⟩
  · exact hhigher.receive_offer_glare low hother fun hway => ClientId.lt_asymm hlower hway.2
  · -- a side that stands by its offer does not reply
    rintro ⟨n, reply, m, hr, -⟩
    cases he : (p.party s).connection.established with
    | false => rfl
    | true => rw [hstands he] at hr; cases hr
  · intro he
    -- the lower side gives way and answers, and the higher one completes
    obtain ⟨n, answer, hk, hr, hn, hst, -⟩ :=
      (hd.steady s).receive_offer high hkind (.inr ⟨he, hlower⟩)
    obtain ⟨m, hr', hm, hst', -⟩ := hhigher.receive_answer answer hk hother
    exact ⟨n, _, m, hr, hr', hn.atRest (by rw [hst]) (by rw [hst]),
      hm.atRest (by rw [hst']) (by rw [hst'])⟩
  · exact (hd.steady t).negotiating.mpr
      ((hd.steady t).state_eq_haveLocalOffer.mp (hpending t))

/-- Two sides that have completed an exchange call each other again, at once. -/
def crossedAgain : Pair :=
  meeting.after [.call .left, .deliver .right, .deliver .left, .call .left, .call .right]

/-- Both offers stand. -/
theorem crossed_offers_of_crossedAgain :
    ∃ low high : Description,
      (crossedAgain.party .right).receive (.signal ⟨.offer, ⟨"a"⟩, ⟨"b"⟩, low.payload⟩) =
          (crossedAgain.party .right, .ok .glare) ∧
        (crossedAgain.party .left).receive (.signal ⟨.offer, ⟨"b"⟩, ⟨"a"⟩, high.payload⟩) =
          (crossedAgain.party .left, .ok .glare) ∧
        ∀ t, (crossedAgain.party t).session.negotiating = true := by
  have hreaches : Reaches Free meeting crossedAgain := Reaches.refl.after fun _ _ _ => trivial
  have hpending : ∀ t, (crossedAgain.party t).session.state = .haveLocalOffer := fun t => by
    cases t <;> cbv
  obtain ⟨hstands, -, hstuck⟩ := crossed_offers_resolve_iff hreaches (s := .left) (by decide)
    hpending ⟨.offer, "v=0 x-offer-2"⟩
    (show (crossedAgain.party .right).connection.localDescription =
      some ⟨.offer, "v=0 x-offer-1"⟩ by cbv)
  exact ⟨_, _, hstands, hstuck (by cbv)⟩

/-! ## What comes after -/

/-- **Nothing resolves them later.** Once neither side has an offer or an answer on its way, both
keep negotiating whatever the turns. -/
theorem stuck_forever (h : Reaches Free (start id label media) p)
    (hpending : ∀ t, (p.party t).session.state = .haveLocalOffer)
    (hsilent : ∀ t, ∀ m ∈ p.inbox t, m.kind ≠ .signal .offer ∧ m.kind ≠ .signal .answer)
    (hq : Reaches Free p q) (t : Side) : (q.party t).session.negotiating = true := by
  obtain ⟨d, hd⟩ := depicts_of_reaches h
  have hstuck : d.Stuck := fun s =>
    ⟨(congrArg Standing.signaling (hd.standing s)).symm.trans
      ((hd.steady s).state_eq_haveLocalOffer.mp (hpending s)), descriptions_eq_nil hd (hsilent s)⟩
  obtain ⟨d', hd', hstuck'⟩ := invariant_of_step (I := Stuck)
    (fun _ hstuck _ hstep => hstuck.step hstep) hd hstuck hq
  exact (hd'.steady t).negotiating.mpr
    ((congrArg Standing.signaling (hd'.standing t)).trans (hstuck' t).1)

example (q : Pair) (hq : Reaches Free (crossedAgain.after [.deliver .left, .deliver .right]) q)
    (t : Side) : (q.party t).session.negotiating = true := by
  have hreaches : Reaches Free meeting (crossedAgain.after [.deliver .left, .deliver .right]) :=
    (Reaches.refl.after fun _ _ _ => trivial).after fun _ _ _ => trivial
  refine stuck_forever hreaches (fun t => ?_) (fun t m hm => ?_) hq t
  · cases t <;> cbv
  · have hnone : (crossedAgain.after [.deliver .left, .deliver .right]).inbox t = [] := by
      cases t <;> cbv
    rw [hnone] at hm
    cases hm

end Pair

end Switchboard
