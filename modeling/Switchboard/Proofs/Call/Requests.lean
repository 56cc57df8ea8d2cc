import Switchboard.Proofs.Call.Coherence

/-!
# A connection that anybody drives

A negotiation asks its connection for things in an order that makes sense. Here a connection is
asked for anything at all: in any order, with any arguments, and with failures armed at any time.
Only `assumeRemoteDescription` is left out, which makes up a description that nobody has sent.

All the same the descriptions fit the signaling state (`Coherent`), and once an answer was applied
(`Completes`) both of them are there for good. A rollback leaves a connection that is as good as new
(`renewed`), and a request that is refused leaves everything as it was, but for the failure that was
armed for it (`eq_or_disarm_of_refused`).

The main statement is `exchange_rules_hold`.
-/

namespace Switchboard

namespace Connection

variable {c : Connection}

/-! ## Requests -/

/-- What a connection can be asked for, and what it can be told from outside. -/
inductive Request where
  | createOffer
  | createAnswer
  | setLocalDescription (d : Description)
  | setRemoteDescription (d : Description)
  | addCandidate (x : Candidate)
  | addTrack (t : Track)
  | rollback
  | close
  | failNext (op : ConnectionOp)
  | stallOffers (on : Bool)
  | emit (e : ConnectionEvent)
  | takeEvents
deriving DecidableEq, Repr

inductive Response where
  | done
  | made (d : Description)
  /-- The offer is never finished. -/
  | stalled
  | refused (e : ConnectionError)
deriving DecidableEq, Repr

namespace Request

def op? : Request → Option ConnectionOp
  | createOffer => some .createOffer
  | createAnswer => some .createAnswer
  | setLocalDescription _ => some .setLocalDescription
  | setRemoteDescription _ => some .setRemoteDescription
  | addCandidate _ => some .addCandidate
  | addTrack _ => some .addTrack
  | rollback => some .rollback
  | close | failNext _ | stallOffers _ | emit _ | takeEvents => none

/-- The request brings an answer, of this side or of the other. -/
def BringsAnswer : Request → Prop
  | setLocalDescription d | setRemoteDescription d => d.kind = .answer
  | _ => False

end Request

/-- The response to a request whose operation has come to a result. -/
def Response.ofResult {α : Type} (onOk : α → Response) : Except ConnectionError α → Response
  | .ok a => onOk a
  | .error e => .refused e

/-- The connection after a request, and what it says. -/
def respond (c : Connection) : Request → Connection × Response
  | .createOffer => (c.createOffer.1, c.createOffer.2.elim .stalled (.ofResult .made))
  | .createAnswer => (c.createAnswer.1, .ofResult .made c.createAnswer.2)
  | .setLocalDescription d =>
    ((c.setLocalDescription d).1, .ofResult (fun _ => .done) (c.setLocalDescription d).2)
  | .setRemoteDescription d =>
    ((c.setRemoteDescription d).1, .ofResult (fun _ => .done) (c.setRemoteDescription d).2)
  | .addCandidate x => ((c.addCandidate x).1, .ofResult (fun _ => .done) (c.addCandidate x).2)
  | .addTrack t => ((c.addTrack t).1, .ofResult (fun _ => .done) (c.addTrack t).2)
  | .rollback => (c.rollback.1, .ofResult (fun _ => .done) c.rollback.2)
  | .close => (c.close.1, .ofResult (fun _ => .done) c.close.2)
  | .failNext op => (c.failNext op, .done)
  | .stallOffers on => ({ c with stallsOffers := on }, .done)
  | .emit e => (c.emit e, .done)
  | .takeEvents => ({ c with events := [] }, .done)

def after (c : Connection) (rs : List Request) : Connection :=
  rs.foldl (fun c r => (c.respond r).1) c

/-! ### Requests as steps -/

/-- Each request is a step of the connection. -/
theorem step_respond (c : Connection) (r : Request) : Step c (c.respond r).1 := by
  cases r with
  | createOffer => exact .createOffer c
  | createAnswer => exact .createAnswer c
  | setLocalDescription d => exact .setLocalDescription c d
  | setRemoteDescription d => exact .setRemoteDescription c d
  | addCandidate x => exact .addCandidate c x
  | addTrack t => exact .addTrack c t
  | rollback => exact .rollback c
  | close => exact .close c
  | failNext op => exact .failNext c op
  | stallOffers on => exact .stallOffers c on
  | emit e => exact .emit c e
  | takeEvents => exact .takeEvents c

/-- Requests in any order are steps of the connection. -/
theorem steps_after (c : Connection) (rs : List Request) : Steps c (c.after rs) := by
  induction rs generalizing c with
  | nil => exact .refl
  | cons r rs ih => exact .head (c.step_respond r) (ih _)

/-! ## What is refused -/

/-- A refused response comes from an error. -/
theorem Response.eq_error_of_refused {α : Type} {onOk : α → Response}
    {result : Except ConnectionError α} {e : ConnectionError}
    (h : ofResult onOk result = .refused e) (hok : ∀ a, onOk a ≠ .refused e) :
    result = .error e := by
  cases result with
  | ok a => exact absurd h (hok a)
  | error e' =>
      cases h
      rfl

/-- **What is refused has done nothing**, but for using up the failure that was armed for it. -/
theorem eq_or_disarm_of_refused {r : Request} {e : ConnectionError}
    (h : (c.respond r).2 = .refused e) :
    (c.respond r).1 = c ∨
      ∃ op, r.op? = some op ∧ op ∈ c.armed ∧ (c.respond r).1 = c.disarm op := by
  have hdone (u : Unit) : Response.done ≠ .refused e := nofun
  have hmade (d : Description) : Response.made d ≠ .refused e := nofun
  have hspent {op : ConnectionOp} (hop : r.op? = some op)
      (hleft : (c.respond r).1 = c ∨ op ∈ c.armed ∧ (c.respond r).1 = c.disarm op) :
      (c.respond r).1 = c ∨
        ∃ op, r.op? = some op ∧ op ∈ c.armed ∧ (c.respond r).1 = c.disarm op :=
    hleft.imp_right fun harmed => ⟨op, hop, harmed⟩
  -- each request is one operation, which says what a refusal leaves
  cases r with
  | createOffer =>
      rcases hr : c.createOffer.2 with _ | result <;> simp only [respond, hr] at h
      · cases h
      · rw [Response.eq_error_of_refused h hmade] at hr
        exact hspent rfl (of_createOffer_eq_error (Prod.ext rfl hr))
  | createAnswer =>
      have hr := Response.eq_error_of_refused h hmade
      exact hspent rfl (of_createAnswer_eq_error (Prod.ext rfl hr))
  | setLocalDescription d =>
      have hr := Response.eq_error_of_refused h hdone
      exact hspent rfl (of_setLocalDescription_eq_error (Prod.ext rfl hr))
  | setRemoteDescription d =>
      have hr := Response.eq_error_of_refused h hdone
      exact hspent rfl (of_setRemoteDescription_eq_error (Prod.ext rfl hr))
  | addCandidate x =>
      have hr := Response.eq_error_of_refused h hdone
      exact hspent rfl (of_addCandidate_eq_error (Prod.ext rfl hr))
  | addTrack t =>
      have hr := Response.eq_error_of_refused h hdone
      exact hspent rfl (of_addTrack_eq_error (Prod.ext rfl hr))
  | rollback =>
      have hr := Response.eq_error_of_refused h hdone
      exact hspent rfl (of_rollback_eq_error (Prod.ext rfl hr))
  | close | failNext | stallOffers | emit | takeEvents => cases h

/-- A closed connection does nothing that it is asked for. -/
theorem respond_of_closed (h : c.signaling = .closed) {r : Request} (hr : r.op?.isSome) :
    c.respond r = (c, .refused .closed) := by
  have hrefuses {α : Type} (op : ConnectionOp) (act : Attempt α) :
      c.attempt op act = (c, .error .closed) := by
    rw [attempt, if_pos h]
  cases r with
  | createOffer => simp only [respond, createOffer, hrefuses]; rfl
  | createAnswer => simp only [respond, createAnswer, hrefuses]; rfl
  | setLocalDescription d => simp only [respond, setLocalDescription, hrefuses]; rfl
  | setRemoteDescription d => simp only [respond, setRemoteDescription, hrefuses]; rfl
  | addCandidate x => simp only [respond, addCandidate, hrefuses]; rfl
  | addTrack t => simp only [respond, addTrack, hrefuses]; rfl
  | rollback => simp only [respond, rollback, hrefuses]; rfl
  | close | failNext | stallOffers | emit | takeEvents => cases hr

/-! ## What completes an exchange -/

/-- The request brings an answer, and the connection applies it. -/
def AppliesAnswer (c : Connection) (r : Request) : Prop :=
  r.BringsAnswer ∧ (c.respond r).2 = .done

def Completes (c : Connection) : List Request → Prop
  | [] => False
  | r :: rs => c.AppliesAnswer r ∨ (c.respond r).1.Completes rs

/-- **An exchange completes when an answer is applied**, and nothing else changes that. -/
theorem established_respond (c : Connection) (r : Request) :
    (c.respond r).1.established = true ↔ c.established = true ∨ c.AppliesAnswer r := by
  -- only the two requests that bring a description can bring an answer
  have hkeep (hno : ¬c.AppliesAnswer r)
      (hkept : (c.respond r).1.established = c.established) :
      (c.respond r).1.established = true ↔ c.established = true ∨ c.AppliesAnswer r := by
    rw [hkept, or_iff_left hno]
  have hrefused {e : ConnectionError} (hr : (c.respond r).2 = .refused e) :
      (c.respond r).1.established = true ↔ c.established = true ∨ c.AppliesAnswer r := by
    apply hkeep fun h => nomatch hr.symm.trans h.2
    obtain hsame | ⟨op, -, -, hspent⟩ := eq_or_disarm_of_refused hr
    · rw [hsame]
    · rw [hspent, disarm]
  cases r with
  | createOffer =>
      obtain ⟨c', e, -, hr⟩ | ⟨-, hr⟩ | ⟨-, hr⟩ := c.createOffer_cases
      · exact hrefused (e := e) (by rw [respond, hr]; rfl)
      · exact hkeep (fun h => h.1) (by rw [respond, hr])
      · exact hkeep (fun h => h.1) (by rw [respond, hr])
  | createAnswer =>
      obtain ⟨c', e, -, hr⟩ | ⟨-, hr⟩ := c.createAnswer_cases
      · exact hrefused (e := e) (by rw [respond, hr]; rfl)
      · exact hkeep (fun h => h.1) (by rw [respond, hr])
  | setLocalDescription d =>
      obtain ⟨c', e, -, hr⟩ | ⟨hk, -, hr⟩ | ⟨hk, -, hr⟩ := c.setLocalDescription_cases d
      · exact hrefused (e := e) (by rw [respond, hr]; rfl)
      · exact hkeep (fun h => nomatch hk.symm.trans h.1) (by rw [respond, hr, moveTo_eq])
      · exact iff_of_true (by rw [respond, hr, moveTo_eq]) (.inr ⟨hk, by rw [respond, hr]; rfl⟩)
  | setRemoteDescription d =>
      obtain ⟨c', e, -, hr⟩ | ⟨hk, -, hr⟩ | ⟨hk, -, hr⟩ := c.setRemoteDescription_cases d
      · exact hrefused (e := e) (by rw [respond, hr]; rfl)
      · exact hkeep (fun h => nomatch hk.symm.trans h.1) (by rw [respond, hr, moveTo_eq])
      · exact iff_of_true (by rw [respond, hr, moveTo_eq]) (.inr ⟨hk, by rw [respond, hr]; rfl⟩)
  | addCandidate x =>
      obtain ⟨c', e, -, hr⟩ | ⟨-, hr⟩ := c.addCandidate_cases x
      · exact hrefused (e := e) (by rw [respond, hr]; rfl)
      · exact hkeep (fun h => h.1) (by rw [respond, hr])
  | addTrack t =>
      obtain ⟨c', e, -, hr⟩ | hr := c.addTrack_cases t
      · exact hrefused (e := e) (by rw [respond, hr]; rfl)
      · exact hkeep (fun h => h.1) (by rw [respond, hr])
  | rollback =>
      obtain ⟨c', e, -, hr⟩ | ⟨-, -, hr⟩ := c.rollback_cases
      · exact hrefused (e := e) (by rw [respond, hr]; rfl)
      · exact hkeep (fun h => h.1) (by rw [respond, hr])
  | close => exact hkeep (fun h => h.1) (by rw [respond, Connection.close, moveTo_eq])
  | failNext | stallOffers | emit | takeEvents => exact hkeep (fun h => h.1) rfl

/-- An exchange has completed once an answer was applied, and only then. -/
theorem established_after (c : Connection) (rs : List Request) :
    (c.after rs).established = true ↔ c.established = true ∨ c.Completes rs := by
  induction rs generalizing c with
  | nil => simp [after, Completes]
  | cons r rs ih =>
      show ((c.respond r).1.after rs).established = true ↔ _
      rw [ih, established_respond, Completes, or_assoc]

/-! ## The rules of an exchange -/

/-- A new connection in the place of `c`, with the failures and the stall that `c` was told of. It
has made as many descriptions and reported the same events. -/
def renewed (c : Connection) : Connection :=
  { label := c.label
    armed := c.armed
    stallsOffers := c.stallsOffers
    offersCreated := c.offersCreated
    answersCreated := c.answersCreated
    events := c.events }

/-- A connection that was rolled back is as good as new. -/
theorem respond_rollback_eq_renewed (h : (c.respond .rollback).2 = .done) :
    (c.respond .rollback).1 = c.renewed := by
  obtain ⟨c', e, -, hr⟩ | ⟨-, hfirst, hr⟩ := c.rollback_cases
  · simp only [respond, hr] at h
    cases h
  · show c.rollback.1 = c.renewed
    rw [hr, renewed, hfirst]

/-! ### Every request -/

/-- **The rules of offer and answer hold whatever a connection is asked for.** Take a new
connection, and any requests in any order. The signaling state is one of four, and the descriptions
are those that it stands for: an offer of the side whose offer is pending; and where no answer was
applied yet, nothing of the other side beside an own offer, and nothing at all in the stable state.
There are candidates only beside a description of the other side. Once an answer was applied, both
descriptions are there whatever is asked for later. A rollback that is done leaves the connection as
good as new, and a request that is refused leaves it as it was, but for the failure that was armed
for this request. -/
theorem exchange_rules_hold (label : String) (rs : List Request) :
    let c := after { label } rs
    (c.signaling = .stable ∨ c.signaling = .haveLocalOffer ∨ c.signaling = .haveRemoteOffer ∨
        c.signaling = .closed) ∧
      (c.established = true ↔ Completes { label } rs) ∧
      (c.signaling = .stable → c.established = false →
        c.localDescription = none ∧ c.remoteDescription = none ∧ c.candidates = []) ∧
      (c.signaling = .haveLocalOffer →
        (∃ d, c.localDescription = some d ∧ d.kind = .offer) ∧
          (c.established = false → c.remoteDescription = none)) ∧
      (c.signaling = .haveRemoteOffer →
        ∃ d, c.remoteDescription = some d ∧ d.kind = .offer) ∧
      (c.candidates ≠ [] → c.remoteDescription.isSome) ∧
      (c.established = true → ∀ later,
        (c.after later).established = true ∧
          (c.after later).localDescription.isSome ∧ (c.after later).remoteDescription.isSome) ∧
      ((c.respond .rollback).2 = .done → (c.respond .rollback).1 = c.renewed) ∧
      ∀ r e, (c.respond r).2 = .refused e →
        (c.respond r).1 = c ∨
          ∃ op, r.op? = some op ∧ op ∈ c.armed ∧ (c.respond r).1 = c.disarm op := by
  intro c
  have hcoherent : c.Coherent := (coherent_new label).steps (steps_after _ rs)
  have hcompletes : c.established = true ↔ Completes { label } rs := by
    rw [established_after]
    exact or_iff_right Bool.false_ne_true
  -- the bookkeeping of descriptions is that of any coherent connection
  have hbare (hs : c.signaling = .stable) (hfirst : c.established = false) :
      c.localDescription = none ∧ c.remoteDescription = none ∧ c.candidates = [] := by
    obtain ⟨hlocal, hremote⟩ := hcoherent.bare hs hfirst
    exact ⟨hlocal, hremote, hcoherent.applied hremote⟩
  have hheard (hsome : c.candidates ≠ []) : c.remoteDescription.isSome :=
    Option.isSome_iff_ne_none.mpr fun hnone => hsome (hcoherent.applied hnone)
  have hlasts (hdone : c.established = true) (later : List Request) :
      (c.after later).established = true ∧
        (c.after later).localDescription.isSome ∧ (c.after later).remoteDescription.isSome := by
    have hstays : (c.after later).established = true := (c.established_after later).mpr (.inl hdone)
    exact ⟨hstays, (hcoherent.steps (c.steps_after later)).described hstays⟩
  exact ⟨hcoherent.signaling, hcompletes, hbare, hcoherent.localOffer, hcoherent.remoteOffer,
    hheard, hlasts, respond_rollback_eq_renewed, fun _ _ => eq_or_disarm_of_refused⟩

/-! ### A setback -/

/-- An offer of the other side is pending, with a candidate and a track, and the next answer is made
to fail. -/
def pendingOffer : List Request :=
  [.setRemoteDescription ⟨.offer, "v=0 b"⟩, .addCandidate { candidate := "c1" },
    .addTrack ⟨"audio/opus", "t", "s"⟩, .failNext .createAnswer]

/-- The offer is answered after all, and then there is an offer of this side. -/
def renegotiation : List Request :=
  pendingOffer ++
    [.createAnswer, .setLocalDescription ⟨.answer, "v=0 a"⟩,
      .setLocalDescription ⟨.offer, "v=0 a2"⟩]

/-- The pending offer can be rolled back, which leaves nothing; the answer to it is refused once. A
first offer of this side knows nothing of the other side. After the answer both descriptions are
known, also when the connection has refused to roll a new offer back and was closed. -/
theorem exchange_rules_hold_setback :
    let new : Connection := { label := "mock" }
    let pending := new.after pendingOffer
    let undone := new.after (pendingOffer ++ [.rollback])
    let first := new.after [.setLocalDescription ⟨.offer, "v=0 a"⟩]
    let again := new.after renegotiation
    (pending.signaling = .haveRemoteOffer ∧
        ∃ d, pending.remoteDescription = some d ∧ d.kind = .offer) ∧
      (pending.candidates ≠ [] ∧ pending.remoteDescription.isSome) ∧
      ((pending.respond .rollback).2 = .done ∧
        (pending.respond .rollback).1 = pending.renewed) ∧
      ((pending.respond .createAnswer).2 =
          .refused (.rejected "injected CreateAnswer failure") ∧
        (pending.respond .createAnswer).1 = pending.disarm .createAnswer) ∧
      (undone.signaling = .stable ∧ undone.established = false ∧ undone.candidates = []) ∧
      (first.signaling = .haveLocalOffer ∧ first.established = false ∧
        first.remoteDescription = none) ∧
      (again.signaling = .haveLocalOffer ∧ again.established = true ∧
        (again.after [.rollback, .close]).localDescription.isSome) := by
  have hagain : (after { label := "mock" } renegotiation).signaling = .haveLocalOffer ∧
      (after { label := "mock" } renegotiation).established = true := by
    constructor <;> rfl
  intro new pending undone first again
  obtain ⟨-, -, -, -, hoffer, hheard, -, hrenewed, hrefused⟩ :=
    exchange_rules_hold "mock" pendingOffer
  obtain ⟨-, -, hbare, -⟩ := exchange_rules_hold "mock" (pendingOffer ++ [.rollback])
  obtain ⟨-, -, -, hcalled, -⟩ :=
    exchange_rules_hold "mock" [.setLocalDescription ⟨.offer, "v=0 a"⟩]
  obtain ⟨-, -, -, -, -, -, hlasts, -⟩ := exchange_rules_hold "mock" renegotiation
  have hpending : pending.signaling = .haveRemoteOffer := by rfl
  have hsome : pending.candidates ≠ [] := by decide
  have hrollback : (pending.respond .rollback).2 = .done := by rfl
  have hanswer : (pending.respond .createAnswer).2 =
      .refused (.rejected "injected CreateAnswer failure") := by rfl
  have hspent : (pending.respond .createAnswer).1 = pending.disarm .createAnswer := by
    obtain hsame | ⟨op, hop, -, hleft⟩ := hrefused _ _ hanswer
    · have harmed : (pending.respond .createAnswer).1.armed = [] := by rfl
      rw [hsame] at harmed
      cases harmed
    · cases hop
      exact hleft
  have hundone : undone.signaling = .stable := by rfl
  have hfirst : first.signaling = .haveLocalOffer := by rfl
  exact ⟨⟨hpending, hoffer hpending⟩, ⟨hsome, hheard hsome⟩, ⟨hrollback, hrenewed hrollback⟩,
    ⟨hanswer, hspent⟩, ⟨hundone, by rfl, (hbare hundone (by rfl)).2.2⟩,
    ⟨hfirst, by rfl, (hcalled hfirst).2 (by rfl)⟩, hagain.1, hagain.2, (hlasts hagain.2 _).2.1⟩

end Connection

end Switchboard
