import Switchboard.Proofs.Call.Connection

/-!
# Waiting candidates are handed over once

A buffer and a connection, while candidates are put into the buffer and the buffer is flushed, and
while the connection is changed by others. The connection is watched: it takes candidates as any
other does, and keeps a record of each one that it was offered and of what it said. What a flush
leaves is the same without the record (`flush_watched`).

The record followed by what is in the buffer is at any time all that was put into it, in that order.
What a connection refuses of the candidates that a flush offers it are the first ones: all of them,
one, or none (`Connection.refusals`).
-/

namespace Switchboard

/-! ## What a connection refuses -/

namespace Connection

variable {c : Connection}

/-- How many of `n` candidates the connection refuses, which are the first ones. -/
def refusals (c : Connection) (n : Nat) : Nat :=
  if c.signaling = .closed ∨ c.remoteDescription = none then n
  else if .addCandidate ∈ c.armed then min 1 n
  else 0

/-- No more candidates are refused than are offered. -/
theorem refusals_le (c : Connection) (n : Nat) : c.refusals n ≤ n := by
  unfold refusals
  split
  · exact Nat.le_refl n
  · split
    · exact Nat.min_le_right 1 n
    · exact Nat.zero_le n

/-- A candidate is refused, which may have been the last time, or it is applied and so are those
that follow. -/
theorem addCandidate_outcome (c : Connection) (x : Candidate) (n : Nat) :
    (∃ c' e, Spends c c' ∧ c.addCandidate x = (c', .error e) ∧
        c.refusals (n + 1) = c'.refusals n + 1) ∨
      (c.addCandidate x = ({ c with candidates := c.candidates ++ [x] }, .ok ()) ∧
        c.refusals (n + 1) = 0 ∧
        refusals { c with candidates := c.candidates ++ [x] } n = 0) := by
  by_cases hclosed : c.signaling = .closed
  · left
    refine ⟨c, .closed, .refl c, ?_, ?_⟩
    · rw [addCandidate, attempt, if_pos hclosed]
    · rw [refusals, refusals, if_pos (.inl hclosed), if_pos (.inl hclosed)]
  by_cases harmed : .addCandidate ∈ c.armed
  · left
    -- the armed failure is used up, and only where nothing else is in the way the next one is taken
    refine ⟨{ c with armed := c.armed.filter (· ≠ .addCandidate) },
      .rejected ("injected " ++ ConnectionOp.addCandidate.title ++ " failure"),
      ⟨_, List.filter_sublist.subset, rfl⟩, ?_, ?_⟩
    · rw [addCandidate, attempt, if_neg hclosed, if_pos harmed]
    · simp [refusals, hclosed, harmed]
      split <;> rfl
  have hready : c.Ready .addCandidate := ⟨hclosed, harmed⟩
  by_cases hremote : c.remoteDescription = none
  · left
    refine ⟨c, .rejected "remote description not set", .refl c, ?_, ?_⟩
    · rw [addCandidate, attempt_of_ready hready, hremote]
    · rw [refusals, refusals, if_pos (.inr hremote), if_pos (.inr hremote)]
  · right
    have hsome : c.remoteDescription.isSome := Option.isSome_iff_ne_none.mpr hremote
    refine ⟨addCandidate_of_ready hready hsome x, ?_, ?_⟩
    · simp [refusals, hclosed, harmed, hremote]
    · simp [refusals, hclosed, harmed, hremote]

end Connection

/-! ## Watched connections -/

/-- A candidate that was offered to a connection, and what the connection said. -/
structure Offer where
  candidate : Candidate
  answer : Except ConnectionError Unit

def Offer.isTaken (o : Offer) : Bool := o.answer.isOk

/-- A connection beside a record of all candidates that it was offered, oldest first. -/
structure WatchedConnection where
  connection : Connection
  offers : List Offer := []

namespace WatchedConnection

/-- Offer a candidate to the connection and note what it says. -/
def addCandidate (w : WatchedConnection) (x : Candidate) :
    WatchedConnection × Except ConnectionError Unit :=
  let (connection, answer) := w.connection.addCandidate x
  ({ connection, offers := w.offers ++ [⟨x, answer⟩] }, answer)

instance : TakesCandidates WatchedConnection := ⟨addCandidate⟩

/-- Watching an offer does not change what comes of it. -/
theorem addCandidate_eq {w : WatchedConnection} {x : Candidate} {c : Connection}
    {answer : Except ConnectionError Unit} (h : w.connection.addCandidate x = (c, answer)) :
    w.addCandidate x = (⟨c, w.offers ++ [⟨x, answer⟩]⟩, answer) := by
  rw [addCandidate, h]

end WatchedConnection

namespace CandidateBuffer

/-! ### The record of a flush -/

/-- `offers` are made to a connection when it is offered `xs`: each of them once, in their order.
The first ones are refused, and the connection takes the others. -/
structure Offers (c : Connection) (xs : List Candidate) (offers : List Offer) : Prop where
  each : offers.map (·.candidate) = xs
  answers : offers.map (·.isTaken) = List.replicate (c.refusals xs.length) false ++
    List.replicate (xs.length - c.refusals xs.length) true
  applied : (offerAll c xs).1.candidates = c.candidates ++ xs.drop (c.refusals xs.length)
  count : (offerAll c xs).2 = xs.length - c.refusals xs.length

/-- If the answers are refusals first and no more refusals then, what is taken comes last. -/
theorem filter_isTaken_eq_drop {offers : List Offer} {k n : Nat}
    (h : offers.map (·.isTaken) = List.replicate k false ++ List.replicate n true) :
    offers.filter (·.isTaken) = offers.drop k := by
  induction k generalizing offers with
  | zero =>
      refine List.filter_eq_self.mpr fun o ho => ?_
      have hmem := List.mem_map_of_mem (f := (·.isTaken)) ho
      rw [h, List.replicate_zero, List.nil_append] at hmem
      exact List.eq_of_mem_replicate hmem
  | succ k ih =>
      cases offers with
      | nil => rfl
      | cons o offers =>
          rw [List.map_cons, List.replicate_succ, List.cons_append, List.cons.injEq] at h
          rw [List.filter_cons_of_neg (by simp [h.1]), List.drop_succ_cons, ih h.2]

/-- The candidates that are taken are the last ones offered. -/
theorem Offers.candidates_taken {c : Connection} {xs : List Candidate} {offers : List Offer}
    (h : Offers c xs offers) :
    (offers.filter (·.isTaken)).map (·.candidate) = xs.drop (c.refusals xs.length) := by
  rw [filter_isTaken_eq_drop h.answers, List.map_drop, h.each]

theorem Offers.nil (c : Connection) : Offers c [] [] := by
  have hnone : c.refusals 0 = 0 := Nat.le_zero.mp (c.refusals_le 0)
  constructor <;> simp [offerAll, hnone]

/-- One more candidate was refused before the others. -/
theorem Offers.refuse {c c' : Connection} {x : Candidate} {xs : List Candidate}
    {offers : List Offer} (h : Offers c' xs offers) {e : ConnectionError}
    (hadd : c.addCandidate x = (c', .error e)) (hsame : c'.candidates = c.candidates)
    (hrefusals : c.refusals (xs.length + 1) = c'.refusals xs.length + 1) :
    Offers c (x :: xs) (⟨x, .error e⟩ :: offers) := by
  have hoffer : offerAll c (x :: xs) = offerAll c' xs := offerAll_refused hadd xs
  refine ⟨?_, ?_, ?_, ?_⟩
  · rw [List.map_cons, h.each]
  · rw [List.map_cons, h.answers, List.length_cons, hrefusals, List.replicate_succ,
      Nat.add_sub_add_right]
    rfl
  · rw [hoffer, h.applied, hsame, List.length_cons, hrefusals, List.drop_succ_cons]
  · rw [hoffer, h.count, List.length_cons, hrefusals, Nat.add_sub_add_right]

/-- One more candidate was taken before the others, and so are all of them. -/
theorem Offers.take {c c' : Connection} {x : Candidate} {xs : List Candidate}
    {offers : List Offer} (h : Offers c' xs offers)
    (hadd : c.addCandidate x = (c', .ok ())) (hgrown : c'.candidates = c.candidates ++ [x])
    (hnone : c.refusals (xs.length + 1) = 0) (hnone' : c'.refusals xs.length = 0) :
    Offers c (x :: xs) (⟨x, .ok ()⟩ :: offers) := by
  have hoffer : offerAll c (x :: xs) = ((offerAll c' xs).1, (offerAll c' xs).2 + 1) :=
    offerAll_taken hadd xs
  refine ⟨?_, ?_, ?_, ?_⟩
  · rw [List.map_cons, h.each]
  · rw [List.map_cons, h.answers, List.length_cons, hnone, hnone']
    rfl
  · rw [hoffer, h.applied, hgrown, List.length_cons, hnone, hnone', List.append_assoc]
    rfl
  · rw [hoffer, h.count, List.length_cons, hnone, hnone']
    rfl

/-- **A watched connection has all that it was offered on record**, and is left as it would be
without the record. -/
theorem offerAll_watched (w : WatchedConnection) (xs : List Candidate) :
    ∃ offers, Offers w.connection xs offers ∧
      offerAll w xs =
        ({ connection := (offerAll w.connection xs).1, offers := w.offers ++ offers },
          (offerAll w.connection xs).2) := by
  -- the watched connection answers each candidate as the plain one does
  induction xs generalizing w with
  | nil =>
      refine ⟨[], .nil _, ?_⟩
      rw [List.append_nil]
      rfl
  | cons x xs ih =>
      obtain ⟨c', e, ⟨armed, -, rfl⟩, hadd, hrefusals⟩ | ⟨hadd, hnone, hnone'⟩ :=
        w.connection.addCandidate_outcome x xs.length
      · obtain ⟨offers, hoffers, hrest⟩ := ih ⟨_, w.offers ++ [⟨x, .error e⟩]⟩
        refine ⟨⟨x, .error e⟩ :: offers, hoffers.refuse hadd rfl hrefusals, ?_⟩
        rw [offerAll_refused (WatchedConnection.addCandidate_eq hadd), hrest,
          offerAll_refused hadd, List.append_assoc]
        rfl
      · obtain ⟨offers, hoffers, hrest⟩ := ih ⟨_, w.offers ++ [⟨x, .ok ()⟩]⟩
        refine ⟨⟨x, .ok ()⟩ :: offers, hoffers.take hadd rfl hnone hnone', ?_⟩
        rw [offerAll_taken (WatchedConnection.addCandidate_eq hadd), hrest, offerAll_taken hadd,
          List.append_assoc]
        rfl

end CandidateBuffer

/-! ## Runs -/

/-- A buffer and the connection that it is flushed into. -/
structure Handover where
  buffer : CandidateBuffer := .empty
  watched : WatchedConnection

namespace Handover

variable {t : Handover}

inductive Event where
  | enqueue (x : Candidate)
  | flush
  | assumeRemoteDescription
  | failNext (op : ConnectionOp)
  | close

def connection (t : Handover) : Connection := t.watched.connection

def offers (t : Handover) : List Offer := t.watched.offers

def onConnection (t : Handover) (f : Connection → Connection) : Handover :=
  { t with watched := { t.watched with connection := f t.connection } }

def step (t : Handover) : Event → Handover
  | .enqueue x => { t with buffer := t.buffer.enqueue x }
  | .flush =>
    let (buffer, watched, _) := t.buffer.flush t.watched
    { buffer, watched }
  | .assumeRemoteDescription => t.onConnection Connection.assumeRemoteDescription
  | .failNext op => t.onConnection (·.failNext op)
  | .close => t.onConnection (·.close.1)

def after (t : Handover) (es : List Event) : Handover := es.foldl step t

def start (label : String) : Handover := { watched := { connection := { label } } }

def arrivals (es : List Event) : List Candidate :=
  es.filterMap fun
    | .enqueue x => some x
    | _ => none

/-- A flush hands over what was waiting, and nothing waits any more. The connection is left as a
flush leaves one that is not watched. -/
theorem flush_watched (t : Handover) :
    ∃ offers, CandidateBuffer.Offers t.connection t.buffer.pending offers ∧
      t.step .flush = { watched := ⟨(t.buffer.flush t.connection).2.1, t.offers ++ offers⟩ } := by
  obtain ⟨offers, hoffers, hleft⟩ :=
    CandidateBuffer.offerAll_watched t.watched t.buffer.pending
  refine ⟨offers, hoffers, ?_⟩
  rw [step, CandidateBuffer.flush, hleft]
  rfl

/-! ## The account of all candidates -/

/-- The record followed by what waits is what was put into the buffer, and what was taken is what
the connection has. -/
structure Complete (t : Handover) (xs : List Candidate) : Prop where
  each : t.offers.map (·.candidate) ++ t.buffer.pending = xs
  applied : (t.offers.filter (·.isTaken)).map (·.candidate) = t.connection.candidates

/-- What touches no candidate of the connection leaves the account complete. -/
theorem Complete.onConnection {xs : List Candidate} (ht : t.Complete xs)
    {f : Connection → Connection} (hf : ∀ c, (f c).candidates = c.candidates) :
    (t.onConnection f).Complete xs where
  each := ht.each
  applied := ht.applied.trans (hf t.connection).symm

theorem candidates_assumeRemoteDescription (c : Connection) :
    c.assumeRemoteDescription.candidates = c.candidates := by
  unfold Connection.assumeRemoteDescription
  split <;> rfl

theorem candidates_close (c : Connection) : c.close.1.candidates = c.candidates := by
  rw [Connection.close, Connection.moveTo_eq]

/-- A flush hands every waiting candidate over, and writes each of them down once. -/
theorem Complete.flush {xs : List Candidate} (ht : t.Complete xs) :
    (t.step .flush).Complete xs := by
  obtain ⟨offers, hoffers, hleft⟩ := t.flush_watched
  rw [hleft]
  refine ⟨?_, ?_⟩
  · show (t.offers ++ offers).map (·.candidate) ++ [] = xs
    rw [List.append_nil, List.map_append, hoffers.each, ht.each]
  · show ((t.offers ++ offers).filter (·.isTaken)).map (·.candidate) =
      (CandidateBuffer.offerAll t.connection t.buffer.pending).1.candidates
    rw [List.filter_append, List.map_append, hoffers.candidates_taken, hoffers.applied, ht.applied]

/-- **Every event keeps the record complete.** -/
theorem Complete.step {xs : List Candidate} (ht : t.Complete xs) (e : Event) :
    (t.step e).Complete (xs ++ arrivals [e]) := by
  cases e with
  | enqueue x =>
      refine ⟨?_, ht.applied⟩
      show t.offers.map (·.candidate) ++ (t.buffer.pending ++ [x]) = xs ++ [x]
      rw [← List.append_assoc, ht.each]
  | flush =>
      rw [show arrivals [.flush] = [] from rfl, List.append_nil]
      exact ht.flush
  | assumeRemoteDescription =>
      rw [show arrivals [.assumeRemoteDescription] = [] from rfl, List.append_nil]
      exact ht.onConnection candidates_assumeRemoteDescription
  | failNext op =>
      rw [show arrivals [.failNext op] = [] from rfl, List.append_nil]
      exact ht.onConnection (f := (·.failNext op)) fun _ => rfl
  | close =>
      rw [show arrivals [.close] = [] from rfl, List.append_nil]
      exact ht.onConnection (f := (·.close.1)) candidates_close

/-- **Every candidate waits or has been handed over**, after any events. -/
theorem Complete.after {xs : List Candidate} (ht : t.Complete xs) (es : List Event) :
    (t.after es).Complete (xs ++ arrivals es) := by
  induction es generalizing t xs with
  | nil =>
      rw [show arrivals [] = [] from rfl, List.append_nil]
      exact ht
  | cons e es ih =>
      have hrest := ih (ht.step e)
      rwa [List.append_assoc, arrivals, arrivals, ← List.filterMap_append] at hrest

/-- Nothing has come and nothing was offered at the start. -/
theorem complete_start (label : String) : (start label).Complete [] := ⟨rfl, rfl⟩

/-! ## Between two flushes -/

/-- Without a flush nothing is offered, and whatever comes waits. -/
theorem step_of_ne_flush (t : Handover) {e : Event} (he : e ≠ .flush) :
    (t.step e).offers = t.offers ∧
      (t.step e).buffer.pending = t.buffer.pending ++ arrivals [e] := by
  cases e with
  | enqueue x => exact ⟨rfl, rfl⟩
  | flush => exact absurd rfl he
  | assumeRemoteDescription => exact ⟨rfl, (List.append_nil _).symm⟩
  | failNext op => exact ⟨rfl, (List.append_nil _).symm⟩
  | close => exact ⟨rfl, (List.append_nil _).symm⟩

/-- Until the next flush nothing is offered, and what comes waits behind what waits already. -/
theorem after_of_no_flush (t : Handover) {es : List Event} (hes : Event.flush ∉ es) :
    (t.after es).offers = t.offers ∧
      (t.after es).buffer.pending = t.buffer.pending ++ arrivals es := by
  induction es generalizing t with
  | nil => exact ⟨rfl, (List.append_nil _).symm⟩
  | cons e es ih =>
      rw [List.mem_cons, not_or] at hes
      obtain ⟨hoffers, hpending⟩ := t.step_of_ne_flush (Ne.symm hes.1)
      obtain ⟨hoffers', hpending'⟩ := ih (t.step e) hes.2
      refine ⟨hoffers'.trans hoffers, ?_⟩
      show ((t.step e).after es).buffer.pending = _
      rw [hpending', hpending, List.append_assoc, arrivals, arrivals, ← List.filterMap_append]
      rfl

/-! ## Whole histories -/

/-- **Waiting candidates are handed over once.** What the connection was offered, followed by what
waits, is all that was put into the buffer, in that order, and what the connection has taken is what
it has. Until the next flush nothing is offered and nothing is lost; the flush offers all that
waits, so each candidate is offered by the first flush after it, and then nothing waits. The
connection refuses the first ones, and the flush returns how many it has taken: all, or all but the
first where a failure is armed, or none on a connection that is closed or knows no description of
the other side. -/
theorem candidates_handed_over (label : String) (es : List Event) :
    let t := (start label).after es
    let flushed := t.buffer.flush t.connection
    let k := t.connection.refusals t.buffer.pending.length
    t.offers.map (·.candidate) ++ t.buffer.pending = arrivals es ∧
      (t.offers.filter (·.isTaken)).map (·.candidate) = t.connection.candidates ∧
      (∀ es', Event.flush ∉ es' → (t.after es').offers = t.offers ∧
        (t.after es').buffer.pending = t.buffer.pending ++ arrivals es') ∧
      flushed.1.pending = [] ∧
      flushed.2.1.candidates.length = t.connection.candidates.length + flushed.2.2 ∧
      flushed.2.1.candidates = t.connection.candidates ++ t.buffer.pending.drop k ∧
      ∃ offers, t.step .flush = ⟨flushed.1, ⟨flushed.2.1, t.offers ++ offers⟩⟩ ∧
        offers.map (·.candidate) = t.buffer.pending ∧
        offers.map (·.isTaken) =
          List.replicate k false ++ List.replicate (t.buffer.pending.length - k) true := by
  intro t flushed k
  have hcomplete : t.Complete (arrivals es) := (complete_start label).after es
  obtain ⟨offers, hoffers, hleft⟩ := t.flush_watched
  refine ⟨hcomplete.each, hcomplete.applied, fun es' => t.after_of_no_flush, rfl, ?_,
    hoffers.applied, offers, hleft, hoffers.each, hoffers.answers⟩
  have happlied : flushed.2.1.candidates = _ := hoffers.applied
  have hcount : flushed.2.2 = _ := hoffers.count
  rw [happlied, hcount, List.length_append, List.length_drop]

/-- A failure is armed when two candidates are flushed; one more comes after that, and the
connection is closed. -/
def interrupted : List Event :=
  [.assumeRemoteDescription, .failNext .addCandidate, .failNext .addCandidate,
    .enqueue { candidate := "c1" }, .enqueue { candidate := "c2" }, .flush,
    .enqueue { candidate := "c3" }, .close]

/-- The first candidate is refused by the failure, the second one is taken, and the third one is
refused because it comes too late. -/
theorem candidates_handed_over_interrupted :
    let t := (start "mock").after interrupted
    Event.flush ∉ [Event.failNext .addTrack] ∧
      (t.after [.failNext .addTrack]).buffer.pending = [{ candidate := "c3" }] ∧
      t.connection.candidates = [{ candidate := "c2" }] ∧
      ∃ offers, (t.step .flush).offers = t.offers ++ offers ∧
        offers.map (·.candidate) = [{ candidate := "c3" }] ∧ offers.map (·.isTaken) = [false] := by
  intro t
  obtain ⟨-, -, hlater, -, -, -, offers, hflush, heach, hanswers⟩ :=
    candidates_handed_over "mock" interrupted
  have hpending : t.buffer.pending = [{ candidate := "c3" }] := by rfl
  have hrefusals : t.connection.refusals t.buffer.pending.length = 1 := by rfl
  have hquiet : Event.flush ∉ [Event.failNext .addTrack] := by simp
  refine ⟨hquiet, ?_, by rfl, offers, ?_, heach.trans hpending, ?_⟩
  · rw [(hlater _ hquiet).2]
    exact congrArg (· ++ []) hpending
  · exact congrArg Handover.offers hflush
  · rw [hrefusals, hpending] at hanswers
    exact hanswers

end Handover

end Switchboard
