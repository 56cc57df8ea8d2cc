import Switchboard.Proofs.Relay.Sockets

/-!
# What a relay counts

Every frame with a text that a relay reads is counted once: under its topic when it was passed on,
and else under the reason why it was dropped. Bytes that are no text are dropped as well, but they
are not counted, so the figures of a relay fall short of the data frames that it has read by just
these (`Ledger.accounts`).
-/

namespace Switchboard

/-! ## The fate of a frame -/

/-- What becomes of a frame with a text. -/
inductive Fate where
  | routed (topic : Topic)
  | dropped (reason : DropReason)
deriving DecidableEq, Repr

/-- Text or bytes, as opposed to the frames that only serve the socket. -/
def SocketFrame.isData : SocketFrame → Bool
  | text _ | binary _ => true
  | ping | pong | close => false

def SocketFrame.isGarbled (f : SocketFrame) : Bool := f.isData && f.signal?.isNone

theorem SocketFrame.isData_of_isSome (f : SocketFrame) (h : f.signal?.isSome = true) :
    f.isData = true := by
  cases f with
  | text s => rfl
  | binary bytes => rfl
  | ping => cases h
  | pong => cases h
  | close => cases h

namespace Counters

def record (c : Counters) : Fate → Counters
  | .routed t => c.countRouted t
  | .dropped r => c.countDropped r

def frames (c : Counters) : Nat :=
  c.routed .offer + c.routed .answer + c.routed .candidate +
    (c.dropped .malformed + c.dropped .protocolViolation + c.dropped .unknownRecipient +
      c.dropped .backlogged)

def figure (c : Counters) : Fate → Nat
  | .routed t => c.routed t
  | .dropped r => c.dropped r

/-! ### Figures -/

/-- A fate that is recorded moves its own figure, and no other. -/
theorem figure_record (c : Counters) (f g : Fate) :
    (c.record f).figure g = if g = f then c.figure g + 1 else c.figure g := by
  cases f <;> cases g <;> simp [record, figure, countRouted, countDropped, bump_apply]

theorem frames_record (c : Counters) (f : Fate) : (c.record f).frames = c.frames + 1 := by
  cases f with
  | routed t => cases t <;> simp [record, frames, countRouted, bump_apply] <;> omega
  | dropped r => cases r <;> simp [record, frames, countDropped, bump_apply] <;> omega

/-- The two have counted the same frames. -/
def SameFrames (c c' : Counters) : Prop := c'.routed = c.routed ∧ c'.dropped = c.dropped

theorem SameFrames.figure {c c' : Counters} (h : c.SameFrames c') (f : Fate) :
    c'.figure f = c.figure f := by
  cases f with
  | routed t => exact congrFun h.1 t
  | dropped r => exact congrFun h.2 r

theorem SameFrames.frames {c c' : Counters} (h : c.SameFrames c') : c'.frames = c.frames := by
  rw [Counters.frames, h.1, h.2, Counters.frames]

theorem SameFrames.trans {c c' c'' : Counters} (h : c.SameFrames c') (h' : c'.SameFrames c'') :
    c.SameFrames c'' :=
  ⟨h'.1.trans h.1, h'.2.trans h.2⟩

end Counters

namespace Relay

/-- What becomes of a text that `sender` sends. -/
def fate (r : Relay) (sender : ClientId) (text : String) : Fate :=
  match r.route sender text with
  | .ok (d, _) => .routed d.topic
  | .error e => .dropped e.reason

/-! ### What counts no frame -/

/-- Queueing counts nothing. -/
theorem counters_push {r r' : Relay} {i : Nat} {frame : String} (h : r.push i frame = .ok r') :
    r'.counters = r.counters := by
  obtain ⟨e, hp⟩ | ⟨o, -, -, -, hp⟩ := r.push_cases i frame
  · rw [hp] at h
    cases h
  · rw [hp] at h
    cases h
    rfl

/-- A text is counted once, as its fate is. -/
theorem counters_dispatch (r : Relay) (sender : ClientId) (text : String) :
    (r.dispatch sender text).1.counters = r.counters.record (r.fate sender text) := by
  unfold dispatch fate
  obtain ⟨e, hr⟩ | ⟨s, -, hr⟩ := r.route_cases sender text
  · rw [hr]
    rfl
  · rw [hr]
    obtain ⟨e, hf⟩ | ⟨h, o, -, -, -, -, hf⟩ := r.forward_cases s <;> rw [hf] <;> rfl

/-- What makes a relay drop a text. -/
def Drops (r : Relay) (sender : ClientId) (text : String) : DropReason → Prop
  | .malformed => r.frameLimit < text.utf8ByteSize ∨ ∃ e, Message.receive sender text = .error e
  | .protocolViolation => text.utf8ByteSize ≤ r.frameLimit ∧
      ∃ id, Message.receive sender text = .ok (.welcome id)
  | .unknownRecipient => text.utf8ByteSize ≤ r.frameLimit ∧
      ∃ s, Message.receive sender text = .ok (.signal s) ∧
        ∀ h o, r.registry.find? s.recipient = some h → r.outbox? h.outbox = some o →
          o.abandoned = true
  | .backlogged => text.utf8ByteSize ≤ r.frameLimit ∧
      ∃ s h o, Message.receive sender text = .ok (.signal s) ∧
        r.registry.find? s.recipient = some h ∧ r.outbox? h.outbox = some o ∧
        o.abandoned = false ∧ o.capacity ≤ o.frames.length

/-- A text that is passed on is queued once; it leaves the relay as `r'`. -/
def Passes (r r' : Relay) (sender : ClientId) (text : String) (topic : Topic) : Prop :=
  text.utf8ByteSize ≤ r.frameLimit ∧
    ∃ s h o, Message.receive sender text = .ok (.signal s) ∧ s.topic = topic ∧
      r.registry.find? s.recipient = some h ∧ r.outbox? h.outbox = some o ∧
      o.abandoned = false ∧ o.frames.length < o.capacity ∧
      r'.outboxes = r.outboxes.set h.outbox
        { o with frames := o.frames ++ [(Message.signal s).encode] }

/-- A fate that a text has for a reason. -/
def Merits (r r' : Relay) (sender : ClientId) (text : String) : Fate → Prop
  | .routed topic => r.Passes r' sender text topic
  | .dropped reason => r.Drops sender text reason ∧ r'.outboxes = r.outboxes

/-- **Every text has the fate that it merits.** -/
theorem merits_fate (r : Relay) (sender : ClientId) (text : String) :
    r.Merits (r.dispatch sender text).1 sender text (r.fate sender text) := by
  unfold dispatch fate route
  by_cases hsize : r.frameLimit < text.utf8ByteSize
  · rw [if_pos hsize]
    exact ⟨.inl hsize, rfl⟩
  rw [if_neg hsize]
  have hfits : text.utf8ByteSize ≤ r.frameLimit := Nat.le_of_not_lt hsize
  cases hm : Message.receive sender text with
  | error e => exact ⟨.inr ⟨e, hm⟩, rfl⟩
  | ok m =>
      cases m with
      | welcome id => exact ⟨⟨hfits, id, hm⟩, rfl⟩
      | signal s =>
          obtain ⟨hf, hgone⟩ | ⟨h, o, hf, hfind, ho, hread, hfull⟩ |
            ⟨h, o, hfind, ho, hread, hroom, hf⟩ := r.forward_outcomes s <;> simp only [hf]
          · exact ⟨⟨hfits, s, hm, hgone⟩, rfl⟩
          · exact ⟨⟨hfits, s, h, o, hm, hfind, ho, hread, hfull⟩, rfl⟩
          · exact ⟨hfits, s, h, o, hm, rfl, hfind, ho, hread, hroom, rfl⟩

theorem counters_welcome (r : Relay) (id : ClientId) (h : Handle) :
    (r.welcome id h).counters = r.counters := by
  unfold welcome
  split
  · next hp => exact counters_push hp
  · rfl

/-- A client that comes counts as no frame. -/
theorem sameFrames_accept {r r' : Relay} {capacity : Nat}
    {remote : Option Address.TransportAddress} {draws : List ClientId} {id : ClientId} {i : Nat}
    (h : r.accept capacity remote draws = some (id, i, r')) :
    r.counters.SameFrames r'.counters := by
  simp only [accept, connect_eq] at h
  cases hfree : (r.openOutbox capacity).1.registry.firstFree? draws with
  | none =>
      rw [hfree] at h
      cases h
  | some id =>
      rw [hfree] at h
      cases h
      rw [Counters.SameFrames]
      simp only [enroll, Counters.connected, counters_welcome]
      exact ⟨rfl, rfl⟩

theorem sameFrames_disconnect (r : Relay) (id : ClientId) :
    r.counters.SameFrames (r.disconnect id).counters := by
  unfold disconnect
  split <;> exact ⟨rfl, rfl⟩

end Relay

/-! ## What events count -/

namespace Traffic

variable {t : Traffic}

def Event.isDispatch : Event → Bool
  | dispatch _ _ => true
  | connect _ _ _ | disconnect _ | read _ | leave _ => false

/-- Only a frame that is dispatched is counted. -/
theorem sameFrames_step (t : Traffic) (e : Event) (he : e.isDispatch = false) :
    t.relay.counters.SameFrames (t.step e).relay.counters := by
  cases e with
  | connect capacity remote draws =>
      cases haccept : t.relay.accept capacity remote draws with
      | none =>
          simp only [step, haccept]
          exact ⟨rfl, rfl⟩
      | some accepted =>
          obtain ⟨id, i, r⟩ := accepted
          simp only [step, haccept]
          exact Relay.sameFrames_accept haccept
  | disconnect id => exact t.relay.sameFrames_disconnect id
  | dispatch sender text => cases he
  | read i =>
      obtain hnone | ⟨o, frame, frames, -, -, hr⟩ := t.relay.takeFrame?_cases i
      · simp only [step, hnone]
        exact ⟨rfl, rfl⟩
      · simp only [step, hr]
        exact ⟨rfl, rfl⟩
  | leave i =>
      simp only [step, Relay.abandon]
      split <;> exact ⟨rfl, rfl⟩

theorem sameFrames_hangUp (t : Traffic) (i : Nat) (id : ClientId) :
    t.relay.counters.SameFrames (t.after (hangUp i id)).relay.counters := by
  have hdisconnect : t.relay.counters.SameFrames (t.step (.disconnect id)).relay.counters :=
    t.sameFrames_step _ rfl
  exact hdisconnect.trans ((t.step (.disconnect id)).sameFrames_step (.leave i) rfl)

/-- A text is counted, any other frame is not. -/
theorem counters_take (t : Traffic) (i : Nat) (id : ClientId) (frame : SocketFrame) :
    (∃ s, frame.signal? = some s ∧
        (t.after (take i id frame)).relay = (t.relay.dispatch id s).1) ∨
      frame.signal? = none ∧
        t.relay.counters.SameFrames (t.after (take i id frame)).relay.counters := by
  obtain ⟨s, hs, htake⟩ | ⟨hs, htake | htake⟩ := take_cases i id frame
  · rw [htake]
    exact .inl ⟨s, hs, t.relay_dispatch id s⟩
  · rw [htake]
    exact .inr ⟨hs, t.sameFrames_hangUp i id⟩
  · rw [htake]
    exact .inr ⟨hs, rfl, rfl⟩

end Traffic

/-! ## The ledger -/

/-- A frame that was read, with its fate. A frame without a text has none. -/
structure Heard where
  frame : SocketFrame
  fate : Option Fate

/-- A relay and its clients beside the record of all frames that it has read, oldest first. -/
structure Ledger where
  traffic : Traffic
  heard : List Heard := []

namespace Ledger

variable {l : Ledger}

/-- The frame that an event makes a loop read. -/
def hears (l : Ledger) : SocketEvent → List Heard
  | .hear i frame =>
    match l.traffic.listens? i with
    | none => []
    | some id => [⟨frame, frame.signal?.map (l.traffic.relay.fate id)⟩]
  | _ => []

def step (l : Ledger) (e : SocketEvent) : Ledger :=
  { traffic := l.traffic.serve e, heard := l.heard ++ l.hears e }

def after (l : Ledger) (es : List SocketEvent) : Ledger := es.foldl step l

def start (frameLimit : Nat) : Ledger := { traffic := .start frameLimit }

def counters (l : Ledger) : Counters := l.traffic.relay.counters

/-- The figures agree with the record. -/
structure Balanced (l : Ledger) : Prop where
  figure : ∀ f, l.counters.figure f = l.heard.countP fun h => h.fate = some f
  fate : ∀ h ∈ l.heard, h.fate.isSome = h.frame.signal?.isSome
  frames : l.counters.frames + l.heard.countP (·.frame.isGarbled) =
    l.heard.countP (·.frame.isData)

/-- An event counts the text that it makes a loop read, and nothing else. -/
theorem step_cases (l : Ledger) (e : SocketEvent) :
    (∃ frame f, l.hears e = [⟨frame, some f⟩] ∧ frame.signal?.isSome = true ∧
        (l.step e).counters = l.counters.record f) ∨
      l.counters.SameFrames (l.step e).counters ∧
        (l.hears e = [] ∨ ∃ frame, l.hears e = [⟨frame, none⟩] ∧ frame.signal? = none) := by
  cases e with
  | join capacity remote draws =>
      exact .inr ⟨l.traffic.sameFrames_step (.connect capacity remote draws) rfl, .inl rfl⟩
  | hear i frame =>
      simp only [counters, step, hears, Traffic.serve, Traffic.does]
      cases l.traffic.listens? i with
      | none => exact .inr ⟨⟨rfl, rfl⟩, .inl rfl⟩
      | some id =>
          obtain ⟨s, hs, hrelay⟩ | ⟨hs, hsame⟩ := l.traffic.counters_take i id frame
          · left
            refine ⟨frame, l.traffic.relay.fate id s, by rw [hs]; rfl, by rw [hs]; rfl, ?_⟩
            simp only [hrelay]
            exact l.traffic.relay.counters_dispatch id s
          · exact .inr ⟨hsame, .inr ⟨frame, by rw [hs]; rfl, hs⟩⟩
  | lose i =>
      right
      refine ⟨?_, .inl rfl⟩
      simp only [counters, step, Traffic.serve, Traffic.does]
      cases l.traffic.listens? i with
      | none => exact ⟨rfl, rfl⟩
      | some id => exact l.traffic.sameFrames_hangUp i id
  | write i => exact .inr ⟨l.traffic.sameFrames_step (.read i) rfl, .inl rfl⟩
  | stall i => exact .inr ⟨l.traffic.sameFrames_step (.leave i) rfl, .inl rfl⟩

/-- One more frame was read, and the figures have followed. -/
theorem Balanced.snoc (hl : l.Balanced) {l' : Ledger} {h : Heard}
    (hheard : l'.heard = l.heard ++ [h])
    (hfigure : ∀ f, l'.counters.figure f =
      if h.fate = some f then l.counters.figure f + 1 else l.counters.figure f)
    (hfate : h.fate.isSome = h.frame.signal?.isSome)
    (hframes : l'.counters.frames + [h].countP (·.frame.isGarbled) =
      l.counters.frames + [h].countP (·.frame.isData)) : l'.Balanced := by
  refine ⟨?_, ?_, ?_⟩
  · intro f
    rw [hheard, hfigure, hl.figure, List.countP_append, List.countP_singleton]
    by_cases hf : h.fate = some f <;> simp [hf]
  · rw [hheard]
    exact List.forall_mem_append.mpr ⟨hl.fate, List.forall_mem_singleton.mpr hfate⟩
  · have hbefore := hl.frames
    rw [hheard, List.countP_append, List.countP_append]
    omega

/-- What an event books is what it counts. -/
theorem Balanced.step (hl : l.Balanced) (e : SocketEvent) : (l.step e).Balanced := by
  have hheard : (l.step e).heard = l.heard ++ l.hears e := rfl
  obtain ⟨frame, f, hhears, htext, hcounters⟩ | ⟨hsame, hnone | ⟨frame, hone, htext⟩⟩ :=
    l.step_cases e
  · -- a text is data, and counted
    have hreadable : frame.isGarbled = false := by
      rw [SocketFrame.isGarbled, Option.isNone_eq_false_iff.mpr htext, Bool.and_false]
    have hdata : frame.isData = true := frame.isData_of_isSome htext
    rw [hhears] at hheard
    apply hl.snoc hheard
    · intro g
      rw [hcounters, Counters.figure_record]
      simp only [Option.some.injEq, eq_comm]
    · exact htext.symm
    · rw [hcounters, Counters.frames_record]
      simp [hreadable, hdata]
  · rw [hnone, List.append_nil] at hheard
    refine ⟨?_, ?_, ?_⟩
    · intro f
      rw [hheard, hsame.figure, hl.figure]
    · rw [hheard]
      exact hl.fate
    · rw [hheard, hsame.frames]
      exact hl.frames
  · -- without a text, the frame is data exactly if it is garbled
    have hgarbled : frame.isGarbled = frame.isData := by
      rw [SocketFrame.isGarbled, htext, Option.isNone_none, Bool.and_true]
    rw [hone] at hheard
    apply hl.snoc hheard
    · intro g
      rw [hsame.figure]
      rfl
    · rw [htext]
      rfl
    · rw [hsame.frames]
      simp [hgarbled]

theorem balanced_start (frameLimit : Nat) : (start frameLimit).Balanced where
  figure f := by cases f <;> rfl
  fate := fun h hh => by cases hh
  frames := rfl

/-- **The figures are the ledger's**, after any events. -/
theorem Balanced.after (hl : l.Balanced) (es : List SocketEvent) : (l.after es).Balanced := by
  induction es generalizing l with
  | nil => exact hl
  | cons e es ih => exact ih (hl.step e)

/-! ### What was counted, and why -/

/-- **What a relay counts.** Whatever is read from the sockets of its clients, a frame with a text
is counted exactly once, under the fate that it merits, and any other frame is not counted. So the
figures add up to the data frames that were read, but for those that are no text. -/
theorem accounts (frameLimit : Nat) (es : List SocketEvent) :
    let l := (start frameLimit).after es
    l.counters.frames + l.heard.countP (·.frame.isGarbled) = l.heard.countP (·.frame.isData) ∧
      (∀ f, l.counters.figure f = l.heard.countP fun h => h.fate = some f) ∧
      (∀ h ∈ l.heard, h.fate.isSome = h.frame.signal?.isSome) ∧
      ∀ i id, l.traffic.listens? i = some id → ∀ frame,
        let r := l.traffic.relay
        let l' := l.step (.hear i frame)
        l'.heard = l.heard ++ [⟨frame, frame.signal?.map (r.fate id)⟩] ∧
          (frame ≠ .close → l'.traffic.relay = r.readFrame id frame) ∧
          (frame = .close → l'.traffic.relay = (r.readFrame id .close).abandon i) ∧
          (∀ s, frame.signal? = some s →
            l'.counters = l.counters.record (r.fate id s) ∧
              r.Merits l'.traffic.relay id s (r.fate id s)) ∧
          (frame.signal? = none → l.counters.SameFrames l'.counters) := by
  intro l
  have hl : l.Balanced := (balanced_start frameLimit).after es
  refine ⟨hl.frames, hl.figure, hl.fate, ?_⟩
  intro i id hi frame r l'
  have hheard : l'.heard = l.heard ++ [⟨frame, frame.signal?.map (r.fate id)⟩] := by
    simp only [l', r, step, hears, hi]
  have hrelay : l'.traffic.relay = (l.traffic.after (Traffic.take i id frame)).relay := by
    simp only [l', step, Traffic.serve, Traffic.does, hi]
  refine ⟨hheard, ?_, ?_, ?_, ?_⟩
  · intro hframe
    rw [hrelay, l.traffic.relay_take i id hframe]
  · rintro rfl
    rw [hrelay, l.traffic.relay_take_close i id]
  · intro s hs
    obtain ⟨s', hs', htake⟩ | ⟨hnone, -⟩ := l.traffic.counters_take i id frame
    · obtain rfl : s = s' := Option.some.inj (hs.symm.trans hs')
      rw [counters, hrelay, htake]
      exact ⟨r.counters_dispatch id s, r.merits_fate id s⟩
    · rw [hs] at hnone
      cases hnone
  · intro hs
    obtain ⟨s', hs', -⟩ | ⟨-, hsame⟩ := l.traffic.counters_take i id frame
    · rw [hs] at hs'
      cases hs'
    · rw [counters, counters, hrelay]
      exact hsame

/-- A client sends two bytes that are no text. -/
def garbled : Ledger :=
  (start 65536).after [.join 256 none [⟨"a"⟩], .hear 0 (.binary ⟨#[0xc3, 0x28]⟩)]

/-- The frame was dropped, and nothing says so. -/
theorem accounts_garbled :
    garbled.heard.countP (·.frame.isData) = 1 ∧ garbled.counters.frames = 0 ∧
      garbled.counters.figure (.dropped .malformed) = 0 := by
  have hdata : garbled.heard.countP (·.frame.isData) = 1 := by cbv
  have hgarbled : garbled.heard.countP (·.frame.isGarbled) = 1 := by cbv
  have hfate : garbled.heard.countP (fun h => h.fate = some (.dropped .malformed)) = 0 := by cbv
  obtain ⟨hsum, hfigure, -⟩ := accounts 65536
    [.join 256 none [⟨"a"⟩], .hear 0 (.binary ⟨#[0xc3, 0x28]⟩)]
  refine ⟨hdata, ?_, (hfigure _).trans hfate⟩
  have htotal : garbled.counters.frames + garbled.heard.countP (·.frame.isGarbled) =
      garbled.heard.countP (·.frame.isData) := hsum
  omega

end Ledger

end Switchboard
