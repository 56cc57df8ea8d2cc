import Switchboard.Proofs.Relay.Accounts
import Switchboard.Proofs.Relay.Health
import Switchboard.Proofs.Wire.RoundTrip

/-!
# What the figures of a relay say

A relay beside an account of what was done at it: how many clients have connected, which frames
dispatching has put into outboxes, and what routing has answered where it did not. The account is
taken from the outboxes and from the answers, never from the figures.

At any time the figures are this account, and the gauge is the number of ids that are in use
(`Survey.figures_agree`).
-/

namespace Switchboard

/-! ## Frames in outboxes -/

namespace Outbox

/-- The frames that wait in outboxes behind those that waited in them before. -/
def gained (before after : List Outbox) : List String :=
  (before.zip after).flatMap fun p => p.2.frames.drop p.1.frames.length

theorem gained_self (os : List Outbox) : gained os os = [] := by
  induction os with
  | nil => rfl
  | cons o os ih =>
      rw [gained] at ih ⊢
      rw [List.zip_cons_cons, List.flatMap_cons, ih, List.drop_length, List.nil_append]

/-- One outbox takes a frame, and the others stay as they are. -/
theorem gained_set {os : List Outbox} {i : Nat} {o : Outbox} (ho : os[i]? = some o)
    (frame : String) : gained os (os.set i { o with frames := o.frames ++ [frame] }) = [frame] := by
  -- on the outboxes before the one that has gained the frame
  induction os generalizing i with
  | nil => cases ho
  | cons q os ih =>
      cases i with
      | zero =>
          cases ho
          rw [List.set_cons_zero, gained, List.zip_cons_cons, List.flatMap_cons]
          have hrest := gained_self os
          rw [gained] at hrest
          rw [hrest, List.drop_left, List.append_nil]
      | succ i =>
          have hrest := ih (i := i) ho
          rw [gained] at hrest
          rw [List.set_cons_succ, gained, List.zip_cons_cons, List.flatMap_cons, hrest,
            List.drop_length, List.nil_append]

end Outbox

def Message.kindOf? (frame : String) : Option MessageKind :=
  match decode frame with
  | .ok m => some m.kind
  | .error _ => none

/-! ## Ids in use -/

namespace Registry

def ids (g : Registry) : List ClientId := g.clients.map Prod.fst

theorem size_eq_length_ids (g : Registry) : g.size = g.ids.length := (List.length_map _).symm

/-- The ids in use are those that the registry contains. -/
theorem mem_ids_iff (g : Registry) (id : ClientId) : id ∈ g.ids ↔ g.contains id = true := by
  rw [contains, Option.isSome_iff_ne_none, ids, List.mem_map, find?, Ne, List.lookup_eq_none_iff]
  constructor
  · rintro ⟨c, hc, rfl⟩ hnone
    exact bne_iff_ne.mp (hnone c hc) rfl
  · intro hsome
    by_contra hnone
    refine hsome fun c hc => bne_iff_ne.mpr ?_
    rintro rfl
    exact hnone ⟨c, hc, rfl⟩

/-- A free id is used once. -/
theorem nodup_insert {g : Registry} (hg : g.ids.Nodup) {id : ClientId} (hfree : g.find? id = none)
    (h : Handle) : (g.insert id h).ids.Nodup := by
  refine List.nodup_cons.mpr ⟨?_, hg⟩
  rw [← ids, mem_ids_iff, contains, hfree]
  exact Bool.false_ne_true

theorem nodup_erase {g : Registry} (hg : g.ids.Nodup) (id : ClientId) : (g.erase id).ids.Nodup :=
  hg.sublist (List.filter_sublist.map _)

end Registry

/-! ## What the operations count -/

namespace Counters

theorem active_record (c : Counters) (f : Fate) : (c.record f).active = c.active := by
  cases f <;> rfl

theorem connects_record (c : Counters) (f : Fate) : (c.record f).connects = c.connects := by
  cases f <;> rfl

end Counters

namespace Relay

/-- What routing answers to a frame that it does not pass on. -/
def refusal? (r : Relay) (sender : ClientId) (text : String) : Option RouteError :=
  match r.route sender text with
  | .ok _ => none
  | .error e => some e

theorem counters_enroll (r : Relay) (id : ClientId) (h : Handle) :
    (r.enroll id h).counters = r.counters.connected (r.registry.insert id h).size := by
  show (r.welcome id h).counters.connected ((r.welcome id h).registry.insert id h).size = _
  rw [counters_welcome, registry_welcome]

/-- Only a client that is registered counts as going. -/
theorem counters_disconnect (r : Relay) (id : ClientId) :
    (r.disconnect id).counters =
      if r.registry.contains id then r.counters.disconnected (r.registry.erase id).size
      else r.counters := by
  unfold disconnect
  split <;> rfl

/-- Either one frame gets into an outbox, and it is counted by what it is; or routing refuses the
frame, and it is counted by the reason. -/
theorem dispatch_account (r : Relay) (sender : ClientId) (text : String) :
    (∃ frame topic, Outbox.gained r.outboxes (r.dispatch sender text).1.outboxes = [frame] ∧
        Message.kindOf? frame = some (.signal topic) ∧ r.refusal? sender text = none ∧
        r.fate sender text = .routed topic) ∨
      ∃ e, Outbox.gained r.outboxes (r.dispatch sender text).1.outboxes = [] ∧
        r.refusal? sender text = some e ∧ r.fate sender text = .dropped e.reason := by
  have hrefused : ∀ e, r.route sender text = .error e →
      Outbox.gained r.outboxes (r.dispatch sender text).1.outboxes = [] ∧
        r.refusal? sender text = some e ∧ r.fate sender text = .dropped e.reason := by
    intro e hr
    rw [dispatch, refusal?, fate, hr]
    exact ⟨Outbox.gained_self _, rfl, rfl⟩
  obtain ⟨e, hr⟩ | ⟨s, hm, hr⟩ := r.route_cases sender text
  · exact .inr ⟨e, hrefused e hr⟩
  · obtain ⟨e, hf⟩ | ⟨h, o, -, ho, -, -, hf⟩ := r.forward_cases s
    · exact .inr ⟨e, hrefused e (hr.trans hf)⟩
    · -- what was read from the text is read back from the frame
      have hread := Message.decode_encode_of_read (.inr ⟨sender, hm⟩)
      refine .inl ⟨(Message.signal s).encode, s.topic, ?_, ?_, ?_, ?_⟩
      · rw [dispatch, hr, hf]
        exact Outbox.gained_set ho _
      · rw [Message.kindOf?, hread]
        rfl
      · rw [refusal?, hr, hf]
      · rw [fate, hr, hf]

end Relay

/-! ## The account -/

/-- A relay beside an account of what was done at it. -/
structure Survey where
  relay : Relay
  /-- How many clients have connected. -/
  connects : Nat := 0
  dispatches : Nat := 0
  /-- The frames that dispatching has put into outboxes, oldest first. -/
  queued : List String := []
  /-- What routing has answered to frames that it did not pass on, oldest first. -/
  refused : List RouteError := []

namespace Survey

variable {t : Survey}

inductive Event where
  | connect (draws : List ClientId) (h : Handle)
  | disconnect (id : ClientId)
  | dispatch (sender : ClientId) (text : String)
  /-- Outboxes are opened, read or left, or their owners queue frames. -/
  | meanwhile (outboxes : List Outbox)

def step (t : Survey) : Event → Survey
  | .connect draws h =>
    match t.relay.connect draws h with
    | none => t
    | some (_, relay) => { t with relay, connects := t.connects + 1 }
  | .disconnect id => { t with relay := t.relay.disconnect id }
  | .dispatch sender text =>
    let relay := (t.relay.dispatch sender text).1
    { t with
      relay
      dispatches := t.dispatches + 1
      queued := t.queued ++ Outbox.gained t.relay.outboxes relay.outboxes
      refused := t.refused ++ (t.relay.refusal? sender text).toList }
  | .meanwhile outboxes => { t with relay := { t.relay with outboxes } }

def after (t : Survey) (es : List Event) : Survey := es.foldl step t

def start (frameLimit : Nat) : Survey := { relay := { frameLimit } }

/-! ### Clients -/

/-- What is counted of the clients is the account, and no id is in use twice. -/
structure Gauged (t : Survey) : Prop where
  distinct : t.relay.registry.ids.Nodup
  /-- Before the first client has connected there is nobody, and no gauge. -/
  vacant : t.connects = 0 → t.relay.registry = {}
  active : t.relay.counters.active =
    if t.connects = 0 then none else some t.relay.registry.size
  connects : t.relay.counters.connects = t.connects

/-- Who comes is counted as a client. -/
theorem Gauged.connect (ht : t.Gauged) (draws : List ClientId) (h : Handle) :
    (t.step (.connect draws h)).Gauged := by
  have hconnect := t.relay.connect_eq draws h
  cases hid : t.relay.registry.firstFree? draws with
  | none =>
      rw [hid, Option.map_none] at hconnect
      simpa only [step, hconnect] using ht
  | some id =>
      rw [hid, Option.map_some] at hconnect
      have hcounters := t.relay.counters_enroll id h
      have hregistry := t.relay.registry_enroll id h
      simp only [step, hconnect]
      -- the identity was free, so it is counted once
      refine ⟨?_, fun hnone => absurd hnone (Nat.succ_ne_zero _), ?_, ?_⟩
      · rw [hregistry]
        exact Registry.nodup_insert ht.distinct (Relay.find?_of_firstFree? hid) h
      · rw [hcounters, hregistry, if_neg (Nat.succ_ne_zero _)]
        rfl
      · rw [hcounters, ← ht.connects]
        rfl

/-- Who goes is counted as a client no more. -/
theorem Gauged.disconnect (ht : t.Gauged) (id : ClientId) :
    (t.step (.disconnect id)).Gauged := by
  by_cases hused : t.relay.registry.contains id = true
  · have hcounters := t.relay.counters_disconnect id
    rw [if_pos hused] at hcounters
    have hregistry := t.relay.registry_disconnect id
    -- somebody is registered, so the gauge was set before
    have hsome : t.connects ≠ 0 := by
      intro hnone
      rw [ht.vacant hnone] at hused
      cases hused
    simp only [step]
    refine ⟨?_, fun hnone => absurd hnone hsome, ?_, ?_⟩
    · rw [hregistry]
      exact Registry.nodup_erase ht.distinct id
    · rw [hcounters, hregistry, if_neg hsome]
      rfl
    · rw [hcounters]
      exact ht.connects
  · have hfree : t.relay.registry.find? id = none := by
      simpa [Registry.contains] using hused
    simpa only [step, Relay.disconnect_of_free hfree] using ht

/-- A frame is nobody's coming or going. -/
theorem Gauged.dispatch (ht : t.Gauged) (sender : ClientId) (text : String) :
    (t.step (.dispatch sender text)).Gauged := by
  have hregistry := t.relay.registry_dispatch sender text
  have hcounters := t.relay.counters_dispatch sender text
  simp only [step]
  refine ⟨?_, ?_, ?_, ?_⟩
  · rw [hregistry]
    exact ht.distinct
  · rw [hregistry]
    exact ht.vacant
  · rw [hcounters, Counters.active_record, hregistry]
    exact ht.active
  · rw [hcounters, Counters.connects_record]
    exact ht.connects

theorem Gauged.step (ht : t.Gauged) (e : Event) : (t.step e).Gauged := by
  cases e with
  | connect draws h => exact ht.connect draws h
  | disconnect id => exact ht.disconnect id
  | dispatch sender text => exact ht.dispatch sender text
  | meanwhile outboxes => exact ⟨ht.distinct, ht.vacant, ht.active, ht.connects⟩

/-! ### Frames -/

/-- How many frames the account has under a fate. -/
def booked (t : Survey) : Fate → Nat
  | .routed topic => t.queued.countP fun frame => Message.kindOf? frame = some (.signal topic)
  | .dropped reason => t.refused.countP fun e => e.reason = reason

/-- What is counted of the frames is the account, and every frame that was dispatched is on it. -/
structure Booked (t : Survey) : Prop where
  figure : ∀ f, t.relay.counters.figure f = t.booked f
  signals : ∀ frame ∈ t.queued, ∃ topic, Message.kindOf? frame = some (.signal topic)
  settled : t.queued.length + t.refused.length = t.dispatches
  frames : t.relay.counters.frames = t.dispatches

/-- Nothing is dispatched, and nothing is counted of frames. -/
theorem Booked.of_sameFrames (ht : t.Booked) {r : Relay}
    (h : t.relay.counters.SameFrames r.counters) (connects : Nat) :
    Booked { t with relay := r, connects } where
  figure f := (h.figure f).trans (ht.figure f)
  signals := ht.signals
  settled := ht.settled
  frames := h.frames.trans ht.frames

/-- A welcome is no routed frame. -/
theorem Booked.connect (ht : t.Booked) (draws : List ClientId) (h : Handle) :
    (t.step (.connect draws h)).Booked := by
  have hconnect := t.relay.connect_eq draws h
  cases hid : t.relay.registry.firstFree? draws with
  | none =>
      rw [hid, Option.map_none] at hconnect
      simpa only [step, hconnect] using ht
  | some id =>
      rw [hid, Option.map_some] at hconnect
      simp only [step, hconnect]
      apply ht.of_sameFrames
      rw [t.relay.counters_enroll]
      exact ⟨rfl, rfl⟩

/-- A frame that is dispatched gets on the account once, under its fate. -/
theorem booked_dispatch (t : Survey) (sender : ClientId) (text : String) (f : Fate) :
    (t.step (.dispatch sender text)).booked f =
      if f = t.relay.fate sender text then t.booked f + 1 else t.booked f := by
  obtain ⟨frame, topic, hgained, hkind, hrefusal, hfate⟩ | ⟨e, hgained, hrefusal, hfate⟩ :=
    t.relay.dispatch_account sender text
  · -- queued: the figure of its topic goes up, and none of the others
    rw [hfate]
    cases f with
    | routed topic' =>
        simp only [booked, step, hgained, List.countP_append, List.countP_singleton, hkind,
          Option.some.injEq, MessageKind.signal.injEq, Fate.routed.injEq, decide_eq_true_eq,
          eq_comm (a := topic')]
        split <;> rfl
    | dropped reason => simp [booked, step, hrefusal]
  · rw [hfate]
    cases f with
    | routed topic => simp [booked, step, hgained]
    | dropped reason =>
        simp only [booked, step, hrefusal, Option.toList_some, List.countP_append,
          List.countP_singleton, Fate.dropped.injEq, decide_eq_true_eq, eq_comm (a := reason)]
        split <;> rfl

/-- A frame that is routed is booked under its topic, one that is dropped under its reason. -/
theorem Booked.dispatch (ht : t.Booked) (sender : ClientId) (text : String) :
    (t.step (.dispatch sender text)).Booked := by
  have hcounters := t.relay.counters_dispatch sender text
  refine ⟨?_, ?_, ?_, ?_⟩
  · intro f
    rw [t.booked_dispatch, ← ht.figure]
    show (t.relay.dispatch sender text).1.counters.figure f = _
    rw [hcounters, Counters.figure_record]
  · obtain ⟨frame, topic, hgained, hkind, -⟩ | ⟨e, hgained, -⟩ :=
      t.relay.dispatch_account sender text
    · simp only [step, hgained]
      exact List.forall_mem_append.mpr ⟨ht.signals, List.forall_mem_singleton.mpr ⟨topic, hkind⟩⟩
    · simp only [step, hgained, List.append_nil]
      exact ht.signals
  · have hbefore := ht.settled
    obtain ⟨frame, topic, hgained, -, hrefusal, -⟩ | ⟨e, hgained, hrefusal, -⟩ :=
      t.relay.dispatch_account sender text <;>
    · simp only [step, hgained, hrefusal, List.length_append, Option.toList, List.length_cons,
        List.length_nil]
      omega
  · show (t.relay.dispatch sender text).1.counters.frames = t.dispatches + 1
    rw [hcounters, Counters.frames_record, ht.frames]

theorem Booked.step (ht : t.Booked) (e : Event) : (t.step e).Booked := by
  cases e with
  | connect draws h => exact ht.connect draws h
  | disconnect id => exact ht.of_sameFrames (t.relay.sameFrames_disconnect id) t.connects
  | dispatch sender text => exact ht.dispatch sender text
  | meanwhile outboxes =>
      exact ht.of_sameFrames (r := { t.relay with outboxes }) ⟨rfl, rfl⟩ t.connects

/-! ### Runs -/

theorem gauged_start (frameLimit : Nat) : (start frameLimit).Gauged where
  distinct := List.nodup_nil
  vacant _ := rfl
  active := rfl
  connects := rfl

theorem booked_start (frameLimit : Nat) : (start frameLimit).Booked where
  figure f := by cases f <;> rfl
  signals := fun _ h => by cases h
  settled := rfl
  frames := rfl

/-- **Every event keeps the figures what the account says.** -/
theorem agrees_after (ht : t.Gauged ∧ t.Booked) (es : List Event) :
    (t.after es).Gauged ∧ (t.after es).Booked := by
  induction es generalizing t with
  | nil => exact ht
  | cons e es ih => exact ih ⟨ht.1.step e, ht.2.step e⟩

/-! ## What the pages show -/

/-- **The figures of a relay agree with its state.** Once a client has connected the gauge is the
number of registered clients, which the page of health shows, too: there are as many ids in use. The
other figures are the clients that have connected, the frames of each topic that were put into
outboxes, and the frames that were refused for each reason; so they add up to the frames that were
dispatched. -/
theorem figures_agree (frameLimit : Nat) (es : List Event) :
    let t := (start frameLimit).after es
    let c := t.relay.counters
    (∃ ids : List ClientId, ids.Nodup ∧
        (∀ id, id ∈ ids ↔ t.relay.registry.contains id = true) ∧
        t.relay.registry.size = ids.length) ∧
      c.active = (if t.connects = 0 then none else some t.relay.registry.size) ∧
      (∀ s : Site, let page := s.answer t.relay { path := "/health" }
        page.status = 200 ∧ page.contentType = some "application/json" ∧
          Json.readWhole? Health.read page.body = .ok ⟨some t.relay.registry.size, "ok"⟩) ∧
      c.connects = t.connects ∧
      (∀ topic, c.routed topic =
        t.queued.countP fun frame => Message.kindOf? frame = some (.signal topic)) ∧
      (∀ frame ∈ t.queued, ∃ topic, Message.kindOf? frame = some (.signal topic)) ∧
      (∀ reason, c.dropped reason = t.refused.countP fun e => e.reason = reason) ∧
      t.queued.length + t.refused.length = t.dispatches ∧
      c.frames = t.dispatches := by
  intro t c
  obtain ⟨hgauged, hbooked⟩ := agrees_after ⟨gauged_start frameLimit, booked_start frameLimit⟩ es
  refine ⟨⟨t.relay.registry.ids, hgauged.distinct, t.relay.registry.mem_ids_iff,
    t.relay.registry.size_eq_length_ids⟩, hgauged.active, ?_, hgauged.connects, ?_,
    hbooked.signals, ?_, hbooked.settled, hbooked.frames⟩
  · exact fun s => health_answer s t.relay
  · exact fun topic => hbooked.figure (.routed topic)
  · exact fun reason => hbooked.figure (.dropped reason)

/-- Two clients connect, the second one after it has drawn the id of the first. Of two offers one is
passed on and one finds no room; then the second client leaves, and once more. -/
def briefEvents : List Event :=
  [.meanwhile [.ofCapacity 2, .ofCapacity 1],
    .connect [⟨"a"⟩] { outbox := 0 }, .connect [⟨"a"⟩, ⟨"b"⟩] { outbox := 1 },
    .dispatch ⟨"b"⟩ (Traffic.offerText ⟨"b"⟩ ⟨"a"⟩),
    .dispatch ⟨"b"⟩ (Traffic.offerText ⟨"b"⟩ ⟨"a"⟩),
    .disconnect ⟨"b"⟩, .disconnect ⟨"b"⟩, .dispatch ⟨"a"⟩ (Traffic.offerText ⟨"a"⟩ ⟨"b"⟩)]

def brief : Survey := (start 65536).after briefEvents

/-- One client is left, and the page of health says so. -/
theorem figures_agree_brief :
    (∃ s, Site.ofPath? "/ws" true = some s ∧
        Json.readWhole? Health.read (s.answer brief.relay { path := "/health" }).body =
          .ok ⟨some 1, "ok"⟩) ∧
      brief.relay.counters.active = some 1 ∧ brief.relay.counters.connects = 2 ∧
      brief.relay.counters.routed .offer = 1 ∧ brief.relay.counters.dropped .backlogged = 1 ∧
      brief.relay.counters.dropped .unknownRecipient = 1 ∧ brief.relay.counters.frames = 3 := by
  have hstand : (brief.relay.registry.size, brief.connects, brief.queued, brief.refused,
      brief.dispatches) = (1, 2, [Traffic.offerText ⟨"b"⟩ ⟨"a"⟩],
        [.backlogged ⟨"a"⟩, .unknownRecipient ⟨"b"⟩], 3) := by cbv
  simp only [Prod.mk.injEq] at hstand
  obtain ⟨hsize, hconnects, hqueued, hrefused, hdispatches⟩ := hstand
  obtain ⟨-, hactive, hhealth, hcount, hrouted, -, hdropped, -, hframes⟩ :=
    figures_agree 65536 briefEvents
  rw [← brief] at hactive hhealth hcount hrouted hdropped hframes
  refine ⟨?_, ?_, hcount.trans hconnects, (hrouted .offer).trans ?_, (hdropped .backlogged).trans ?_,
    (hdropped .unknownRecipient).trans ?_, hframes.trans hdispatches⟩
  · have hsome : (Site.ofPath? "/ws" true).isSome = true := by cbv
    obtain ⟨s, hs⟩ := Option.isSome_iff_exists.mp hsome
    exact ⟨s, hs, by rw [(hhealth s).2.2, hsize]⟩
  · rw [hactive, hconnects, hsize]
    rfl
  · rw [hqueued]
    cbv
  · rw [hrefused]
    rfl
  · rw [hrefused]
    rfl

end Survey

end Switchboard
