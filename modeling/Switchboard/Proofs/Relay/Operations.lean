import Switchboard.Relay.Routing

/-!
# What the operations of a relay do

Of every operation one lemma says what becomes of the outboxes and of the registry. What is counted
beside does not matter to either.
-/

namespace Switchboard

namespace Relay

variable {r r' : Relay}

/-! ## Queueing -/

/-- A frame is refused, or queued in an outbox that is read and has room. -/
theorem push_cases (r : Relay) (i : Nat) (frame : String) :
    (∃ e, r.push i frame = .error e) ∨
      ∃ o, r.outbox? i = some o ∧ o.abandoned = false ∧ o.frames.length < o.capacity ∧
        r.push i frame = .ok (r.setOutbox i { o with frames := o.frames ++ [frame] }) := by
  unfold push
  cases ho : r.outbox? i with
  | none => exact .inl ⟨_, rfl⟩
  | some o =>
      cases hp : o.push frame with
      | error e => exact .inl ⟨e, by simp only [hp]⟩
      | ok o' =>
          obtain ⟨hread, hroom, rfl⟩ := (Outbox.push_eq_ok_iff o o' frame).mp hp
          exact .inr ⟨o, rfl, hread, hroom, by simp only [hp]⟩

/-- An outbox refuses a frame when nobody reads it, and when it is full. -/
theorem push_error {i : Nat} {frame : String} {e : Undeliverable}
    (h : r.push i frame = .error e) :
    e = .gone ∧ (∀ o, r.outbox? i = some o → o.abandoned = true) ∨
      e = .backlogged ∧
        ∃ o, r.outbox? i = some o ∧ o.abandoned = false ∧ o.capacity ≤ o.frames.length := by
  unfold push at h
  cases ho : r.outbox? i with
  | none =>
      simp only [ho] at h
      cases h
      exact .inl ⟨rfl, fun o ho' => by cases ho'⟩
  | some o =>
      simp only [ho, Outbox.push] at h
      by_cases hgone : o.abandoned = true
      · rw [if_pos hgone] at h
        cases h
        left
        refine ⟨rfl, ?_⟩
        intro o' ho'
        cases ho'
        exact hgone
      · rw [if_neg hgone] at h
        by_cases hfull : o.capacity ≤ o.frames.length
        · rw [if_pos hfull] at h
          cases h
          exact .inr ⟨rfl, o, rfl, by simpa using hgone, hfull⟩
        · rw [if_neg hfull] at h
          cases h

theorem push_of_room {i : Nat} {o : Outbox} (ho : r.outbox? i = some o)
    (hread : o.abandoned = false) (hroom : o.frames.length < o.capacity) (frame : String) :
    r.push i frame = .ok (r.setOutbox i { o with frames := o.frames ++ [frame] }) := by
  have hp := (Outbox.push_eq_ok_iff o _ frame).mpr ⟨hread, hroom, rfl⟩
  simp only [push, ho, hp]

/-! ## Connecting -/

theorem find?_of_firstFree? {g : Registry} {draws : List ClientId} {id : ClientId}
    (h : g.firstFree? draws = some id) : g.find? id = none := by
  have hfree := List.find?_some h
  simpa [Registry.contains] using hfree

/-- Registering takes the first id that is free. -/
theorem register_eq (r : Relay) (draws : List ClientId) (h : Handle) :
    r.register draws h = (r.registry.firstFree? draws).map fun id =>
      (id, { r with registry := r.registry.insert id h }) := by
  unfold register registerWith reserve?
  cases r.registry.firstFree? draws <;> rfl

/-- A client is registered as `id` after its welcome. -/
def enroll (r : Relay) (id : ClientId) (h : Handle) : Relay :=
  let registry := (r.welcome id h).registry.insert id h
  { r.welcome id h with registry, counters := (r.welcome id h).counters.connected registry.size }

theorem registry_welcome (r : Relay) (id : ClientId) (h : Handle) :
    (r.welcome id h).registry = r.registry := by
  unfold welcome
  obtain ⟨e, hp⟩ | ⟨o, -, -, -, hp⟩ := r.push_cases h.outbox (Message.welcome id).encode
  · rw [hp]
  · rw [hp]
    rfl

theorem registry_enroll (r : Relay) (id : ClientId) (h : Handle) :
    (r.enroll id h).registry = r.registry.insert id h := by
  show (r.welcome id h).registry.insert id h = _
  rw [registry_welcome]

/-- Connecting takes the first id that is free, and welcomes under it. -/
theorem connect_eq (r : Relay) (draws : List ClientId) (h : Handle) :
    r.connect draws h = (r.registry.firstFree? draws).map fun id => (id, r.enroll id h) := by
  unfold connect registerWith reserve?
  cases r.registry.firstFree? draws <;> rfl

/-- The client is registered under a free id, after its welcome. -/
theorem connect_of_free {draws : List ClientId} {id : ClientId}
    (hfree : r.registry.firstFree? draws = some id) (h : Handle) :
    ∃ r', r.connect draws h = some (id, r') ∧
      r'.registry = (r.welcome id h).registry.insert id h ∧
      r'.outboxes = (r.welcome id h).outboxes := by
  rw [connect_eq, hfree]
  exact ⟨_, rfl, rfl, rfl⟩

/-- A client that connects has an outbox of its own with its welcome in it, and an id that nobody
else has. -/
theorem accept_cases (r : Relay) (capacity : Nat) (remote : Option Address.TransportAddress)
    (draws : List ClientId) :
    r.accept capacity remote draws = none ∨
      ∃ id r', r.accept capacity remote draws = some (id, r.outboxes.length, r') ∧
        r.registry.find? id = none ∧
        r'.registry = r.registry.insert id { outbox := r.outboxes.length, remote } ∧
        r'.outboxes = r.outboxes ++
          [{ capacity := max 1 capacity, frames := [(Message.welcome id).encode] }] := by
  cases hfree : r.registry.firstFree? draws with
  | none => left; simp [accept, openOutbox, connect_eq, hfree]
  | some id =>
      right
      have hopen : (r.openOutbox capacity).1.outbox? r.outboxes.length =
          some (.ofCapacity capacity) := by
        simp [outbox?, openOutbox]
      -- an outbox has room for the welcome, whatever capacity was asked for
      have hroom : (Outbox.ofCapacity capacity).frames.length <
          (Outbox.ofCapacity capacity).capacity := by
        show 0 < max 1 capacity
        omega
      have hpush := push_of_room hopen rfl hroom (Message.welcome id).encode
      obtain ⟨r', hr, hregistry, houtboxes⟩ := connect_of_free
        (r := (r.openOutbox capacity).1) hfree { outbox := r.outboxes.length, remote }
      rw [welcome, hpush] at hregistry houtboxes
      refine ⟨id, r', ?_, find?_of_firstFree? hfree, hregistry, ?_⟩
      · simp only [accept]
        rw [show (r.openOutbox capacity).2 = r.outboxes.length from rfl, hr]
      · rw [houtboxes]
        simp [setOutbox, openOutbox, Outbox.ofCapacity]

/-! ## Disconnecting -/

theorem outboxes_disconnect (r : Relay) (id : ClientId) :
    (r.disconnect id).outboxes = r.outboxes := by
  unfold disconnect
  split <;> rfl

/-! ### Ids that are free -/

/-- Forgetting nobody changes nothing. -/
theorem erase_of_free {g : Registry} {id : ClientId} (hfree : g.find? id = none) :
    g.erase id = g := by
  obtain ⟨cs⟩ := g
  rw [Registry.erase, Registry.mk.injEq, List.filter_eq_self]
  intro c hc
  have hne := bne_iff_ne.mp (List.lookup_eq_none_iff.mp hfree c hc)
  exact decide_eq_true hne.symm

theorem unregister_of_free {id : ClientId} (hfree : r.registry.find? id = none) :
    r.unregister id = r := by
  rw [unregister, erase_of_free hfree]

theorem disconnect_of_free {id : ClientId} (hfree : r.registry.find? id = none) :
    r.disconnect id = r := by
  rw [disconnect, if_neg (by simp [Registry.contains, hfree])]

/-- Disconnecting forgets the id, if it is in use. -/
theorem registry_disconnect (r : Relay) (id : ClientId) :
    (r.disconnect id).registry = r.registry.erase id := by
  cases hfind : r.registry.find? id with
  | none => rw [disconnect_of_free hfind, erase_of_free hfind]
  | some h =>
      rw [disconnect, if_pos (by simp [Registry.contains, hfind])]
      rfl

/-- Whoever had the id is forgotten; forgetting nobody is as good. -/
theorem find?_disconnect (r : Relay) (id id' : ClientId) :
    (r.disconnect id).registry.find? id' = if id' = id then none else r.registry.find? id' := by
  rw [registry_disconnect, Registry.find?_erase]

/-! ## Dispatching -/

/-- A signal finds nobody who reads it, or no room, or it is queued for the client that has the id
of its recipient. -/
theorem forward_outcomes (r : Relay) (s : Signal) :
    (r.forward s = .error (.unknownRecipient s.recipient) ∧
        ∀ h o, r.registry.find? s.recipient = some h → r.outbox? h.outbox = some o →
          o.abandoned = true) ∨
      (∃ h o, r.forward s = .error (.backlogged s.recipient) ∧
        r.registry.find? s.recipient = some h ∧ r.outbox? h.outbox = some o ∧
        o.abandoned = false ∧ o.capacity ≤ o.frames.length) ∨
      ∃ h o, r.registry.find? s.recipient = some h ∧ r.outbox? h.outbox = some o ∧
        o.abandoned = false ∧ o.frames.length < o.capacity ∧
        r.forward s = .ok (⟨s.topic, s.sender, s.recipient⟩,
          r.setOutbox h.outbox { o with frames := o.frames ++ [(Message.signal s).encode] }) := by
  unfold forward
  cases hfind : r.registry.find? s.recipient with
  | none =>
      left
      refine ⟨rfl, ?_⟩
      intro h o hh
      cases hh
  | some h =>
      -- for whom it is known, it is up to the outbox
      obtain ⟨e, hp⟩ | ⟨o, ho, hread, hroom, hp⟩ :=
        r.push_cases h.outbox (Message.signal s).encode
      · obtain ⟨rfl, hgone⟩ | ⟨rfl, o, ho, hread, hfull⟩ := push_error hp
        · left
          simp only [hp]
          refine ⟨trivial, ?_⟩
          intro h' o hh ho
          cases hh
          exact hgone o ho
        · right; left
          simp only [hp]
          exact ⟨h, o, trivial, rfl, ho, hread, hfull⟩
      · right; right
        simp only [hp]
        exact ⟨h, o, rfl, ho, hread, hroom, rfl⟩

/-- A signal is refused, or queued for the client that has the id of its recipient. -/
theorem forward_cases (r : Relay) (s : Signal) :
    (∃ e, r.forward s = .error e) ∨
      ∃ h o, r.registry.find? s.recipient = some h ∧ r.outbox? h.outbox = some o ∧
        o.abandoned = false ∧ o.frames.length < o.capacity ∧
        r.forward s = .ok (⟨s.topic, s.sender, s.recipient⟩,
          r.setOutbox h.outbox { o with frames := o.frames ++ [(Message.signal s).encode] }) := by
  obtain ⟨hf, -⟩ | ⟨h, o, hf, -⟩ | hqueued := r.forward_outcomes s
  · exact .inl ⟨_, hf⟩
  · exact .inl ⟨_, hf⟩
  · exact .inr hqueued

/-! ### Whole frames -/

/-- Only a signal gets as far as to be forwarded. -/
theorem route_cases (r : Relay) (sender : ClientId) (text : String) :
    (∃ e, r.route sender text = .error e) ∨
      ∃ s, Message.receive sender text = .ok (.signal s) ∧
        r.route sender text = r.forward s := by
  unfold route
  split
  · exact .inl ⟨_, rfl⟩
  · cases Message.receive sender text with
    | error e => exact .inl ⟨_, rfl⟩
    | ok m =>
        cases m with
        | welcome id => exact .inl ⟨_, rfl⟩
        | signal s => exact .inr ⟨s, rfl, rfl⟩

/-- Frames change nobody's registration. -/
theorem registry_dispatch (r : Relay) (sender : ClientId) (text : String) :
    (r.dispatch sender text).1.registry = r.registry := by
  unfold dispatch
  obtain ⟨e, hr⟩ | ⟨s, -, hr⟩ := r.route_cases sender text
  · rw [hr]; rfl
  · rw [hr]
    obtain ⟨e, hf⟩ | ⟨h, o, -, -, -, -, hf⟩ := r.forward_cases s <;> rw [hf] <;> rfl

/-- A frame that came from `sender` is dropped, or it is a signal and is queued for the client that
has the id of its recipient. -/
theorem dispatch_cases (r : Relay) (sender : ClientId) (text : String) :
    ((r.dispatch sender text).2 = none ∧ (r.dispatch sender text).1.outboxes = r.outboxes) ∨
      ∃ s h o, Message.receive sender text = .ok (.signal s) ∧
        r.registry.find? s.recipient = some h ∧ r.outbox? h.outbox = some o ∧
        o.abandoned = false ∧ o.frames.length < o.capacity ∧
        (r.dispatch sender text).2 = some ⟨s.topic, s.sender, s.recipient⟩ ∧
        (r.dispatch sender text).1.outboxes = r.outboxes.set h.outbox
          { o with frames := o.frames ++ [(Message.signal s).encode] } := by
  unfold dispatch
  obtain ⟨e, hr⟩ | ⟨s, hm, hr⟩ := r.route_cases sender text
  · rw [hr]
    exact .inl ⟨rfl, rfl⟩
  · rw [hr]
    obtain ⟨e, hf⟩ | ⟨h, o, hfind, ho, hread, hroom, hf⟩ := r.forward_cases s
    · rw [hf]
      exact .inl ⟨rfl, rfl⟩
    · rw [hf]
      exact .inr ⟨s, h, o, hm, hfind, ho, hread, hroom, rfl, rfl⟩

/-! ## Reading -/

/-- Reading takes the oldest frame out of an outbox, if there is one. -/
theorem takeFrame?_cases (r : Relay) (i : Nat) :
    r.takeFrame? i = none ∨
      ∃ o frame frames, r.outbox? i = some o ∧ o.frames = frame :: frames ∧
        r.takeFrame? i = some (frame, r.setOutbox i { o with frames := frames }) := by
  unfold takeFrame?
  cases ho : r.outbox? i with
  | none => exact .inl rfl
  | some o =>
      cases hf : o.frames with
      | nil => exact .inl (by simp [Outbox.next?, hf])
      | cons frame frames =>
          exact .inr ⟨o, frame, frames, rfl, hf, by simp [Outbox.next?, hf]⟩

end Relay

end Switchboard
