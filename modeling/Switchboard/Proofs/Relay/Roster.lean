import Mathlib.Data.Stream.Init
import Switchboard.Proofs.Relay.Operations
import Switchboard.Proofs.Wire.RoundTrip

/-!
# Who is registered

A relay beside a record of everybody who was ever registered at it. The ids are drawn from a stream
about which nothing is known: it may hold the same id again and again. A registration draws until it
hits an id that is not in use, and goes on for ever if the rest of the stream has none.

The registry is at any time the list of those who are registered still (`Kept`), and no two of them
have the same id. The rest is read off from that.
-/

namespace Switchboard

/-- A client that was registered at some time, and what it was registered as. -/
structure Entrant where
  id : ClientId
  handle : Handle
  /-- It was not unregistered since. -/
  live : Bool := true
deriving DecidableEq, Repr

namespace Entrant

/-- Note that whoever is registered as `id` is unregistered. -/
def forget (id : ClientId) (c : Entrant) : Entrant :=
  if c.id = id then { c with live := false } else c

def entry (c : Entrant) : ClientId × Handle := (c.id, c.handle)

end Entrant

/-- A relay, the ids that will be drawn, and everybody who was ever registered, newest first. -/
structure Roster where
  relay : Relay
  source : Stream' ClientId
  entrants : List Entrant := []

namespace Roster

def live (t : Roster) : List Entrant := t.entrants.filter (·.live)

inductive Event where
  /-- A client is registered, without a welcome. -/
  | register (h : Handle)
  | connect (h : Handle)
  | unregister (id : ClientId)
  | disconnect (id : ClientId)
  /-- An id is resolved, a frame is queued or read, an outbox is opened or left. -/
  | traffic
deriving DecidableEq, Repr

/-- After some draws a client was registered. -/
def enter (t : Roster) (draws : Nat) (id : ClientId) (h : Handle) (relay : Relay) : Roster :=
  { relay, source := t.source.drop draws, entrants := { id, handle := h } :: t.entrants }

/-- Whoever was registered as `id` is so no longer. -/
def part (t : Roster) (id : ClientId) (relay : Relay) : Roster :=
  { t with relay, entrants := t.entrants.map (Entrant.forget id) }

/-- A registration draws as long as what it has drawn is not enough. -/
inductive Step (t : Roster) : Event → Roster → Prop
  -- the client is recorded under the id that the registration has given back
  | register {h : Handle} {k : Nat} {id : ClientId} {r : Relay}
      (hagain : t.relay.register (t.source.take k) h = none)
      (hdone : t.relay.register (t.source.take (k + 1)) h = some (id, r)) :
      Step t (.register h) (t.enter (k + 1) id h r)
  | connect {h : Handle} {k : Nat} {id : ClientId} {r : Relay}
      (hagain : t.relay.connect (t.source.take k) h = none)
      (hdone : t.relay.connect (t.source.take (k + 1)) h = some (id, r)) :
      Step t (.connect h) (t.enter (k + 1) id h r)
  | unregister {id : ClientId} : Step t (.unregister id) (t.part id (t.relay.unregister id))
  | disconnect {id : ClientId} : Step t (.disconnect id) (t.part id (t.relay.disconnect id))
  | traffic {r : Relay} (h : r.registry = t.relay.registry) : Step t .traffic { t with relay := r }

/-- Some events lead from a relay without clients to `t`. -/
inductive Reachable : Roster → Prop
  | start (relay : Relay) (source : Stream' ClientId) (h : relay.registry = {}) :
      Reachable { relay, source }
  | step {t t' : Roster} {e : Event} (ht : Reachable t) (h : Step t e t') : Reachable t'

/-! ## Drawing -/

/-- Draw number `k` is the first that hits an id which is not in use, and the id is `id`. -/
structure FirstFree (g : Registry) (source : Stream' ClientId) (k : Nat) (id : ClientId) : Prop where
  drawn : source.get k = id
  free : g.find? id = none
  earlier : ∀ j < k, g.contains (source.get j) = true

variable {g : Registry} {source : Stream' ClientId} {k : Nat} {id : ClientId}

theorem firstFree?_take_eq_none_iff :
    g.firstFree? (source.take k) = none ↔ ∀ j < k, g.contains (source.get j) = true := by
  induction k with
  | zero => simp [Registry.firstFree?]
  | succ k ih =>
      rw [Registry.firstFree?] at ih ⊢
      rw [Stream'.take_succ', List.find?_append, Option.or_eq_none_iff, ih, Nat.forall_lt_succ_right]
      simp

/-- One more draw is enough exactly when it hits an id that is not in use. -/
theorem firstFree?_take_succ (h : g.firstFree? (source.take k) = none) :
    g.firstFree? (source.take (k + 1)) = some id ↔ source.get k = id ∧ g.find? id = none := by
  rw [Registry.firstFree?] at h ⊢
  rw [Stream'.take_succ', List.find?_append, h, Option.none_or, List.find?_singleton]
  cases hg : g.find? (source.get k) with
  | none =>
      simp only [Registry.contains, hg]
      constructor
      · intro hid
        cases hid
        exact ⟨rfl, hg⟩
      · rintro ⟨rfl, -⟩
        rfl
  | some h' =>
      simp only [Registry.contains, hg]
      constructor
      · intro hid
        cases hid
      · rintro ⟨rfl, hfree⟩
        rw [hg] at hfree
        cases hfree

/-- The draws of a registration end at the first id that is not in use. -/
theorem firstFree_iff :
    FirstFree g source k id ↔
      g.firstFree? (source.take k) = none ∧ g.firstFree? (source.take (k + 1)) = some id := by
  constructor
  · rintro ⟨hdrawn, hfree, hearlier⟩
    have hnone := firstFree?_take_eq_none_iff.mpr hearlier
    exact ⟨hnone, (firstFree?_take_succ hnone).mpr ⟨hdrawn, hfree⟩⟩
  · rintro ⟨hnone, hsome⟩
    obtain ⟨hdrawn, hfree⟩ := (firstFree?_take_succ hnone).mp hsome
    exact ⟨hdrawn, hfree, firstFree?_take_eq_none_iff.mp hnone⟩

/-- If any id of the stream is not in use, one of them is the first. -/
theorem exists_firstFree (h : ∃ k, g.find? (source.get k) = none) :
    ∃ k id, FirstFree g source k id := by
  classical
  refine ⟨Nat.find h, _, rfl, Nat.find_spec h, fun j hj => ?_⟩
  have hused := Nat.find_min h hj
  rwa [Registry.contains, Option.isSome_iff_ne_none]

/-! ## Steps -/

variable {t t' : Roster} {e : Event} {h : Handle}

/-- What is made of the id that was drawn does not matter to the draws. -/
theorem draws_iff {op : List ClientId → Option (ClientId × Relay)} {f : ClientId → Relay}
    (hop : ∀ draws, op draws = (g.firstFree? draws).map fun id => (id, f id)) {r : Relay} :
    op (source.take k) = none ∧ op (source.take (k + 1)) = some (id, r) ↔
      FirstFree g source k id ∧ r = f id := by
  rw [firstFree_iff, hop, hop, Option.map_eq_none_iff, Option.map_eq_some_iff, and_assoc]
  refine and_congr_right fun _ => ?_
  constructor
  · rintro ⟨id', hsome, hx⟩
    cases hx
    exact ⟨hsome, rfl⟩
  · rintro ⟨hsome, rfl⟩
    exact ⟨id, hsome, rfl⟩

/-- A registration takes the first id of the stream that is free. -/
theorem step_register_iff :
    Step t (.register h) t' ↔ ∃ k id, FirstFree t.relay.registry t.source k id ∧
      t' = t.enter (k + 1) id h { t.relay with registry := t.relay.registry.insert id h } := by
  have hop := fun draws => t.relay.register_eq draws h
  constructor
  · intro hs
    cases hs with
    | @register _ k id r hagain hdone =>
        obtain ⟨hid, rfl⟩ := (draws_iff hop).mp ⟨hagain, hdone⟩
        exact ⟨k, id, hid, rfl⟩
  · rintro ⟨k, id, hid, rfl⟩
    obtain ⟨hagain, hdone⟩ := (draws_iff hop).mpr ⟨hid, rfl⟩
    exact .register hagain hdone

/-- A connection takes the first free id as well, and is welcomed before it can be found. -/
theorem step_connect_iff :
    Step t (.connect h) t' ↔ ∃ k id, FirstFree t.relay.registry t.source k id ∧
      t' = t.enter (k + 1) id h (t.relay.enroll id h) := by
  have hop := fun draws => t.relay.connect_eq draws h
  constructor
  · intro hs
    cases hs with
    | @connect _ k id r hagain hdone =>
        obtain ⟨hid, rfl⟩ := (draws_iff hop).mp ⟨hagain, hdone⟩
        exact ⟨k, id, hid, rfl⟩
  · rintro ⟨k, id, hid, rfl⟩
    obtain ⟨hagain, hdone⟩ := (draws_iff hop).mpr ⟨hid, rfl⟩
    exact .connect hagain hdone

/-- A registration comes to its end exactly if the rest of the stream has an id that is not in use.
-/
theorem exists_step_iff (he : e = .register h ∨ e = .connect h) :
    (∃ t', Step t e t') ↔ ∃ k, t.relay.registry.find? (t.source.get k) = none := by
  -- both ways to register depend on the draws alone
  have hdraws : (∃ t', Step t e t') ↔ ∃ k id, FirstFree t.relay.registry t.source k id := by
    obtain rfl | rfl := he
    · simp only [step_register_iff]
      exact ⟨fun ⟨_, k, id, hid, _⟩ => ⟨k, id, hid⟩, fun ⟨k, id, hid⟩ => ⟨_, k, id, hid, rfl⟩⟩
    · simp only [step_connect_iff]
      exact ⟨fun ⟨_, k, id, hid, _⟩ => ⟨k, id, hid⟩, fun ⟨k, id, hid⟩ => ⟨_, k, id, hid, rfl⟩⟩
  rw [hdraws]
  refine ⟨?_, exists_firstFree⟩
  rintro ⟨k, id, hid⟩
  exact ⟨k, by rw [hid.drawn, hid.free]⟩

/-! ## Those who are registered -/

/-! ### Looking up -/

theorem find?_entries {cs : List Entrant} (hcs : (cs.map (·.id)).Nodup) (id : ClientId)
    (h : Handle) :
    Registry.find? ⟨cs.map Entrant.entry⟩ id = some h ↔ ∃ c ∈ cs, c.id = id ∧ c.handle = h := by
  induction cs with
  | nil => simp [Registry.find?]
  | cons c cs ih =>
      obtain ⟨hc, hcs⟩ := List.nodup_cons.mp hcs
      show (Registry.insert ⟨cs.map Entrant.entry⟩ c.id c.handle).find? id = some h ↔ _
      rw [Registry.find?_insert]
      -- the first entry under an identity is the only one, since no two share it
      by_cases hid : id = c.id
      · subst hid
        rw [if_pos rfl, Option.some.injEq]
        constructor
        · intro hh
          exact ⟨c, List.mem_cons_self, rfl, hh⟩
        · rintro ⟨c', hc', hsame, hh⟩
          obtain rfl | hc' := List.mem_cons.mp hc'
          · exact hh
          · exact absurd (List.mem_map.mpr ⟨c', hc', hsame⟩) hc
      · rw [if_neg hid, ih hcs]
        constructor
        · rintro ⟨c', hc', hh⟩
          exact ⟨c', List.mem_cons_of_mem c hc', hh⟩
        · rintro ⟨c', hc', rfl, hh⟩
          obtain rfl | hc' := List.mem_cons.mp hc'
          · exact absurd rfl hid
          · exact ⟨c', hc', rfl, hh⟩

/-- The registry is the list of those who are registered, and no two of them have the same id. -/
structure Kept (t : Roster) : Prop where
  entries : t.relay.registry = ⟨t.live.map Entrant.entry⟩
  distinct : (t.live.map (·.id)).Nodup

namespace Kept

/-- An id leads to the live client that was given it. -/
theorem find?_iff (ht : t.Kept) (id : ClientId) (h : Handle) :
    t.relay.registry.find? id = some h ↔ ∃ c ∈ t.live, c.id = id ∧ c.handle = h := by
  rw [ht.entries]
  exact find?_entries ht.distinct id h

theorem not_mem_of_free (ht : t.Kept) (hfree : t.relay.registry.find? id = none) :
    ∀ c ∈ t.live, c.id ≠ id := by
  rintro c hc rfl
  have hfind := (ht.find?_iff c.id c.handle).mpr ⟨c, hc, rfl, rfl⟩
  rw [hfree] at hfind
  cases hfind

/-- A client that enters is one more under an id that nobody else has. -/
theorem enter (ht : t.Kept) (hfree : t.relay.registry.find? id = none) {r : Relay}
    (hr : r.registry = t.relay.registry.insert id h) (draws : Nat) :
    (t.enter draws id h r).Kept where
  entries := by
    show r.registry = _
    rw [hr, ht.entries]
    rfl
  distinct := by
    show ((({ id, handle := h } : Entrant) :: t.live).map (·.id)).Nodup
    rw [List.map_cons, List.nodup_cons]
    refine ⟨?_, ht.distinct⟩
    intro hmem
    obtain ⟨c, hc, hid⟩ := List.mem_map.mp hmem
    exact ht.not_mem_of_free hfree c hc hid

end Kept

theorem filter_live_forget (cs : List Entrant) (id : ClientId) :
    (cs.map (Entrant.forget id)).filter (·.live) =
      (cs.filter (·.live)).filter fun c => c.id ≠ id := by
  induction cs with
  | nil => rfl
  | cons c cs ih =>
      -- one with the id drops out whether it is live or not, and another stays what it is
      obtain ⟨cid, handle, live⟩ := c
      by_cases hid : cid = id <;> cases live <;> simp [Entrant.forget, hid, ih]

theorem live_part (t : Roster) (id : ClientId) (r : Relay) :
    (t.part id r).live = t.live.filter fun c => c.id ≠ id := filter_live_forget t.entrants id

/-! ### Every step -/

/-- One who parts is missing in the registry, and so is nobody else. -/
theorem Kept.part (ht : t.Kept) {r : Relay} (hr : r.registry = t.relay.registry.erase id) :
    (t.part id r).Kept where
  entries := by
    show r.registry = _
    rw [hr, ht.entries, live_part, Registry.erase, List.filter_map]
    rfl
  distinct := by
    rw [live_part]
    exact ht.distinct.sublist (List.filter_sublist.map _)

/-- **Every event keeps the registry the list of those who are registered.** -/
theorem Kept.step (ht : t.Kept) (hs : Step t e t') : t'.Kept := by
  -- two ways in, two ways out, and traffic that leaves the roster as it is
  cases e with
  | register h =>
      obtain ⟨k, id, hid, rfl⟩ := step_register_iff.mp hs
      exact ht.enter hid.free rfl (k + 1)
  | connect h =>
      obtain ⟨k, id, hid, rfl⟩ := step_connect_iff.mp hs
      exact ht.enter hid.free (t.relay.registry_enroll id h) (k + 1)
  | unregister id =>
      cases hs
      exact ht.part rfl
  | disconnect id =>
      cases hs
      exact ht.part (t.relay.registry_disconnect id)
  | traffic =>
      cases hs with
      | traffic hr => exact ⟨hr.trans ht.entries, ht.distinct⟩

/-- **The registry and the book of clients agree** in any run. -/
theorem Reachable.kept (ht : t.Reachable) : t.Kept := by
  induction ht with
  | start relay source h => exact ⟨h, List.nodup_nil⟩
  | step _ hs ih => exact ih.step hs

/-! ## Entering and parting -/

/-- `t'` is `t` after a client was registered as `id`, which is the first id of the stream that was
not in use. -/
structure Enters (t : Roster) (id : ClientId) (h : Handle) (t' : Roster) : Prop where
  entrants : t'.entrants = { id, handle := h } :: t.entrants
  drawn : ∃ k, FirstFree t.relay.registry t.source k id ∧ t'.source = t.source.drop (k + 1)
  handles : ∀ id', t'.relay.registry.find? id' =
    if id' = id then some h else t.relay.registry.find? id'

/-- `t'` is `t` after `id` has ceased to be in use. -/
structure Parts (t : Roster) (id : ClientId) (t' : Roster) : Prop where
  entrants : t'.entrants = t.entrants.map (Entrant.forget id)
  handles : ∀ id', t'.relay.registry.find? id' =
    if id' = id then none else t.relay.registry.find? id'
  outboxes : t'.relay.outboxes = t.relay.outboxes
  unknown : t.relay.registry.find? id = none → t' = t

/-- The welcome is queued after its id was reserved and before the id can be found, and only once:
in the outbox of the client, if that is read and has room. -/
structure Welcomes (r : Relay) (id : ClientId) (h : Handle) (r' : Relay) : Prop where
  hidden : ∃ draws v, r.reserve? draws h = some v ∧ v.id = id ∧
    (v.prepare Relay.welcome).relay.registry.find? id = none ∧
    r'.outboxes = (v.prepare Relay.welcome).relay.outboxes ∧
    r.connect draws h = some (id, r')
  once : ∀ o, r.outbox? h.outbox = some o → o.abandoned = false →
    o.frames.length < o.capacity →
    ∃ frame, Message.decode frame = .ok (.welcome id) ∧
      r'.outboxes = r.outboxes.set h.outbox { o with frames := o.frames ++ [frame] }
  lost : (∀ o, r.outbox? h.outbox = some o →
    o.abandoned = true ∨ o.capacity ≤ o.frames.length) → r'.outboxes = r.outboxes

/-- The welcome is queued before the id can be found. -/
theorem welcomes_enroll {r : Relay} (hfree : r.registry.find? id = none) (h : Handle) :
    Welcomes r id h (r.enroll id h) where
  hidden := by
    have hfirst : r.registry.firstFree? [id] = some id := by
      simp [Registry.firstFree?, Registry.contains, hfree]
    have hreserve : r.reserve? [id] h = some ⟨r, id, h⟩ := by rw [Relay.reserve?, hfirst]; rfl
    refine ⟨[id], ⟨r, id, h⟩, hreserve, rfl, ?_, rfl, by rw [r.connect_eq, hfirst]; rfl⟩
    show (r.welcome id h).registry.find? id = none
    rw [r.registry_welcome, hfree]
  once := by
    intro o ho hread hroom
    refine ⟨(Message.welcome id).encode, Message.decode_encode_welcome id, ?_⟩
    show (r.welcome id h).outboxes = _
    rw [Relay.welcome, Relay.push_of_room ho hread hroom]
    rfl
  lost := by
    intro hfull
    -- the welcome meets the same outbox, and nothing is made of its refusal
    show (r.welcome id h).outboxes = _
    rw [Relay.welcome]
    obtain ⟨e, hp⟩ | ⟨o, ho, hread, hroom, -⟩ := r.push_cases h.outbox (Message.welcome id).encode
    · rw [hp]
    · obtain hgone | hfull := hfull o ho
      · rw [hread] at hgone
        cases hgone
      · omega

theorem forget_of_ne {c : Entrant} (h : c.live = true → c.id ≠ id) : c.forget id = c := by
  obtain ⟨cid, handle, live⟩ := c
  unfold Entrant.forget
  split
  · next hid =>
      cases live
      · rfl
      · exact absurd hid (h rfl)
  · rfl

/-- An id that is not in use parts without a trace. -/
theorem Kept.part_of_free (ht : t.Kept) (hfree : t.relay.registry.find? id = none) :
    t.part id t.relay = t := by
  have hsame : t.entrants.map (Entrant.forget id) = t.entrants := by
    refine (List.map_congr_left fun c hc => forget_of_ne fun hlive => ?_).trans (List.map_id _)
    exact ht.not_mem_of_free hfree c (List.mem_filter.mpr ⟨hc, hlive⟩)
  rw [Roster.part, hsame]

theorem enters_of_firstFree (hid : FirstFree t.relay.registry t.source k id) {r : Relay}
    (hr : r.registry = t.relay.registry.insert id h) : Enters t id h (t.enter (k + 1) id h r) where
  entrants := rfl
  drawn := ⟨k, hid, rfl⟩
  handles := fun id' => by
    show r.registry.find? id' = _
    rw [hr, Registry.find?_insert]

theorem Kept.parts (ht : t.Kept) {r : Relay} (hr : r.registry = t.relay.registry.erase id)
    (houtboxes : r.outboxes = t.relay.outboxes)
    (hsame : t.relay.registry.find? id = none → r = t.relay) : Parts t id (t.part id r) where
  entrants := rfl
  handles := fun id' => by
    show r.registry.find? id' = _
    rw [hr, Registry.find?_erase]
  outboxes := houtboxes
  unknown := fun hfree => by rw [hsame hfree, ht.part_of_free hfree]

/-! ## Whole runs -/

/-- **Ids tell clients apart.** Whatever ids are drawn, those who are registered have different ids,
and an id resolves to the handle of the one that was given it and was not unregistered since. A
registration goes on until it draws an id that is not in use, and touches no other; so does the end
of one, which changes nothing for an id that is not in use. Whoever connects has its welcome queued
under the id that it will have, before the id resolves, unless its outbox does not take it. -/
theorem ids_distinguish (ht : t.Reachable) :
    (t.live.map (·.id)).Nodup ∧
      (∀ id h, t.relay.registry.find? id = some h ↔ ∃ c ∈ t.live, c.id = id ∧ c.handle = h) ∧
      t.relay.registry.size = t.live.length ∧
      (∀ h e, e = .register h ∨ e = .connect h →
        ((∃ t', Step t e t') ↔ ∃ k, t.relay.registry.find? (t.source.get k) = none)) ∧
      (∀ h t', Step t (.register h) t' →
        ∃ id, Enters t id h t' ∧ t'.relay.outboxes = t.relay.outboxes) ∧
      (∀ h t', Step t (.connect h) t' →
        ∃ id, Enters t id h t' ∧ Welcomes t.relay id h t'.relay) ∧
      ∀ id e t', e = .unregister id ∨ e = .disconnect id → Step t e t' → Parts t id t' := by
  have hkept := ht.kept
  refine ⟨hkept.distinct, hkept.find?_iff, ?_, fun _ _ => exists_step_iff, ?_, ?_, ?_⟩
  · rw [hkept.entries]
    exact List.length_map _
  · intro h t' hs
    obtain ⟨k, id, hid, rfl⟩ := step_register_iff.mp hs
    exact ⟨id, enters_of_firstFree hid rfl, rfl⟩
  · intro h t' hs
    obtain ⟨k, id, hid, rfl⟩ := step_connect_iff.mp hs
    exact ⟨id, enters_of_firstFree hid (t.relay.registry_enroll id h), welcomes_enroll hid.free h⟩
  · rintro id e t' (rfl | rfl) hs
    · cases hs
      exact hkept.parts rfl rfl Relay.unregister_of_free
    · cases hs
      exact hkept.parts (t.relay.registry_disconnect id) (t.relay.outboxes_disconnect id)
        Relay.disconnect_of_free

/-- Two outboxes are open, and the second client draws the id of the first one again. -/
def lobby : Roster where
  relay := { outboxes := [.ofCapacity 2, .ofCapacity 2] }
  source := fun i => if i < 2 then ⟨"a"⟩ else ⟨"b"⟩

/-- The lobby with its first client. -/
def oneJoined : Roster :=
  lobby.enter 1 ⟨"a"⟩ { outbox := 0 } (lobby.relay.enroll ⟨"a"⟩ { outbox := 0 })

/-- The second client is registered as the next one that is drawn, and welcomed as that. -/
theorem ids_distinguish_redrawn :
    oneJoined.Reachable ∧ ∃ t frame, Step oneJoined (.connect { outbox := 1 }) t ∧
      t.relay.registry.find? ⟨"a"⟩ = some { outbox := 0 } ∧
      t.relay.registry.find? ⟨"b"⟩ = some { outbox := 1 } ∧
      Message.decode frame = .ok (.welcome ⟨"b"⟩) ∧
      t.relay.outbox? 1 = some ⟨2, [frame], false⟩ := by
  have hfirst : FirstFree lobby.relay.registry lobby.source 0 ⟨"a"⟩ :=
    ⟨rfl, rfl, fun _ hj => absurd hj (Nat.not_lt_zero _)⟩
  have hreach : oneJoined.Reachable :=
    .step (.start _ _ rfl) (step_connect_iff.mpr ⟨0, _, hfirst, rfl⟩)
  -- the first draw is taken, so there is another one
  have hsecond : FirstFree oneJoined.relay.registry oneJoined.source 1 ⟨"b"⟩ := by
    refine ⟨rfl, by cbv, fun j hj => ?_⟩
    obtain rfl : j = 0 := Nat.lt_one_iff.mp hj
    cbv
  have hs : Step oneJoined (.connect { outbox := 1 }) _ :=
    step_connect_iff.mpr ⟨1, _, hsecond, rfl⟩
  obtain ⟨-, -, -, -, -, hconnect, -⟩ := ids_distinguish hreach
  obtain ⟨id, henters, hwelcomes⟩ := hconnect _ _ hs
  obtain rfl : ⟨"b"⟩ = id := congrArg Entrant.id (List.cons.inj henters.entrants).1
  obtain ⟨frame, hframe, houtboxes⟩ := hwelcomes.once (.ofCapacity 2) (by cbv) rfl Nat.two_pos
  refine ⟨hreach, _, frame, hs, ?_, ?_, hframe, ?_⟩
  · rw [henters.handles, if_neg (by decide)]
    cbv
  · rw [henters.handles, if_pos rfl]
  · rw [Relay.outbox?, houtboxes]
    cbv

/-- The only outbox is one that nobody reads any more. -/
def deserted : Roster where
  relay := { outboxes := [(Outbox.ofCapacity 1).abandon] }
  source := .const ⟨"a"⟩

/-- A client may be registered without a welcome. -/
theorem connect_unwelcomed :
    deserted.Reachable ∧ ∃ t', Step deserted (.connect { outbox := 0 }) t' ∧
      t'.relay.registry.find? ⟨"a"⟩ = some { outbox := 0 } ∧
      t'.relay.outboxes = [⟨1, [], true⟩] := by
  have hid : FirstFree deserted.relay.registry deserted.source 0 ⟨"a"⟩ :=
    ⟨rfl, rfl, fun _ hj => absurd hj (Nat.not_lt_zero _)⟩
  exact ⟨.start _ _ rfl, _, step_connect_iff.mpr ⟨0, _, hid, rfl⟩, by cbv, by cbv⟩

end Roster

end Switchboard
