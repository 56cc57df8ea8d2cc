import Mathlib
import Switchboard.Proofs.Relay.Operations
import Switchboard.Proofs.Relay.Traffic

/-!
# What a relay delivers

Between the clients of a relay, its registry and its outboxes the same holds at any time (`Sound`),
and for each client it says how its outbox continues what the client has read so far (`Served`).
Every event keeps this.

The main statement is `delivery_stream`: a client reads its welcome and then exactly the frames that
the relay has accepted for it, in order, and the relay says that it accepts a frame exactly when it
queues one.
-/

namespace Switchboard

namespace Traffic

variable {t : Traffic}

/-- How the outbox with number `i` serves its client. -/
structure Served (g : Registry) (i : Nat) (c : Client) (o : Outbox) : Prop where
  capacity : o.capacity = max 1 c.capacity
  bounded : o.frames.length ≤ o.capacity
  abandoned : o.abandoned = !c.reading
  stream : c.reading = true →
    c.received ++ o.frames = (Message.welcome c.id).encode :: c.accepted
  /-- The frames for the id of the client go to this outbox as long as the client is connected. -/
  registered : c.connected = true ↔ ∃ h, g.find? c.id = some h ∧ h.outbox = i

/-- Clients and outboxes belong together, and so do clients and registered ids. -/
structure Sound (t : Traffic) : Prop where
  aligned : t.clients.length = t.relay.outboxes.length
  served : ∀ i c o, t.clients[i]? = some c → t.relay.outbox? i = some o →
    Served t.relay.registry i c o
  owned : ∀ id h, t.relay.registry.find? id = some h →
    ∃ c, t.clients[h.outbox]? = some c ∧ c.id = id

/-- A relay that has just started has nobody to serve. -/
theorem sound_start (frameLimit : Nat) : Sound (start frameLimit) where
  aligned := rfl
  served := fun i c o hc _ => by simp [start] at hc
  owned := fun id h hfind => by cases hfind

/-! ## Connecting -/

/-- The welcome is the first frame in a fresh outbox. -/
theorem served_fresh {g : Registry} {id : ClientId} {i capacity : Nat} {h : Handle}
    (hfind : g.find? id = some h) (hi : h.outbox = i) :
    Served g i { id, capacity }
      { capacity := max 1 capacity, frames := [(Message.welcome id).encode] } where
  capacity := rfl
  bounded := Nat.le_max_left 1 capacity
  abandoned := rfl
  stream := fun _ => rfl
  registered := ⟨fun _ => ⟨h, hfind, hi⟩, fun _ => rfl⟩

/-- The id was free, so whoever had it before is not connected any more. -/
theorem Served.insert {g : Registry} {i : Nat} {c : Client} {o : Outbox} (hserved : Served g i c o)
    {id : ClientId} (hfree : g.find? id = none) {h : Handle} (hi : h.outbox ≠ i) :
    Served (g.insert id h) i c o := by
  refine { hserved with registered := ?_ }
  rw [hserved.registered, Registry.find?_insert]
  by_cases hid : c.id = id
  · rw [if_pos hid, hid, hfree]
    constructor
    · rintro ⟨h', hh, -⟩
      cases hh
    · rintro ⟨h', hh, hi'⟩
      cases hh
      exact absurd hi' hi
  · rw [if_neg hid]

/-- A client that connects is served from its welcome on. -/
theorem Sound.connect (ht : t.Sound) (capacity : Nat) (remote : Option Address.TransportAddress)
    (draws : List ClientId) : (t.step (.connect capacity remote draws)).Sound := by
  obtain hnone | ⟨id, r, haccept, hfree, hregistry, houtboxes⟩ :=
    t.relay.accept_cases capacity remote draws
  · simpa only [step, hnone] using ht
  · simp only [step, haccept]
    refine ⟨?_, ?_, ?_⟩
    · simp [houtboxes, ht.aligned]
    · intro i c o hc ho
      simp only [Relay.outbox?, houtboxes, List.getElem?_append, ht.aligned] at hc ho
      rw [hregistry]
      by_cases hi : i < t.relay.outboxes.length
      · rw [if_pos hi] at hc ho
        exact (ht.served i c o hc ho).insert hfree (Nat.ne_of_gt hi)
      · rw [if_neg hi, List.getElem?_singleton] at hc ho
        by_cases hlast : i - t.relay.outboxes.length = 0
        · rw [if_pos hlast] at hc ho
          cases hc
          cases ho
          refine served_fresh (h := { outbox := t.relay.outboxes.length, remote }) ?_ ?_
          · rw [Registry.find?_insert, if_pos rfl]
          · show t.relay.outboxes.length = i
            omega
        · rw [if_neg hlast] at hc
          cases hc
    · intro id' h hh
      rw [hregistry, Registry.find?_insert] at hh
      by_cases hid : id' = id
      · rw [if_pos hid] at hh
        cases hh
        exact ⟨{ id, capacity }, by simp [← ht.aligned], hid.symm⟩
      · rw [if_neg hid] at hh
        obtain ⟨c, hc, hid'⟩ := ht.owned id' h hh
        refine ⟨c, ?_, hid'⟩
        rw [List.getElem?_append_left (List.getElem?_eq_some_iff.mp hc).1]
        exact hc

/-! ## Disconnecting -/

/-- A client that is disconnected gets nothing more. -/
theorem Sound.disconnect (ht : t.Sound) (id : ClientId) : (t.step (.disconnect id)).Sound := by
  refine ⟨?_, ?_, ?_⟩
  · simp [step, Relay.outboxes_disconnect, ht.aligned]
  · intro i c' o hc ho
    simp only [step, Relay.outbox?, Relay.outboxes_disconnect, List.getElem?_map,
      Option.map_eq_some_iff] at hc ho
    obtain ⟨c, hc, rfl⟩ := hc
    have hserved := ht.served i c o hc ho
    by_cases hid : c.id = id
    · rw [Client.forget, if_pos hid]
      refine { hserved with registered := ?_ }
      simp [step, Relay.find?_disconnect, hid]
    · rw [Client.forget, if_neg hid]
      refine { hserved with registered := ?_ }
      simpa [step, Relay.find?_disconnect, hid] using hserved.registered
  · intro id' h hh
    simp only [step, Relay.find?_disconnect] at hh
    by_cases hid : id' = id
    · rw [if_pos hid] at hh
      cases hh
    · rw [if_neg hid] at hh
      obtain ⟨c, hc, hid'⟩ := ht.owned id' h hh
      refine ⟨c.forget id, by simp [step, hc], ?_⟩
      rw [Client.forget, if_neg (by rw [hid']; exact hid)]
      exact hid'

/-! ## One client and its outbox -/

/-- An event that touches one client and its outbox has to serve that client only. -/
theorem Sound.update (ht : t.Sound) {i : Nat} {c c' : Client} {o o' : Outbox}
    (hc : t.clients[i]? = some c) (ho : t.relay.outbox? i = some o)
    (hserved : Served t.relay.registry i c' o') (hid : c'.id = c.id) {r : Relay}
    (hregistry : r.registry = t.relay.registry) (houtboxes : r.outboxes = t.relay.outboxes.set i o')
    {cs : List Client} (hlength : cs.length = t.clients.length)
    (hcs : ∀ j, cs[j]? = if i = j then some c' else t.clients[j]?) :
    Sound { relay := r, clients := cs } := by
  have hi : i < t.relay.outboxes.length := (List.getElem?_eq_some_iff.mp ho).1
  refine ⟨?_, ?_, ?_⟩
  · simp [hlength, houtboxes, ht.aligned]
  · intro j d q hd hq
    simp only [Relay.outbox?, houtboxes, List.getElem?_set, hcs, hregistry] at hd hq ⊢
    by_cases hij : i = j
    · subst hij
      simp only [if_true, hi, Option.some.injEq] at hd hq
      subst hd hq
      exact hserved
    · rw [if_neg hij] at hd hq
      exact ht.served j d q hd hq
  · intro id h hh
    simp only [hregistry] at hh
    obtain ⟨d, hd, hid'⟩ := ht.owned id h hh
    simp only [hcs]
    by_cases hij : i = h.outbox
    · rw [← hij, hc] at hd
      cases hd
      exact ⟨c', if_pos hij, hid.trans hid'⟩
    · exact ⟨d, by rw [if_neg hij]; exact hd, hid'⟩

/-! ## Dispatching -/

/-- Whoever is found under an id has been given it. -/
theorem Sound.recipient (ht : t.Sound) {id : ClientId} {h : Handle}
    (hfind : t.relay.registry.find? id = some h) {o : Outbox}
    (ho : t.relay.outbox? h.outbox = some o) :
    ∃ c, t.clients[h.outbox]? = some c ∧ c.id = id ∧ c.connected = true ∧
      Served t.relay.registry h.outbox c o := by
  obtain ⟨c, hc, hid⟩ := ht.owned id h hfind
  have hserved := ht.served h.outbox c o hc ho
  exact ⟨c, hc, hid, hserved.registered.mpr ⟨h, by rw [hid]; exact hfind, rfl⟩, hserved⟩

/-- No other client is connected under the id of the recipient. -/
theorem Sound.accept_eq_self (ht : t.Sound) {id : ClientId} {h : Handle}
    (hfind : t.relay.registry.find? id = some h) {j : Nat} (hj : h.outbox ≠ j) {c : Client}
    (hc : t.clients[j]? = some c) (frame : String) : c.accept id frame = c := by
  have hlt : j < t.relay.outboxes.length := by
    rw [← ht.aligned]
    exact (List.getElem?_eq_some_iff.mp hc).1
  have hserved := ht.served j c _ hc (List.getElem?_eq_getElem hlt)
  rw [Client.accept, if_neg]
  intro hboth
  simp only [Bool.and_eq_true, decide_eq_true_eq] at hboth
  obtain ⟨h', hfind', hj'⟩ := hserved.registered.mp hboth.1
  rw [hboth.2, hfind] at hfind'
  cases hfind'
  exact hj hj'

/-- A frame that is accepted continues the stream of its recipient. -/
theorem Served.accept {g : Registry} {i : Nat} {c : Client} {o : Outbox} (h : Served g i c o)
    (hroom : o.frames.length < o.capacity) (frame : String) :
    Served g i { c with accepted := c.accepted ++ [frame] }
      { o with frames := o.frames ++ [frame] } where
  capacity := h.capacity
  bounded := by simpa using Nat.succ_le_of_lt hroom
  abandoned := h.abandoned
  stream := fun hreading => by
    have hstream := congrArg (· ++ [frame]) (h.stream hreading)
    simpa using hstream
  registered := h.registered

/-- A frame that is dropped reaches nobody. -/
theorem step_dispatch_none {sender : ClientId} {text : String}
    (h : (t.relay.dispatch sender text).2 = none) :
    t.step (.dispatch sender text) = { t with relay := (t.relay.dispatch sender text).1 } := by
  rcases hr : t.relay.dispatch sender text with ⟨r, d⟩
  rw [hr] at h
  cases h
  simp only [step, hr]

theorem step_dispatch_some {sender : ClientId} {text : String} {d : Delivery}
    (h : (t.relay.dispatch sender text).2 = some d) :
    t.step (.dispatch sender text) =
      { relay := (t.relay.dispatch sender text).1
        clients := t.clients.map (Client.accept d.recipient (passedOn sender text)) } := by
  rcases hr : t.relay.dispatch sender text with ⟨r, d'⟩
  rw [hr] at h
  cases h
  simp only [step, hr]

theorem getElem?_set_eq {i : Nat} {c : Client} (hc : t.clients[i]? = some c) (c' : Client)
    (j : Nat) : (t.clients.set i c')[j]? = if i = j then some c' else t.clients[j]? := by
  have hi := (List.getElem?_eq_some_iff.mp hc).1
  rw [List.getElem?_set, if_pos hi]

/-- A frame that is passed on is accepted for the client whose outbox it is put in, and for no
other. -/
theorem Sound.clients_dispatch (ht : t.Sound) {sender : ClientId} {text : String} {d : Delivery}
    (hd : (t.relay.dispatch sender text).2 = some d) {h : Handle}
    (hfind : t.relay.registry.find? d.recipient = some h) {o : Outbox}
    (ho : t.relay.outbox? h.outbox = some o) {c : Client} (hc : t.clients[h.outbox]? = some c) :
    (t.step (.dispatch sender text)).clients =
      t.clients.set h.outbox { c with accepted := c.accepted ++ [passedOn sender text] } := by
  rw [step_dispatch_some hd]
  apply List.ext_getElem?
  intro j
  simp only [List.getElem?_map, getElem?_set_eq hc]
  by_cases hj : h.outbox = j
  · subst hj
    obtain ⟨c', hc', hid, hconnected, -⟩ := ht.recipient hfind ho
    obtain rfl : c = c' := Option.some.inj (hc.symm.trans hc')
    rw [if_pos rfl, hc, Option.map_some, Client.accept, if_pos (by simp [hconnected, hid])]
  · rw [if_neg hj]
    cases hd : t.clients[j]? with
    | none => rfl
    | some d => rw [Option.map_some, ht.accept_eq_self hfind hj hd]

/-- A frame that is dispatched is owed to its recipient, and to nobody else. -/
theorem Sound.dispatch (ht : t.Sound) (sender : ClientId) (text : String) :
    (t.step (.dispatch sender text)).Sound := by
  have hregistry := t.relay.registry_dispatch sender text
  obtain ⟨hnone, houtboxes⟩ | ⟨s, h, o, hm, hfind, ho, hread, hroom, hsome, houtboxes⟩ :=
    t.relay.dispatch_cases sender text
  · rw [step_dispatch_none hnone]
    refine ⟨?_, ?_, ?_⟩
    · simpa only [houtboxes] using ht.aligned
    · intro i c o hc ho
      simp only [Relay.outbox?, houtboxes, hregistry] at hc ho ⊢
      exact ht.served i c o hc ho
    · intro id h hh
      simp only [hregistry] at hh
      exact ht.owned id h hh
  · obtain ⟨c, hc, -, -, hserved⟩ := ht.recipient hfind ho
    have hframe : passedOn sender text = (Message.signal s).encode := by rw [passedOn, hm]
    have hclients := ht.clients_dispatch hsome hfind ho hc
    rw [step_dispatch_some hsome] at hclients ⊢
    rw [hframe] at hclients ⊢
    refine ht.update hc ho (hserved.accept hroom _) rfl hregistry houtboxes (by simp) ?_
    intro j
    exact (congrArg (·[j]?) hclients).trans (getElem?_set_eq hc _ j)

/-! ## Reading -/

/-- What is read is not owed any more. -/
theorem Served.read {g : Registry} {i : Nat} {c : Client} {o : Outbox} (h : Served g i c o)
    {frame : String} {frames : List String} (hf : o.frames = frame :: frames) :
    Served g i { c with received := c.received ++ [frame] } { o with frames := frames } where
  capacity := h.capacity
  bounded := by
    have hbounded := h.bounded
    rw [hf] at hbounded
    exact Nat.le_of_succ_le hbounded
  abandoned := h.abandoned
  stream := fun hreading => by
    have hstream := h.stream hreading
    rw [hf] at hstream
    simpa using hstream
  registered := h.registered

theorem Sound.client (ht : t.Sound) {i : Nat} {o : Outbox} (ho : t.relay.outbox? i = some o) :
    ∃ c, t.clients[i]? = some c ∧ Served t.relay.registry i c o := by
  have hlt : i < t.clients.length := by
    rw [ht.aligned]
    exact (List.getElem?_eq_some_iff.mp ho).1
  have hc := List.getElem?_eq_getElem hlt
  exact ⟨_, hc, ht.served i _ o hc ho⟩

theorem getElem?_modify_eq {i : Nat} {c : Client} (hc : t.clients[i]? = some c)
    (f : Client → Client) (j : Nat) :
    (t.clients.modify i f)[j]? = if i = j then some (f c) else t.clients[j]? := by
  rw [List.getElem?_modify]
  by_cases hj : i = j
  · subst hj
    simp [hc]
  · simp [hj]

theorem Sound.read (ht : t.Sound) (i : Nat) : (t.step (.read i)).Sound := by
  obtain hnone | ⟨o, frame, frames, ho, hf, hr⟩ := t.relay.takeFrame?_cases i
  · simpa only [step, hnone] using ht
  · simp only [step, hr]
    obtain ⟨c, hc, hserved⟩ := ht.client ho
    refine ht.update hc ho (hserved.read hf) rfl ?_ ?_ ?_ ?_
    · rfl
    · rfl
    · exact List.length_modify ..
    · exact getElem?_modify_eq hc _

/-! ## Going away -/

theorem Served.leave {g : Registry} {i : Nat} {c : Client} {o : Outbox} (h : Served g i c o) :
    Served g i { c with reading := false } o.abandon where
  capacity := h.capacity
  bounded := Nat.zero_le _
  abandoned := rfl
  stream := fun hreading => by cases hreading
  registered := h.registered

theorem Sound.leave (ht : t.Sound) (i : Nat) : (t.step (.leave i)).Sound := by
  cases ho : t.relay.outbox? i with
  | none =>
      have hlength : t.clients.length ≤ i := by
        rw [ht.aligned]
        exact List.getElem?_eq_none_iff.mp ho
      have hclients := List.modify_eq_self (f := fun c : Client => { c with reading := false }) hlength
      simpa only [step, Relay.abandon, ho, hclients] using ht
  | some o =>
      obtain ⟨c, hc, hserved⟩ := ht.client ho
      simp only [step, Relay.abandon, ho]
      refine ht.update hc ho hserved.leave rfl ?_ ?_ ?_ ?_
      · rfl
      · rfl
      · exact List.length_modify ..
      · exact getElem?_modify_eq hc _

/-! ## Runs -/

/-- **Every event keeps what clients and relay have in common.** -/
theorem Sound.step (ht : t.Sound) (e : Event) : (t.step e).Sound := by
  cases e with
  | connect capacity remote draws => exact ht.connect capacity remote draws
  | disconnect id => exact ht.disconnect id
  | dispatch sender text => exact ht.dispatch sender text
  | read i => exact ht.read i
  | leave i => exact ht.leave i

/-- **What is owed is what is queued**, after any events. -/
theorem Sound.after (ht : t.Sound) (es : List Event) : (t.after es).Sound := by
  induction es generalizing t with
  | nil => exact ht
  | cons e es ih => exact ih (ht.step e)

/-! ## After a client was disconnected -/

/-- The client with number `i` is disconnected, and no more than `frames` waits for it. -/
def Left (t : Traffic) (i : Nat) (frames : List String) : Prop :=
  ∃ c o, t.clients[i]? = some c ∧ c.connected = false ∧ t.relay.outbox? i = some o ∧
    o.frames <:+ frames

/-- Nothing is queued for a disconnected client, not even for a later one with the same id. -/
theorem Left.step {i : Nat} {frames : List String} (h : t.Left i frames) (ht : t.Sound)
    (e : Event) : (t.step e).Left i frames := by
  obtain ⟨c, o, hc, hleft, ho, hframes⟩ := h
  have hi := (List.getElem?_eq_some_iff.mp hc).1
  have hi' := (List.getElem?_eq_some_iff.mp ho).1
  cases e with
  | connect capacity remote draws =>
      obtain hnone | ⟨id, r, haccept, -, -, houtboxes⟩ :=
        t.relay.accept_cases capacity remote draws
      · simp only [Traffic.step, hnone]
        exact ⟨c, o, hc, hleft, ho, hframes⟩
      · simp only [Traffic.step, haccept]
        refine ⟨c, o, ?_, hleft, ?_, hframes⟩
        · rw [List.getElem?_append_left hi]
          exact hc
        · rw [Relay.outbox?, houtboxes, List.getElem?_append_left hi']
          exact ho
  | disconnect id =>
      refine ⟨c.forget id, o, ?_, ?_, ?_, hframes⟩
      · simp [Traffic.step, hc]
      · unfold Client.forget
        split
        · rfl
        · exact hleft
      · simpa only [Traffic.step, Relay.outbox?, Relay.outboxes_disconnect] using ho
  | dispatch sender text =>
      obtain ⟨hnone, houtboxes⟩ | ⟨s, h, o', -, hfind, ho', -, -, hsome, houtboxes⟩ :=
        t.relay.dispatch_cases sender text
      · rw [step_dispatch_none hnone]
        refine ⟨c, o, hc, hleft, ?_, hframes⟩
        simp only [Relay.outbox?, houtboxes]
        exact ho
      · -- the recipient is connected
        obtain ⟨c', hc', -, hconnected, -⟩ := ht.recipient hfind ho'
        have hne : h.outbox ≠ i := by
          rintro rfl
          rw [hc] at hc'
          cases hc'
          rw [hleft] at hconnected
          cases hconnected
        rw [step_dispatch_some hsome]
        refine ⟨c, o, ?_, hleft, ?_, hframes⟩
        · rw [List.getElem?_map, hc, Option.map_some, ht.accept_eq_self hfind hne hc]
        · simp only [Relay.outbox?, houtboxes, List.getElem?_set_ne hne]
          exact ho
  | read j =>
      obtain hnone | ⟨o', frame, frames', ho', hf, hr⟩ := t.relay.takeFrame?_cases j
      · simp only [Traffic.step, hnone]
        exact ⟨c, o, hc, hleft, ho, hframes⟩
      · simp only [Traffic.step, hr]
        by_cases hj : j = i
        · subst hj
          rw [ho] at ho'
          cases ho'
          refine ⟨{ c with received := c.received ++ [frame] }, { o with frames := frames' },
            ?_, hleft, ?_, ?_⟩
          · rw [getElem?_modify_eq hc, if_pos rfl]
          · exact List.getElem?_set_self hi'
          · rw [hf] at hframes
            exact (List.suffix_cons frame frames').trans hframes
        · refine ⟨c, o, ?_, hleft, ?_, hframes⟩
          · rw [List.getElem?_modify_ne _ _ hj]
            exact hc
          · simp only [Relay.outbox?, Relay.setOutbox, List.getElem?_set_ne hj]
            exact ho
  | leave j =>
      by_cases hj : j = i
      · subst hj
        simp only [Traffic.step, Relay.abandon, ho]
        refine ⟨{ c with reading := false }, o.abandon, ?_, hleft, ?_, List.nil_suffix⟩
        · rw [getElem?_modify_eq hc, if_pos rfl]
        · exact List.getElem?_set_self hi'
      · refine ⟨c, o, ?_, hleft, ?_, hframes⟩
        · simp only [Traffic.step, List.getElem?_modify_ne _ _ hj]
          exact hc
        · simp only [Traffic.step, Relay.abandon]
          cases ho' : t.relay.outbox? j with
          | none => exact ho
          | some o' =>
              simp only [Relay.outbox?, Relay.setOutbox, List.getElem?_set_ne hj]
              exact ho

/-! ### From then on -/

theorem Left.after {i : Nat} {frames : List String} (h : t.Left i frames) (ht : t.Sound)
    (es : List Event) : (t.after es).Left i frames := by
  induction es generalizing t with
  | nil => exact h
  | cons e es ih => exact ih (h.step ht e) (ht.step e)

/-! ## The stream of a client -/

/-- A frame is accepted exactly when it is queued, at the end of one outbox. -/
theorem isSome_dispatch_iff (r : Relay) (sender : ClientId) (text : String) :
    (r.dispatch sender text).2.isSome = true ↔
      ∃ i o frame, r.outbox? i = some o ∧
        (r.dispatch sender text).1.outboxes =
          r.outboxes.set i { o with frames := o.frames ++ [frame] } := by
  obtain ⟨hnone, houtboxes⟩ | ⟨s, h, o, -, -, ho, -, -, hsome, houtboxes⟩ :=
    r.dispatch_cases sender text
  · rw [hnone, houtboxes]
    refine ⟨fun h => (by cases h), ?_⟩
    rintro ⟨i, o, frame, ho, hset⟩
    -- an outbox with one more frame is another outbox
    have hlookup := congrArg (fun os : List Outbox => os[i]?) hset
    rw [List.getElem?_set_self (List.getElem?_eq_some_iff.mp ho).1] at hlookup
    have hsame : some o = some { o with frames := o.frames ++ [frame] } := ho.symm.trans hlookup
    have hlength := congrArg (fun o : Option Outbox => (o.map fun o => o.frames.length)) hsame
    simp at hlength
  · rw [hsome]
    exact ⟨fun _ => ⟨h.outbox, o, _, ho, houtboxes⟩, fun _ => rfl⟩

/-- Nothing is accepted for a client whose reader has gone away. -/
theorem Sound.recipient_ne (ht : t.Sound) {i : Nat} {c : Client} (hc : t.clients[i]? = some c)
    (hconnected : c.connected = true) (hgone : c.reading = false) {sender : ClientId}
    {text : String} {d : Delivery} (hd : (t.relay.dispatch sender text).2 = some d) :
    d.recipient ≠ c.id := by
  intro hid
  obtain ⟨hnone, -⟩ | ⟨s, h, o, -, hfind, ho, hread, -, hsome, -⟩ :=
    t.relay.dispatch_cases sender text
  · rw [hnone] at hd
    cases hd
  · rw [hsome] at hd
    cases hd
    obtain ⟨c', hc', -, -, hserved⟩ := ht.recipient hfind ho
    -- a client that does not read is queued nothing, and no other goes by its identity
    by_cases hi : h.outbox = i
    · subst hi
      rw [hc] at hc'
      cases hc'
      rw [hserved.abandoned, hgone] at hread
      cases hread
    · have hself := ht.accept_eq_self hfind hi hc "frame"
      rw [Client.accept, if_pos (by simpa [hconnected] using hid.symm)] at hself
      have hlength := congrArg (fun c : Client => c.accepted.length) hself
      simp at hlength

theorem Reachable.sound (ht : t.Reachable) : t.Sound := by
  obtain ⟨frameLimit, es, rfl⟩ := ht
  exact (sound_start frameLimit).after es

/-! ## Any run -/

/-- **What a relay delivers.** A client whose reader is there reads its welcome and then the frames
that were accepted for it, in order; no more than its capacity wait for it. Nothing is accepted for
it once its reader has gone away, and nothing is queued for it once it was disconnected. A frame is
accepted exactly when it is queued, and else leaves the outboxes and the registry as they are. -/
theorem delivery_stream (ht : t.Reachable) :
    t.clients.length = t.relay.outboxes.length ∧
      (∀ i c o, t.clients[i]? = some c → t.relay.outbox? i = some o →
        (c.reading = true →
          c.received ++ o.frames = (Message.welcome c.id).encode :: c.accepted) ∧
        o.frames.length ≤ max 1 c.capacity ∧
        (c.connected = true → c.reading = false →
          ∀ sender text d, (t.relay.dispatch sender text).2 = some d → d.recipient ≠ c.id) ∧
        (c.connected = false →
          ∀ es o', (t.after es).relay.outbox? i = some o' → o'.frames <:+ o.frames)) ∧
      ∀ sender text,
        ((t.relay.dispatch sender text).2.isSome = true ↔
          ∃ i o frame, t.relay.outbox? i = some o ∧
            (t.relay.dispatch sender text).1.outboxes =
              t.relay.outboxes.set i { o with frames := o.frames ++ [frame] }) ∧
        ((t.relay.dispatch sender text).2 = none →
          (t.relay.dispatch sender text).1.outboxes = t.relay.outboxes ∧
            (t.relay.dispatch sender text).1.registry = t.relay.registry) := by
  have hsound := ht.sound
  refine ⟨hsound.aligned, ?_, ?_⟩
  · intro i c o hc ho
    have hserved := hsound.served i c o hc ho
    refine ⟨hserved.stream, ?_, ?_, ?_⟩
    · rw [← hserved.capacity]
      exact hserved.bounded
    · intro hconnected hgone sender text d hd
      exact hsound.recipient_ne hc hconnected hgone hd
    · intro hleft es o' ho'
      -- from the moment it has left, what is queued can only be taken away
      have hnow : t.Left i o.frames := ⟨c, o, hc, hleft, ho, List.suffix_refl _⟩
      obtain ⟨c', q, -, -, hq, hframes⟩ := hnow.after hsound es
      rw [ho'] at hq
      cases hq
      exact hframes
  · intro sender text
    refine ⟨isSome_dispatch_iff t.relay sender text, ?_⟩
    intro hnone
    refine ⟨?_, t.relay.registry_dispatch sender text⟩
    obtain ⟨-, houtboxes⟩ | ⟨s, h, o, -, -, -, -, -, hsome, -⟩ :=
      t.relay.dispatch_cases sender text
    · exact houtboxes
    · rw [hsome] at hnone
      cases hnone

/-- An offer as its sender writes it. -/
def offerText (sender recipient : ClientId) : String :=
  (Message.signal ⟨.offer, sender, recipient, ⟨"1"⟩⟩).encode

/-- A client has room for two frames. Two offers come in before it reads its welcome, so the second
of them is dropped. Then it goes away. -/
def visit : Traffic :=
  (start 65536).after [.connect 2 none [⟨"a"⟩], .connect 1 none [⟨"b"⟩],
    .dispatch ⟨"b"⟩ (offerText ⟨"b"⟩ ⟨"a"⟩), .dispatch ⟨"b"⟩ (offerText ⟨"b"⟩ ⟨"a"⟩),
    .read 0, .disconnect ⟨"a"⟩]

/-- The only frame that still waits is the offer that was accepted, and nothing will follow it. -/
theorem delivery_stream_visit :
    visit.Reachable ∧ ∃ c o, visit.clients[0]? = some c ∧ visit.relay.outbox? 0 = some o ∧
      c.accepted = [offerText ⟨"b"⟩ ⟨"a"⟩] ∧
      c.received ++ o.frames = [(Message.welcome ⟨"a"⟩).encode, offerText ⟨"b"⟩ ⟨"a"⟩] ∧
      ∀ es o', (visit.after es).relay.outbox? 0 = some o' →
        o'.frames <:+ [offerText ⟨"b"⟩ ⟨"a"⟩] := by
  have hreach : visit.Reachable := ⟨_, _, rfl⟩
  have hc : visit.clients[0]? = some ⟨⟨"a"⟩, 2, false, true,
      [(Message.welcome ⟨"a"⟩).encode], [offerText ⟨"b"⟩ ⟨"a"⟩]⟩ := by cbv
  have ho : visit.relay.outbox? 0 = some ⟨2, [offerText ⟨"b"⟩ ⟨"a"⟩], false⟩ := by cbv
  obtain ⟨hstream, -, -, hleft⟩ := (delivery_stream hreach).2.1 0 _ _ hc ho
  exact ⟨hreach, _, _, hc, ho, rfl, hstream rfl, hleft rfl⟩

end Traffic

end Switchboard
