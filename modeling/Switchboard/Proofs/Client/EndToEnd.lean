import Switchboard.Proofs.Client.Bond

/-!
# From one client to another

What a client hands on is what the others have sent it. Between the clients, their sockets and the
journal of what the relay had to accept the same holds at any time (`Linked`).

The main statement is `end_to_end`: a client knows its id as soon as it has read its welcome, and
then hands on exactly the signals that the relay had to accept for it, in order, each under the id
of the client that has sent it, as far as their frames have come.
-/

namespace Switchboard

namespace Network

variable {n : Network}

/-! ## All clients -/

/-- The ends of all sockets fit the record of the relay, and the journal names clients that were
there. -/
structure Linked (n : Network) : Prop where
  reachable : n.traffic.Reachable
  aligned : n.members.length = n.traffic.clients.length
  bond : ∀ i m c, n.members[i]? = some m → n.traffic.clients[i]? = some c →
    Bond (n.mailFrom i) (n.mailFor i) m c
  sender : ∀ e ∈ n.journal, ∃ m, n.members[e.sender]? = some m ∧ m.id = e.id
  recipient : ∀ e ∈ n.journal, ∃ m, n.members[e.recipient]? = some m ∧ m.id = e.signal.recipient
  decodes : ∀ e ∈ n.journal, Message.decode e.message.encode = .ok e.message

/-- A network without clients is linked. -/
theorem linked_start (frameLimit : Nat) : (start frameLimit).Linked where
  reachable := ⟨frameLimit, [], rfl⟩
  aligned := rfl
  bond i m c hm := by cases hm
  sender e he := by cases he
  recipient e he := by cases he
  decodes e he := by cases he

/-- Every client has its record at the relay. -/
theorem Linked.client (hn : n.Linked) {i : Nat} {m : Member} (hm : n.members[i]? = some m) :
    ∃ c, n.traffic.clients[i]? = some c ∧ Bond (n.mailFrom i) (n.mailFor i) m c := by
  have hi : i < n.traffic.clients.length := by
    rw [← hn.aligned]
    exact (List.getElem?_eq_some_iff.mp hm).1
  have hc := List.getElem?_eq_getElem hi
  exact ⟨_, hc, hn.bond i m _ hm hc⟩

/-- Every record at the relay is of a client. -/
theorem Linked.member (hn : n.Linked) {i : Nat} {c : Client}
    (hc : n.traffic.clients[i]? = some c) :
    ∃ m, n.members[i]? = some m ∧ Bond (n.mailFrom i) (n.mailFor i) m c := by
  have hi : i < n.members.length := by
    rw [hn.aligned]
    exact (List.getElem?_eq_some_iff.mp hc).1
  have hm := List.getElem?_eq_getElem hi
  exact ⟨_, hm, hn.bond i _ c hm hc⟩

theorem Linked.decodes_mailFor (hn : n.Linked) (i : Nat) :
    ∀ e ∈ n.mailFor i, Message.decode e.message.encode = .ok e.message := by
  intro e he
  exact hn.decodes e (List.mem_of_mem_filter he)

theorem getElem?_modify_eq_some {ms : List Member} {i j : Nat} {f : Member → Member} {m' : Member}
    (h : (ms.modify i f)[j]? = some m') :
    ∃ m, ms[j]? = some m ∧ m' = if i = j then f m else m := by
  rw [List.getElem?_modify, Option.map_eq_map, Option.map_eq_some_iff] at h
  obtain ⟨m, hm, rfl⟩ := h
  exact ⟨m, hm, rfl⟩

/-- A member with an id stays one whatever happens to the ends of the sockets. -/
theorem exists_modify {ms : List Member} {i j : Nat} {f : Member → Member}
    (hf : ∀ m, (f m).id = m.id) {id : ClientId} (h : ∃ m, ms[j]? = some m ∧ m.id = id) :
    ∃ m, (ms.modify i f)[j]? = some m ∧ m.id = id := by
  obtain ⟨m, hm, rfl⟩ := h
  refine ⟨if i = j then f m else m, ?_, ?_⟩
  · rw [List.getElem?_modify, hm]
    rfl
  · split
    · exact hf m
    · rfl

/-! ## What happens at one socket -/

/-- What a client does for itself leaves the others linked. -/
theorem Linked.change (hn : n.Linked) {i : Nat} {f : Member → Member}
    (hf : ∀ m, (f m).id = m.id)
    (hbond : ∀ m c, Bond (n.mailFrom i) (n.mailFor i) m c →
      Bond (n.mailFrom i) (n.mailFor i) (f m) c) : (n.change i f).Linked where
  reachable := hn.reachable
  aligned := (List.length_modify ..).trans hn.aligned
  bond j m' c hm' hc := by
    obtain ⟨m, hm, rfl⟩ := getElem?_modify_eq_some hm'
    have hold : Bond (n.mailFrom j) (n.mailFor j) m c := hn.bond j m c hm hc
    show Bond (n.mailFrom j) (n.mailFor j) (if i = j then f m else m) c
    split
    · next hij =>
      subst hij
      exact hbond m c hold
    · exact hold
  sender e he := exists_modify hf (hn.sender e he)
  recipient e he := exists_modify hf (hn.recipient e he)
  decodes := hn.decodes

theorem Linked.traffic (hn : n.Linked) {t : Traffic} (ht : t.Reachable)
    (hsame : Traffic.SameRecords n.traffic t) : { n with traffic := t }.Linked where
  reachable := ht
  aligned := hn.aligned.trans hsame.length.symm
  bond i m c' hm hc := by
    obtain ⟨c, hc, hrecord⟩ := hsame.record i c' hc
    exact (hn.bond i m c hm hc).congr hrecord
  sender := hn.sender
  recipient := hn.recipient
  decodes := hn.decodes

theorem filter_eq_nil_of_lt {es : List Entry} {f : Entry → Nat} {k : Nat}
    (h : ∀ e ∈ es, f e < k) : es.filter (f · = k) = [] := by
  rw [List.filter_eq_nil_iff]
  intro e he hk
  have hlt := h e he
  rw [decide_eq_true_eq] at hk
  omega

/-! ### Joining -/

theorem bond_fresh (id : ClientId) (capacity : Nat) :
    Bond [] [] { id } { id, capacity } where
  id := rfl
  stamped p hp := by cases hp
  received := rfl
  stream := List.nil_prefix
  accepted := rfl
  localId := rfl
  messages := rfl
  said := List.Sublist.refl _

/-- Nothing was accepted from a client that has not joined yet, and nothing for it. -/
theorem Linked.mail_eq_nil (hn : n.Linked) :
    n.mailFrom n.members.length = [] ∧ n.mailFor n.members.length = [] := by
  constructor
  · apply filter_eq_nil_of_lt
    intro e he
    obtain ⟨m, hm, -⟩ := hn.sender e he
    exact (List.getElem?_eq_some_iff.mp hm).1
  · apply filter_eq_nil_of_lt
    intro e he
    obtain ⟨m, hm, -⟩ := hn.recipient e he
    exact (List.getElem?_eq_some_iff.mp hm).1

/-- A client that joins is linked. -/
theorem Linked.join (hn : n.Linked) (capacity : Nat)
    (remote : Option Address.TransportAddress) (draws : List ClientId) :
    (n.step (.join capacity remote draws)).Linked := by
  have hreach := hn.reachable.serve (.join capacity remote draws)
  obtain hnone | ⟨id, r, haccept, -, -, -⟩ := n.traffic.relay.accept_cases capacity remote draws
  · simpa only [step, hnone] using hn
  have hclients : (n.traffic.serve (.join capacity remote draws)).clients =
      n.traffic.clients ++ [({ id, capacity } : Client)] := by
    show (n.traffic.step (.connect capacity remote draws)).clients = _
    simp only [Traffic.step, haccept]
  simp only [step, haccept]
  have hstay : ∀ {j : Nat} {id' : ClientId}, (∃ m, n.members[j]? = some m ∧ m.id = id') →
      ∃ m, (n.members ++ [({ id } : Member)])[j]? = some m ∧ m.id = id' := by
    rintro j id' ⟨m, hm, hid⟩
    refine ⟨m, ?_, hid⟩
    rw [List.getElem?_append_left (List.getElem?_eq_some_iff.mp hm).1]
    exact hm
  refine ⟨hreach, ?_, ?_, fun e he => hstay (hn.sender e he),
    fun e he => hstay (hn.recipient e he), hn.decodes⟩
  · simp [hclients, hn.aligned]
  · intro j m c hm hc
    simp only [hclients] at hm hc
    by_cases hj : j < n.members.length
    · rw [List.getElem?_append_left hj] at hm
      rw [List.getElem?_append_left (hn.aligned ▸ hj)] at hc
      exact hn.bond j m c hm hc
    · -- the client that has just joined
      have hlast : j = n.members.length := by
        have hlt := (List.getElem?_eq_some_iff.mp hm).1
        simp only [List.length_append, List.length_singleton] at hlt
        omega
      subst hlast
      rw [List.getElem?_concat_length] at hm
      rw [hn.aligned, List.getElem?_concat_length] at hc
      obtain rfl := Option.some.inj hm
      obtain rfl := Option.some.inj hc
      show Bond (n.mailFrom n.members.length) (n.mailFor n.members.length) _ _
      rw [hn.mail_eq_nil.1, hn.mail_eq_nil.2]
      exact bond_fresh id capacity

/-- A frame that is put on the line is still on its way. -/
theorem Linked.write (hn : n.Linked) (i : Nat) : (n.step (.write i)).Linked := by
  have hreach := hn.reachable.serve (.write i)
  obtain hnone | ⟨o, frame, frames, ho, hf, hr⟩ := n.traffic.relay.takeFrame?_cases i
  · simpa only [step, hnone] using hn
  -- the frame that leaves the outbox is the next one that the recipient is to see
  obtain ⟨c, hc, hstream⟩ := hn.reachable.stream ho hf
  have hclients : ∀ j, (n.traffic.serve (.write i)).clients[j]? =
      if i = j then some { c with received := c.received ++ [frame] }
      else n.traffic.clients[j]? := by
    intro j
    show (n.traffic.step (.read i)).clients[j]? = _
    simp only [Traffic.step, hr]
    exact Traffic.getElem?_modify_eq hc _ j
  have hlength : (n.traffic.serve (.write i)).clients.length = n.traffic.clients.length := by
    show (n.traffic.step (.read i)).clients.length = _
    simp only [Traffic.step, hr]
    exact List.length_modify ..
  simp only [step, hr]
  have harrive : ∀ m : Member, (m.arrive frame).id = m.id := fun _ => rfl
  refine ⟨hreach, ?_, ?_, fun e he => exists_modify harrive (hn.sender e he),
    fun e he => exists_modify harrive (hn.recipient e he), hn.decodes⟩
  · simpa [hlength] using hn.aligned
  · intro j m' c' hm' hc'
    obtain ⟨m, hm, rfl⟩ := getElem?_modify_eq_some hm'
    simp only [hclients] at hc'
    split at hc'
    · next hij =>
      subst hij
      cases hc'
      rw [if_pos rfl]
      exact (hn.bond i m c hm hc).write hstream
    · next hij =>
      rw [if_neg hij]
      exact hn.bond j m c' hm hc'

/-! ## A frame gets to the relay -/

theorem Linked.head (hn : n.Linked) {i : Nat} {id : ClientId}
    (hlistens : n.traffic.listens? i = some id) {p : Parcel}
    (hp : n.members[i]?.bind (·.up.head?) = some p) :
    ∃ m, n.members[i]? = some m ∧ m.id = id ∧ m.up.head? = some p ∧ p.Stamped id := by
  obtain ⟨m, hm, hhead⟩ := Option.bind_eq_some_iff.mp hp
  obtain ⟨c, hc, -, hid⟩ := Traffic.listens?_eq_some_iff.mp hlistens
  have hbond := hn.bond i m c hm hc
  have hsame : m.id = id := hbond.id.symm.trans hid
  refine ⟨m, hm, hsame, hhead, ?_⟩
  rw [← hsame]
  exact hbond.stamped p (List.mem_of_mem_head? hhead)

theorem filter_append_singleton (es : List Entry) (e : Entry) (f : Entry → Nat) (k : Nat) :
    (es ++ [e]).filter (f · = k) =
      if f e = k then es.filter (f · = k) ++ [e] else es.filter (f · = k) := by
  rw [List.filter_append]
  split
  · next h => simp [h]
  · next h => simp [h]

/-- The relay reads a signal that it has to accept, and accepts it. -/
theorem Linked.accepted (hn : n.Linked) {i : Nat} {m : Member} (hm : n.members[i]? = some m)
    {p : Parcel} (hhead : m.up.head? = some p) {t : Traffic} (ht : t.Reachable) {e : Entry}
    {c : Client} (h : n.Accepts i m.id p t e c) :
    Linked { traffic := t, members := n.members.modify i Member.sent,
             journal := n.journal ++ [e] } := by
  have hsent : ∀ m : Member, m.sent.id = m.id := fun _ => rfl
  refine ⟨ht, ?_, ?_, ?_, ?_, ?_⟩
  · simpa [h.clients] using hn.aligned
  · intro k m' c' hm' hc'
    obtain ⟨mk, hmk, rfl⟩ := getElem?_modify_eq_some hm'
    obtain ⟨ck, hck, hbond⟩ := hn.client hmk
    -- the sender and the recipient may be the same client
    have hout : Bond ((n.journal ++ [e]).filter (·.sender = k)) (n.mailFor k)
        (if i = k then mk.sent else mk) ck := by
      rw [filter_append_singleton n.journal e Entry.sender k, h.sender]
      split
      · next hik =>
        subst hik
        obtain rfl : m = mk := Option.some.inj (hm.symm.trans hmk)
        exact hbond.sent_accepted hhead h.said
      · exact hbond
    show Bond ((n.journal ++ [e]).filter (·.sender = k))
      ((n.journal ++ [e]).filter (·.recipient = k)) _ c'
    rw [filter_append_singleton n.journal e Entry.recipient k]
    rw [h.clients, Traffic.getElem?_set_eq h.client] at hc'
    split at hc'
    · next hek =>
      subst hek
      cases hc'
      obtain rfl : c = ck := Option.some.inj (h.client.symm.trans hck)
      rw [if_pos rfl]
      exact hout.accept e
    · next hek =>
      obtain rfl : ck = c' := Option.some.inj (hck.symm.trans hc')
      rw [if_neg hek]
      exact hout
  · have hsender : ∃ m', n.members[e.sender]? = some m' ∧ m'.id = e.id :=
      ⟨m, by rw [h.sender]; exact hm, h.senderId.symm⟩
    exact List.forall_mem_append.mpr ⟨fun q hq => exists_modify hsent (hn.sender q hq),
      List.forall_mem_singleton.mpr (exists_modify hsent hsender)⟩
  · obtain ⟨m', hm', hbond⟩ := hn.member h.client
    have hrecipient : ∃ m', n.members[e.recipient]? = some m' ∧ m'.id = e.signal.recipient :=
      ⟨m', hm', hbond.id.symm.trans h.recipient⟩
    exact List.forall_mem_append.mpr ⟨fun q hq => exists_modify hsent (hn.recipient q hq),
      List.forall_mem_singleton.mpr (exists_modify hsent hrecipient)⟩
  · exact List.forall_mem_append.mpr ⟨hn.decodes, List.forall_mem_singleton.mpr h.decodes⟩

/-- A frame that is heard is accepted, or comes to nothing. -/
theorem Linked.hear (hn : n.Linked) (i : Nat) : (n.step (.hear i)).Linked := by
  have hsound := hn.reachable.sound
  simp only [step]
  split
  · next id p hlistens hp =>
    obtain ⟨m, hm, rfl, hhead, hstamped⟩ := hn.head hlistens hp
    have hreach := hn.reachable.serve (.hear i p.frame)
    rw [Network.hear]
    obtain ⟨hnil, hsame⟩ | ⟨e, c, haccepts⟩ := hear_cases hsound hlistens hstamped
    · -- the frame is gone, and that is all
      rw [hnil, List.append_nil]
      have hread : (n.change i Member.sent).Linked :=
        hn.change (fun _ => rfl) fun m c hbond => hbond.sent
      exact hread.traffic hreach hsame
    · rw [haccepts.enters]
      exact hn.accepted hm hhead hreach haccepts
  · exact hn

/-! ### Anything that happens -/

/-- Whatever happens, the network stays linked. -/
theorem Linked.step (hn : n.Linked) (e : Event) : (n.step e).Linked := by
  cases e with
  | join capacity remote draws => exact hn.join capacity remote draws
  | send i w => exact hn.change (fun m => m.id_send w) fun m c hbond => hbond.send w
  | inject i frame =>
      apply hn.change
      · intro m
        rfl
      · intro m c hbond
        apply hbond.post
        intro w hw
        cases hw
  | hear i => exact hn.hear i
  | drop i =>
      have hreach := hn.reachable.serve (.lose i)
      apply hn.traffic hreach
      simp only [Traffic.serve, Traffic.does]
      split
      · exact Traffic.sameRecords_of_eq rfl
      · exact n.traffic.sameRecords_hangUp i _
  | write i => exact hn.write i
  | stall i => exact hn.traffic (hn.reachable.serve (.stall i)) (n.traffic.sameRecords_leave i)
  | receive i =>
      exact hn.change Member.id_receive fun m c hbond => hbond.receive (hn.decodes_mailFor i)
  | yield i => exact hn.change Member.id_yield fun m c hbond => hbond.yield
  | lose i =>
      apply hn.change
      · intro m
        rfl
      · intro m c hbond
        -- losing the connection takes nothing back that has arrived
        have hlose : m.client.lose.localId = m.client.localId ∧
            m.client.lose.inbox = m.client.inbox := by
          unfold RelayClient.lose
          split <;> exact ⟨rfl, rfl⟩
        exact hbond.become hlose.1 hlose.2
  | close i => exact hn.change (fun _ => rfl) fun m c hbond => hbond.become rfl rfl

theorem Linked.after (hn : n.Linked) (es : List Event) : (n.after es).Linked := by
  induction es generalizing n with
  | nil => exact hn
  | cons e es ih => exact ih (hn.step e)

/-- **The two ends of every socket agree**, after any events. -/
theorem linked_after (frameLimit : Nat) (es : List Event) :
    ((start frameLimit).after es).Linked :=
  (linked_start frameLimit).after es

/-! ## What clients hand on -/

theorem mem_journal {i : Nat} {e : Entry} (he : e ∈ n.mailFor i) : e ∈ n.journal :=
  List.mem_of_mem_filter he

/-- A client that has not read its welcome cannot send. -/
theorem step_send_eq_self {i : Nat} {m : Member} (hm : n.members[i]? = some m)
    (hid : m.client.localId = none) (w : Writable) : n.step (.send i w) = n := by
  have hsame : m.send w = m := by
    obtain ⟨id, hid', -⟩ | ⟨client, -, -, -⟩ := m.send_cases w
    · rw [hid] at hid'
      cases hid'
    · simp only [Member.send, RelayClient.send, hid]
  have hmembers : n.members.modify i (·.send w) = n.members := by
    apply List.ext_getElem?
    intro j
    rw [List.getElem?_modify]
    split
    · next hij =>
      subst hij
      rw [hm]
      exact congrArg some hsame
    · simp
  show n.change i _ = n
  rw [change, hmembers]

theorem getElem?_change {i : Nat} {m : Member} (hm : n.members[i]? = some m)
    (f : Member → Member) : (n.change i f).members[i]? = some (f m) := by
  show (n.members.modify i f)[i]? = _
  rw [List.getElem?_modify, hm]
  simp

/-- **Nothing that was delivered is kept back.** A client that is connected reads what is on its
way, and whoever asks it often enough is then handed all that was accepted for it so far. -/
theorem Linked.yields_all (hn : n.Linked) {i : Nat} {m : Member} (hm : n.members[i]? = some m)
    (hup : m.client.link = .up) {k : Nat} (hk : (n.mailFor i).length ≤ k) :
    ∃ m', (n.after (List.replicate m.down.length (.receive i) ++
        List.replicate k (.yield i))).members[i]? = some m' ∧
      m'.yielded = ((n.mailFor i).take ((m.read ++ m.down).length - 1)).map (·.message) := by
  obtain ⟨client, hreads⟩ := Member.iterate_receive hup
  have hread : n.after (List.replicate m.down.length (.receive i)) =
      n.change i Member.receive^[m.down.length] := after_replicate (fun _ => rfl) n _
  have hlinked := hn.after (List.replicate m.down.length (.receive i))
  rw [hread] at hlinked
  have hm₁ := getElem?_change hm Member.receive^[m.down.length]
  rw [hreads] at hm₁
  obtain ⟨c, -, hbond⟩ := hlinked.client hm₁
  -- the journal does not hang on what a client reads
  have hmessages := hbond.messages
  rw [show (n.change i Member.receive^[m.down.length]).mailFor i = n.mailFor i from rfl] at hmessages
  have hinbox : client.inbox.length ≤ k := by
    have hlength := congrArg List.length hmessages
    simp only [Member.messages, List.length_append, List.length_map, List.length_take] at hlength
    omega
  have hafter : n.after (List.replicate m.down.length (.receive i) ++
      List.replicate k (.yield i)) =
        (n.change i Member.receive^[m.down.length]).change i Member.yield^[k] := by
    rw [← hread, ← after_replicate (e := .yield i) (fun _ => rfl)]
    exact List.foldl_append
  refine ⟨_, by rw [hafter]; exact getElem?_change hm₁ _, ?_⟩
  rw [Member.iterate_yield (m := { m with client, down := [], read := m.read ++ m.down }) hinbox]
  exact hmessages

/-- A signal arrives under the id of its sender. -/
theorem Linked.message_eq (hn : n.Linked) {e : Entry} (he : e ∈ n.journal) {s : Member}
    (hs : n.members[e.sender]? = some s) :
    e.message = (Message.signal e.signal).withSender s.id := by
  obtain ⟨s', hs', hid⟩ := hn.sender e he
  obtain rfl : s = s' := Option.some.inj (hs.symm.trans hs')
  rw [Entry.message, hid]

/-- Signals under the id of a client come from that client, if no other one has ever had it. -/
theorem Linked.filter_sender (hn : n.Linked) {i j : Nat} {s : Member}
    (hs : n.members[j]? = some s)
    (hown : ∀ k q, n.members[k]? = some q → q.id = s.id → k = j) {es : List Entry}
    (hes : ∀ e ∈ es, e ∈ n.mailFor i) :
    (es.map (·.message)).filter (·.sender? = some s.id) =
      (es.filter (·.sender = j)).map fun e => (Message.signal e.signal).withSender s.id := by
  -- an id stands for one number
  have hsender : ∀ e ∈ es, (e.message.sender? = some s.id ↔ e.sender = j) := by
    intro e he
    obtain ⟨q, hq, hid⟩ := hn.sender e (mem_journal (hes e he))
    have hmessage : e.message.sender? = some q.id := by
      rw [hid]
      rfl
    rw [hmessage, Option.some_inj]
    constructor
    · exact hown e.sender q hq
    · rintro rfl
      rw [hs] at hq
      cases hq
      rfl
  rw [List.filter_map]
  have hfilter : es.filter ((fun x : Message => decide (x.sender? = some s.id)) ∘ (·.message)) =
      es.filter (·.sender = j) := by
    apply List.filter_congr
    intro e he
    exact decide_eq_decide.mpr (hsender e he)
  rw [hfilter]
  apply List.map_congr_left
  intro e he
  obtain ⟨hmem, hj⟩ := List.mem_filter.mp he
  rw [decide_eq_true_eq] at hj
  exact hn.message_eq (mem_journal (hes e hmem)) (hj ▸ hs)

/-- When the relay reads what a client says, the journal has it exactly if the relay accepts it. -/
theorem journal_hear {i : Nat} {m : Member} (hm : n.members[i]? = some m)
    (hlistens : n.traffic.listens? i = some m.id) {p : Parcel} (hp : m.up.head? = some p)
    {text : String} (htext : p.frame.signal? = some text) {s : Signal}
    (hsaid : p.message? m.id = some (.signal s)) (j : Nat) :
    (n.step (.hear i)).journal = n.journal ++ [⟨i, m.id, j, s⟩] ↔
      n.traffic.relay.admits? text s = some j := by
  have hjournal : (n.step (.hear i)).journal = n.journal ++ n.enters i m.id p := by
    simp only [step, hlistens, hm, Option.bind_some, hp]
    rfl
  rw [hjournal, List.append_cancel_left_eq]
  cases hadmits : n.traffic.relay.admits? text s with
  | none =>
      rw [enters_eq_nil htext (by intro q hq; rw [hsaid] at hq; cases hq; exact hadmits)]
      simp
  | some k =>
      rw [enters_eq_singleton htext hsaid hadmits]
      simp

/-- The relay accepts what it has to accept, and nothing else. -/
theorem Linked.isSome_dispatch_iff (hn : n.Linked) {i : Nat} {m : Member}
    (hm : n.members[i]? = some m) {p : Parcel} (hp : m.up.head? = some p) {text : String}
    (htext : p.frame.signal? = some text) {s : Signal}
    (hsaid : p.message? m.id = some (.signal s)) :
    (n.traffic.relay.dispatch m.id text).2.isSome = true ↔
      ∃ j, n.traffic.relay.admits? text s = some j := by
  obtain ⟨c, hc, hbond⟩ := hn.client hm
  have hstamped := hbond.stamped p (List.mem_of_mem_head? hp)
  obtain ⟨hnone, hadmits⟩ | ⟨q, h, o, hq, -, hadmits, -, -, hsome⟩ :=
    hstamped.dispatch_cases htext n.traffic.relay
  · rw [hnone, hadmits s hsaid]
    simp
  · rw [hsaid] at hq
    cases hq
    rw [hadmits, hsome]
    simp

/-! ## From send to receive -/

/-- **From one client to another.** A client knows its id once it has read its welcome, and cannot
send before. Its socket carries the welcome and then the signals that the relay had to accept for
it. It hands on exactly these, in order and under the ids of those who have sent them, as far as it
has read their frames; so of each other client it hands on just what that client has said to it.
What the relay had to accept was said, in this order; and a signal had to be accepted if and only if
its frame fits, it has a payload, and its recipient is there and has room. This is when the relay
accepts it. -/
theorem end_to_end (frameLimit : Nat) (es : List Event) :
    let n := (start frameLimit).after es
    (∀ i m, n.members[i]? = some m →
      (m.client.localId = if m.read = [] then none else some m.id) ∧
      (m.client.localId = none → ∀ w : Writable,
        m.client.send w.message = (m.client, .error .notRegistered) ∧ n.step (.send i w) = n) ∧
      m.read ++ m.down <+:
        (Message.welcome m.id).encode :: (n.mailFor i).map (·.message.encode) ∧
      m.messages = ((n.mailFor i).take (m.read.length - 1)).map (·.message) ∧
      (∀ j s, n.members[j]? = some s →
        (∀ k q, n.members[k]? = some q → q.id = s.id → k = j) →
        m.messages.filter (·.sender? = some s.id) =
          (((n.mailFor i).take (m.read.length - 1)).filter (·.sender = j)).map fun e =>
            (Message.signal e.signal).withSender s.id) ∧
      (∀ x ∈ m.messages, ∃ e ∈ n.mailFor i, ∃ s, n.members[e.sender]? = some s ∧
        x = (Message.signal e.signal).withSender s.id ∧ e.signal.recipient = m.id ∧
        Message.signal e.signal ∈ s.said) ∧
      m.yielded <+: ((n.mailFor i).take (m.read.length - 1)).map (·.message) ∧
      (m.client.inbox = [] → (n.step (.yield i)).members[i]? = some m) ∧
      (∀ x xs, m.client.inbox = x :: xs → ∃ m', (n.step (.yield i)).members[i]? = some m' ∧
        m'.yielded = m.yielded ++ [x] ∧ m'.client.inbox = xs) ∧
      (m.client.link = .up → ∀ k, (n.mailFor i).length ≤ k →
        ∃ m', (n.after (List.replicate m.down.length (.receive i) ++
            List.replicate k (.yield i))).members[i]? = some m' ∧
          m'.yielded = ((n.mailFor i).take ((m.read ++ m.down).length - 1)).map (·.message))) ∧
    (∀ j s, n.members[j]? = some s →
      ((n.mailFrom j).map fun e => Message.signal e.signal).Sublist s.said) ∧
    ∀ i m p text s, n.members[i]? = some m → n.traffic.listens? i = some m.id →
      m.up.head? = some p → p.frame.signal? = some text → p.message? m.id = some (.signal s) →
      (∀ j, (n.step (.hear i)).journal = n.journal ++ [⟨i, m.id, j, s⟩] ↔
        text.utf8ByteSize ≤ n.traffic.relay.frameLimit ∧ s.payload.text ≠ "null" ∧
          ∃ h o, n.traffic.relay.registry.find? s.recipient = some h ∧
            n.traffic.relay.outbox? h.outbox = some o ∧ o.abandoned = false ∧
            o.frames.length < o.capacity ∧ h.outbox = j) ∧
      ((n.traffic.relay.dispatch m.id text).2.isSome = true ↔
        ∃ j, (n.step (.hear i)).journal = n.journal ++ [⟨i, m.id, j, s⟩]) := by
  intro n
  have hn : n.Linked := linked_after frameLimit es
  have hsaid : ∀ j s, n.members[j]? = some s →
      ((n.mailFrom j).map fun e => Message.signal e.signal).Sublist s.said := by
    intro j s hs
    obtain ⟨c, -, hbond⟩ := hn.client hs
    exact (List.sublist_append_left _ _).trans hbond.said
  refine ⟨?_, hsaid, ?_⟩
  · intro i m hm
    obtain ⟨c, -, hbond⟩ := hn.client hm
    have htake : ∀ e ∈ (n.mailFor i).take (m.read.length - 1), e ∈ n.mailFor i :=
      fun e he => List.mem_of_mem_take he
    refine ⟨hbond.localId, ?_, ?_, hbond.messages, ?_, ?_, ?_, ?_, ?_, ?_⟩
    · intro hid w
      refine ⟨?_, step_send_eq_self hm hid w⟩
      simp only [RelayClient.send, hid]
    · rw [← hbond.received, ← hbond.accepted]
      exact hbond.stream
    · intro j s hs hown
      rw [hbond.messages]
      exact hn.filter_sender hs hown htake
    · intro x hx
      rw [hbond.messages, List.mem_map] at hx
      obtain ⟨e, he, rfl⟩ := hx
      have hmail := htake e he
      obtain ⟨s, hs, -⟩ := hn.sender e (mem_journal hmail)
      obtain ⟨q, hq, hrecipient⟩ := hn.recipient e (mem_journal hmail)
      have hi : e.recipient = i := of_decide_eq_true (List.mem_filter.mp hmail).2
      rw [hi, hm] at hq
      obtain rfl : m = q := Option.some.inj hq
      refine ⟨e, hmail, s, hs, hn.message_eq (mem_journal hmail) hs, hrecipient.symm, ?_⟩
      have hfrom : e ∈ n.mailFrom e.sender := List.mem_filter.mpr ⟨mem_journal hmail, by simp⟩
      exact (hsaid e.sender s hs).subset (List.mem_map_of_mem hfrom)
    · rw [← hbond.messages]
      exact List.prefix_append m.yielded m.client.inbox
    · intro hinbox
      have hyield := getElem?_change hm Member.yield
      rwa [Member.yield_of_nil hinbox] at hyield
    · intro x xs hinbox
      refine ⟨m.yield, getElem?_change hm Member.yield, ?_⟩
      rw [Member.yield_of_cons hinbox]
      exact ⟨rfl, rfl⟩
    · exact fun hup k hk => hn.yields_all hm hup hk
  · intro i m p text s hm hlistens hp htext hs
    have hjournal := journal_hear hm hlistens hp htext hs
    refine ⟨?_, ?_⟩
    · intro j
      rw [hjournal j, Relay.admits?_eq_some_iff]
    · rw [hn.isSome_dispatch_iff hm hp htext hs]
      exact exists_congr fun j => (hjournal j).symm

/-- What somebody else would write to the client `b`. -/
def toB (topic : Topic) (payload : String) (h : Payload.ofJson payload = .ok ⟨payload⟩) :
    Writable where
  message := .signal ⟨topic, ⟨"z"⟩, ⟨"b"⟩, ⟨payload⟩⟩
  written _ hp := ⟨payload, h.trans (congrArg Except.ok (Option.some.inj hp))⟩

/-- The client `a` sends too early, and then an offer and a candidate without a payload. On its
socket there are also bytes that are no text, a welcome, and an answer under the name of `b`. Of the
two frames that are accepted `b` has read one, and it has not been asked for it yet. -/
def visit : List Event :=
  [.join 4 none [⟨"a"⟩], .join 2 none [⟨"b"⟩], .send 0 (toB .offer "1" (by cbv)),
    .write 0, .receive 0, .write 1, .receive 1,
    .inject 0 (.binary ⟨#[0xc3, 0x28]⟩), .send 0 (toB .offer "1" (by cbv)),
    .send 0 (toB .candidate "null" (by cbv)), .inject 0 (.text (Message.welcome ⟨"z"⟩).encode),
    .inject 0 (.text "\x7b\"from\":\"b\",\"to\":\"b\",\"type\":\"answer\",\"sdp\":2\x7d"),
    .hear 0, .hear 0, .hear 0, .hear 0, .hear 0, .write 1, .write 1, .receive 1]

/-- `b` hands on the offer first; and once it has read the other frame, too, it hands on both. -/
theorem end_to_end_visit :
    let n := (start 200).after visit
    let offer : Message := .signal ⟨.offer, ⟨"a"⟩, ⟨"b"⟩, ⟨"1"⟩⟩
    let answer : Message := .signal ⟨.answer, ⟨"a"⟩, ⟨"b"⟩, ⟨"2"⟩⟩
    (n.mailFor 1).map (·.message) = [offer, answer] ∧
      (∃ m, n.members[1]? = some m ∧ m.messages.filter (·.sender? = some ⟨"a"⟩) = [offer]) ∧
      (∃ m, (n.step (.yield 1)).members[1]? = some m ∧ m.yielded = [offer]) ∧
      ∃ m, (n.after [.receive 1, .yield 1, .yield 1]).members[1]? = some m ∧
        m.yielded = [offer, answer] := by
  intro n offer answer
  -- all that is asked about the two clients, computed in one run
  have hstand : n.members.map (fun m =>
      (m.id, m.client.inbox, m.yielded, m.client.link, m.down.length, m.read.length)) =
      [(⟨"a"⟩, [], [], .up, 0, 1), (⟨"b"⟩, [offer], [], .up, 1, 2)] := by cbv
  have hmail : n.mailFor 1 = [⟨0, ⟨"a"⟩, 1, ⟨.offer, ⟨"z"⟩, ⟨"b"⟩, ⟨"1"⟩⟩⟩,
      ⟨0, ⟨"a"⟩, 1, ⟨.answer, ⟨"a"⟩, ⟨"b"⟩, ⟨"2"⟩⟩⟩] := by cbv
  refine ⟨by rw [hmail]; rfl, ?_⟩
  obtain ⟨s, m, hmembers⟩ : ∃ s m, n.members = [s, m] := by
    have hlength := congrArg List.length hstand
    rw [List.length_map] at hlength
    exact List.length_eq_two.mp hlength
  rw [hmembers] at hstand
  simp only [List.map_cons, List.map_nil, List.cons.injEq, Prod.mk.injEq, and_true] at hstand
  obtain ⟨⟨hidA, -⟩, hidB, hinbox, hyielded, hlink, hdown, hread⟩ := hstand
  have hs : n.members[0]? = some s := by rw [hmembers]; rfl
  have hm : n.members[1]? = some m := by rw [hmembers]; rfl
  have hown : ∀ k q, n.members[k]? = some q → q.id = s.id → k = 0 := by
    intro k q hq hid
    rw [hmembers] at hq
    rcases k with _ | _ | k
    · rfl
    · obtain rfl := Option.some.inj hq
      rw [hidA, hidB] at hid
      exact absurd hid (by decide)
    · cases hq
  obtain ⟨-, -, -, -, hpair, -, -, -, hnext, hall⟩ := (end_to_end 200 visit).1 1 m hm
  refine ⟨⟨m, hm, ?_⟩, ?_, ?_⟩
  · have hfilter := hpair 0 s hs hown
    rw [show (start 200).after visit = n from rfl, hmail, hread, hidA] at hfilter
    exact hfilter
  · obtain ⟨m', hm', hone, -⟩ := hnext offer [] hinbox
    rw [hyielded] at hone
    exact ⟨m', hm', hone⟩
  · have hmost : (n.mailFor 1).length ≤ 2 := by rw [hmail]; exact Nat.le_refl _
    obtain ⟨m', hm', hboth⟩ := hall hlink 2 hmost
    rw [hdown] at hm'
    rw [show (start 200).after visit = n from rfl, hmail, List.length_append, hread,
      hdown] at hboth
    exact ⟨m', hm', hboth⟩

end Network

end Switchboard
