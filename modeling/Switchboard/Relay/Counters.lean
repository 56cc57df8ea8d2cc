import Switchboard.Wire.Message

/-!
# Counters

What a relay counts while it runs: its clients, the frames that it has passed on, by topic, and the
frames that it has dropped, by reason. A figure that was never touched is not reported.
-/

namespace Switchboard

inductive DropReason where
  | malformed
  | protocolViolation
  | unknownRecipient
  | backlogged
deriving DecidableEq, Repr

def DropReason.label : DropReason → String
  | malformed => "malformed"
  | protocolViolation => "protocol_violation"
  | unknownRecipient => "unknown_recipient"
  | backlogged => "backlogged"

structure Counters where
  /-- The number of clients after the last change of it. -/
  active : Option Nat := none
  connects : Nat := 0
  routed : Topic → Nat := fun _ => 0
  dropped : DropReason → Nat := fun _ => 0

namespace Counters

/-- Count one more `k`. -/
def bump {κ : Type} [DecidableEq κ] (f : κ → Nat) (k : κ) : κ → Nat :=
  fun x => if x = k then f x + 1 else f x

def connected (c : Counters) (active : Nat) : Counters :=
  { c with active := some active, connects := c.connects + 1 }

def disconnected (c : Counters) (active : Nat) : Counters := { c with active := some active }

def countRouted (c : Counters) (t : Topic) : Counters := { c with routed := bump c.routed t }

def countDropped (c : Counters) (r : DropReason) : Counters :=
  { c with dropped := bump c.dropped r }

def report (c : Counters) : List (String × Nat) :=
  let labelled := fun (name label value : String) =>
    name ++ "\x7b" ++ label ++ "=" ++ value ++ "\x7d"
  let counted := fun (name : String) (n : Nat) => if n = 0 then [] else [(name, n)]
  let active := c.active.toList.map fun n => ("signal_relay_connections", n)
  let connects := counted "signal_relay_connections_total" c.connects
  let routed := [Topic.offer, .answer, .candidate].flatMap fun t =>
    counted (labelled "signal_relay_frames_routed_total" "kind" t.name) (c.routed t)
  let reasons := [DropReason.malformed, .protocolViolation, .unknownRecipient, .backlogged]
  let dropped := reasons.flatMap fun r =>
    counted (labelled "signal_relay_frames_dropped_total" "reason" r.label) (c.dropped r)
  active ++ connects ++ routed ++ dropped

theorem bump_apply {κ : Type} [DecidableEq κ] (f : κ → Nat) (k x : κ) :
    bump f k x = if x = k then f x + 1 else f x := rfl

end Counters

end Switchboard
