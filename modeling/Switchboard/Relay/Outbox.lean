/-!
# Outboxes

The frames on their way to one client. An outbox is bounded: a frame that finds it full is not
queued, so a client that does not read costs the relay no more than the capacity of its outbox.
-/

namespace Switchboard

inductive Undeliverable where
  /-- The client does not read fast enough. -/
  | backlogged
  /-- Nobody reads the outbox any more. -/
  | gone
deriving DecidableEq, Repr

structure Outbox where
  capacity : Nat
  frames : List String := []
  /-- Its reader has gone away. -/
  abandoned : Bool := false
deriving DecidableEq, Repr

namespace Outbox

def defaultCapacity : Nat := 256

/-- The largest capacity that an outbox can be made with. -/
def largestCapacity : Nat := 0x1FFFFFFFFFFFFFFF

/-- An empty outbox; it has room for one frame at least. -/
def ofCapacity (capacity : Nat) : Outbox := { capacity := max 1 capacity }

def push (o : Outbox) (frame : String) : Except Undeliverable Outbox :=
  if o.abandoned then .error .gone
  else if o.capacity ≤ o.frames.length then .error .backlogged
  else .ok { o with frames := o.frames ++ [frame] }

def next? (o : Outbox) : Option (String × Outbox) :=
  match o.frames with
  | [] => none
  | f :: fs => some (f, { o with frames := fs })

/-- The reader goes away, and what it has not read is lost. -/
def abandon (o : Outbox) : Outbox := { o with frames := [], abandoned := true }

theorem push_eq_ok_iff (o o' : Outbox) (frame : String) :
    o.push frame = .ok o' ↔
      o.abandoned = false ∧ o.frames.length < o.capacity ∧
        o' = { o with frames := o.frames ++ [frame] } := by
  unfold push
  grind

end Outbox

end Switchboard
