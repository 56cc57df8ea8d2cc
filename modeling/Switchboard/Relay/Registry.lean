import Switchboard.Address.TransportAddress
import Switchboard.Wire.Message

/-!
# The registry

The live clients of a relay under the ids that it handed out. Ids are drawn at random, so a draw
may hit an id that is in use; then the next draw counts.
-/

namespace Switchboard

/-- Where the frames for a client go, and where the client connected from. -/
structure Handle where
  /-- The number of the client's outbox. -/
  outbox : Nat
  remote : Option Address.TransportAddress := none
deriving DecidableEq, Repr

structure Registry where
  clients : List (ClientId × Handle) := []
deriving DecidableEq, Repr

namespace Registry

def find? (r : Registry) (id : ClientId) : Option Handle := r.clients.lookup id

def contains (r : Registry) (id : ClientId) : Bool := (r.find? id).isSome

def size (r : Registry) : Nat := r.clients.length

def isEmpty (r : Registry) : Bool := r.clients.isEmpty

def firstFree? (r : Registry) (draws : List ClientId) : Option ClientId :=
  draws.find? fun id => !r.contains id

/-- Register a client under an id that is not in use. -/
def insert (r : Registry) (id : ClientId) (h : Handle) : Registry := ⟨(id, h) :: r.clients⟩

def erase (r : Registry) (id : ClientId) : Registry :=
  ⟨r.clients.filter fun c => c.1 ≠ id⟩

def feeds (r : Registry) (outbox : Nat) : Bool := r.clients.any fun c => c.2.outbox = outbox

theorem lookup_cons_eq (c : ClientId × Handle) (cs : List (ClientId × Handle)) (id : ClientId) :
    List.lookup id (c :: cs) = if id = c.1 then some c.2 else List.lookup id cs := by
  by_cases e : id = c.1
  · have hb : (id == c.1) = true := by simpa using e
    rw [List.lookup_cons, hb, if_pos e]
  · have hb : (id == c.1) = false := by simpa using e
    rw [List.lookup_cons, hb, if_neg e]

theorem find?_insert (r : Registry) (id id' : ClientId) (h : Handle) :
    (r.insert id h).find? id' = if id' = id then some h else r.find? id' :=
  lookup_cons_eq (id, h) r.clients id'

theorem find?_erase (r : Registry) (id id' : ClientId) :
    (r.erase id).find? id' = if id' = id then none else r.find? id' := by
  obtain ⟨cs⟩ := r
  simp only [find?, erase]
  induction cs with
  | nil => simp
  | cons c cs ih =>
    rw [lookup_cons_eq]
    by_cases e : c.1 = id
    · rw [List.filter_cons_of_neg (by simpa using e), ih]
      by_cases e' : id' = id
      · simp [e']
      · rw [if_neg e', if_neg e', if_neg (by rw [e]; exact e')]
    · rw [List.filter_cons_of_pos (by simpa using e), lookup_cons_eq, ih]
      by_cases e' : id' = c.1
      · rw [if_pos e', if_pos e', if_neg (by rw [e']; exact e)]
      · rw [if_neg e', if_neg e']

end Registry

end Switchboard
