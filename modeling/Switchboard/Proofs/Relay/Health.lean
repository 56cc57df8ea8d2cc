import Switchboard.Proofs.Json.Acceptance
import Switchboard.Proofs.Json.Written
import Switchboard.Relay.Pages

/-!
# What the page of health says

Whoever asks for the health of a relay gets an object with two members: how many clients are
registered, and a word that says that all is well. `Health.read` reads such an object as somebody
would who watches relays, and knows of the page only the names of its members.

The main statement is `health_answer`: whatever the site and the relay are, the page is read, and it
shows the number of the registered clients.
-/

namespace Switchboard

open Json

/-! ## Figures -/

/-- A number is read back from its digits. -/
theorem Decimal.digits?_toDigits (n : Nat) : Decimal.digits? (Nat.toDigits 10 n) = some n := by
  have hdigits : ∀ c ∈ Nat.toDigits 10 n, c.isDigit = true := fun c hc =>
    Nat.isDigit_of_mem_toDigits (by decide) (by decide) hc
  have hsome : ((Nat.toDigits 10 n).isEmpty || !(Nat.toDigits 10 n).all Char.isDigit) = false := by
    simp [List.isEmpty_eq_false_iff.mpr Nat.toDigits_ne_nil, List.all_eq_true.mpr hdigits]
  rw [Decimal.digits?, hsome, if_neg Bool.false_ne_true]
  exact congrArg some Nat.ofDigitChars_ten_toDigits

/-! ## The report -/

/-- What a page of health reports. -/
structure Health where
  /-- The number of clients, if a whole number stands there. -/
  clients : Option Nat
  status : String
deriving DecidableEq, Repr

namespace Health

structure Slots where
  clients : Option (Option Nat) := none
  status : Option String := none
deriving DecidableEq, Repr

def Slots.finish (s : Slots) : Except Cause Health :=
  match require "clients" s.clients, require "status" s.status with
  | .error cause, _ => .error cause
  | .ok _, .error cause => .error cause
  | .ok clients, .ok status => .ok { clients, status }

def readFigure : Reader (Option Nat) := raw.map fun s => Decimal.digits? s.toList

def record : Record Slots Health where
  title := "Health"
  empty := {}
  member name s :=
    if name = "clients" then once name s.clients readFigure fun v => { s with clients := some v }
    else if name = "status" then once name s.status text fun v => { s with status := some v }
    else none
  elements := [
    fun s => readFigure.map fun v => { s with clients := some v },
    fun s => text.map fun v => { s with status := some v }]
  required := 2
  finish := Slots.finish

def read : Reader Health := record.read

/-- A figure is read back as it was written. -/
theorem readFigure_toDigits (n : Nat) {rest : List Char} (hrest : EndsValue rest) :
    readFigure (Nat.toDigits 10 n ++ rest) = .ok (some n, rest) := by
  have hraw := (value_toDigits n).raw_append hrest.afterValue
  rw [readFigure, Reader.map_ok hraw, String.toList_ofList, Decimal.digits?_toDigits]

/-- The members of the page are read one after the other. -/
theorem readsMembers (n : Nat) (status : String) :
    ReadsMembers record record.empty
      [("clients", Nat.toDigits 10 n), ("status", writeText status)]
      { clients := some (some n), status := some status } := by
  refine .cons rfl (fun rest hrest => Reader.map_ok (readFigure_toDigits n hrest) _) ?_
  refine .cons rfl (fun rest _ => Reader.map_ok (text_writeText status rest) _) ?_
  exact .nil _

end Health

/-! ## The page -/

/-- **The page of health shows the registered clients**, whatever the site and the relay are. -/
theorem health_answer (s : Site) (relay : Relay) :
    let page := s.answer relay { path := "/health" }
    page.status = 200 ∧ page.contentType = some "application/json" ∧
      readWhole? Health.read page.body = .ok ⟨some relay.registry.size, "ok"⟩ := by
  have hpath : String.ofList ("/health".toList.takeWhile fun c => c ≠ '?' && c ≠ '#') =
      "/health" := by rfl
  have hpage : s.answer relay { path := "/health" } = .health relay.registry := by
    rw [Site.answer]
    simp only [hpath]
    rfl
  have hread := Record.read_writeObject (Health.readsMembers relay.registry.size "ok") []
  rw [List.append_nil] at hread
  rw [hpage]
  exact ⟨rfl, rfl, readWhole?_ofList hread⟩

end Switchboard
