import Switchboard.Call.Candidate
import Switchboard.Call.Description
import Switchboard.Proofs.Json.Object

/-!
# Descriptions and candidates as payloads

What one side of a call puts into a payload is what the other side finds in it:
`Description.decode_payload` and `Candidate.decode_payload`, for every text that the description or
the candidate may hold.
-/

namespace Switchboard

open Json

/-! ## Descriptions -/

namespace Description

/-- Every kind is known by its name. -/
theorem lookup_name (k : DescriptionKind) : DescriptionKind.known.lookup k.name = some k := by
  cases k <;> rfl

/-- The members that are written fill the slots of the description. -/
theorem readsMembers (d : Description) :
    ReadsMembers record record.empty [("type", writeText d.kind.name), ("sdp", writeText d.sdp)]
      { kind := some d.kind, sdp := some d.sdp } := by
  refine .cons rfl (fun rest _ => Reader.map_ok (variant_writeText (lookup_name d.kind) rest) _) ?_
  refine .cons rfl (fun rest _ => Reader.map_ok (text_writeText d.sdp rest) _) ?_
  exact .nil _

/-- **Descriptions survive the wire.** -/
theorem decode_payload (d : Description) : d.payload.decode read = .ok d := by
  apply readWhole?_ofList
  have h := Record.read_writeObject d.readsMembers []
  rw [List.append_nil] at h
  exact h

end Description

/-! ## Candidates -/

namespace Candidate

/-- A text is no `null`. -/
theorem optional_text (s : String) (rest : List Char) :
    Json.optional Json.text (writeText s ++ rest) = .ok (some s, rest) :=
  optional_append (text_writeText s rest) ⟨'"', _, rfl, rfl, by decide⟩

/-- A number is no `null`. -/
theorem optional_word16 (w : UInt16) {rest : List Char} (hr : EndsValue rest) :
    Json.optional word16 (Nat.toDigits 10 w.toNat ++ rest) = .ok (some w, rest) := by
  refine optional_append (word16_toDigits w hr) ?_
  cases hds : Nat.toDigits 10 w.toNat with
  | nil => exact absurd hds Nat.toDigits_ne_nil
  | cons d ds =>
      have hdigit : d.isDigit = true :=
        Nat.isDigit_of_mem_toDigits (n := w.toNat) (b := 10) (by decide) (by decide) (by simp [hds])
      exact ⟨d, ds, rfl, isSpace_of_isDigit hdigit, by rintro rfl; revert hdigit; decide⟩

/-- Each part of a candidate is read into its own slot; a part that is not written leaves its slot
empty. -/
theorem readsMembers (c : Candidate) :
    ReadsMembers record record.empty c.members
      { candidate := some c.candidate, sdpMid := c.sdpMid.map some,
        sdpMLineIndex := c.sdpMLineIndex.map some,
        usernameFragment := c.usernameFragment.map some } := by
  have htext : ∀ (s : String) rest, EndsValue rest →
      Json.optional Json.text (writeText s ++ rest) = .ok (some s, rest) :=
    fun s rest _ => optional_text s rest
  have hword : ∀ (w : UInt16) rest, EndsValue rest →
      Json.optional word16 (Nat.toDigits 10 w.toNat ++ rest) = .ok (some w, rest) :=
    fun w rest hr => optional_word16 w hr
  -- one member after the other, in the order in which they are written
  have h₁ : ReadsMembers record record.empty [("candidate", writeText c.candidate)]
      { candidate := some c.candidate } :=
    .cons rfl (fun rest _ => Reader.map_ok (text_writeText c.candidate rest) _) (.nil _)
  have h₂ := ReadsMembers.ofOption record "sdpMid"
    (fun v => { candidate := some c.candidate, sdpMid := v }) rfl htext c.sdpMid
  have h₃ := ReadsMembers.ofOption record "sdpMLineIndex"
    (fun v => { candidate := some c.candidate, sdpMid := c.sdpMid.map some, sdpMLineIndex := v })
    rfl hword c.sdpMLineIndex
  have h₄ := ReadsMembers.ofOption record "usernameFragment"
    (fun v => { candidate := some c.candidate, sdpMid := c.sdpMid.map some,
                sdpMLineIndex := c.sdpMLineIndex.map some, usernameFragment := v })
    rfl htext c.usernameFragment
  exact ((h₁.append h₂).append h₃).append h₄

theorem join_map_some {β : Type} (v : Option β) : (v.map some).join = v := by cases v <;> rfl

/-- **Candidates survive the wire.** -/
theorem decode_payload (c : Candidate) : c.payload.decode read = .ok c := by
  apply readWhole?_ofList
  have h := Record.read_writeObject c.readsMembers []
  rw [List.append_nil] at h
  rw [read, write, h]
  simp [Record.close, record, Slots.finish, Json.require, join_map_some]

end Candidate

end Switchboard
