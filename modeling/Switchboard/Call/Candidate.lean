import Switchboard.Wire.Message

/-!
# Candidates

A network address at which one side of a call may be reached, as browsers write it.
-/

namespace Switchboard

/-- A candidate. Only its own text has to be there. -/
structure Candidate where
  candidate : String
  sdpMid : Option String := none
  sdpMLineIndex : Option UInt16 := none
  usernameFragment : Option String := none
deriving DecidableEq, Repr

namespace Candidate

/-- The parts of a candidate read so far. A part that was `null` is read, but empty. -/
structure Slots where
  candidate : Option String := none
  sdpMid : Option (Option String) := none
  sdpMLineIndex : Option (Option UInt16) := none
  usernameFragment : Option (Option String) := none
deriving DecidableEq, Repr

def Slots.finish (s : Slots) : Except Json.Cause Candidate :=
  match Json.require "candidate" s.candidate with
  | .error cause => .error cause
  | .ok candidate =>
    .ok { candidate, sdpMid := s.sdpMid.join, sdpMLineIndex := s.sdpMLineIndex.join,
          usernameFragment := s.usernameFragment.join }

def record : Json.Record Slots Candidate where
  title := "IceCandidate"
  empty := {}
  member name s :=
    if name = "candidate" then
      Json.once name s.candidate Json.text fun v => { s with candidate := some v }
    else if name = "sdpMid" then
      Json.once name s.sdpMid (Json.optional Json.text) fun v => { s with sdpMid := some v }
    else if name = "sdpMLineIndex" then
      Json.once name s.sdpMLineIndex (Json.optional Json.word16)
        fun v => { s with sdpMLineIndex := some v }
    else if name = "usernameFragment" then
      Json.once name s.usernameFragment (Json.optional Json.text)
        fun v => { s with usernameFragment := some v }
    else none
  elements := [
    fun s => Json.text.map fun v => { s with candidate := some v },
    fun s => (Json.optional Json.text).map fun v => { s with sdpMid := some v },
    fun s => (Json.optional Json.word16).map fun v => { s with sdpMLineIndex := some v },
    fun s => (Json.optional Json.text).map fun v => { s with usernameFragment := some v }]
  required := 1
  finish := Slots.finish

def read : Json.Reader Candidate := record.read

def members (c : Candidate) : List (String × List Char) :=
  let part := fun {α : Type} (name : String) (write : α → List Char) (v : Option α) =>
    (v.map fun a => (name, write a)).toList
  [("candidate", Json.writeText c.candidate)] ++
    part "sdpMid" Json.writeText c.sdpMid ++
    part "sdpMLineIndex" (fun n => Nat.toDigits 10 n.toNat) c.sdpMLineIndex ++
    part "usernameFragment" Json.writeText c.usernameFragment

def write (c : Candidate) : List Char := Json.writeObject c.members

def payload (c : Candidate) : Payload := .ofWritten c.write

end Candidate

end Switchboard
