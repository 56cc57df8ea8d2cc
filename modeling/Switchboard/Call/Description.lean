import Switchboard.Wire.Message

/-!
# Session descriptions

One half of an offer and its answer: a kind, and the text that the media engine made.
-/

namespace Switchboard

/-- What a description does to an exchange. -/
inductive DescriptionKind where
  | offer
  | answer
  | pranswer
  | rollback
deriving DecidableEq, Repr

namespace DescriptionKind

def name : DescriptionKind → String
  | offer => "offer"
  | answer => "answer"
  | pranswer => "pranswer"
  | rollback => "rollback"

def title : DescriptionKind → String
  | offer => "Offer"
  | answer => "Answer"
  | pranswer => "Pranswer"
  | rollback => "Rollback"

def known : List (String × DescriptionKind) :=
  [("offer", .offer), ("answer", .answer), ("pranswer", .pranswer), ("rollback", .rollback)]

end DescriptionKind

structure Description where
  kind : DescriptionKind
  sdp : String
deriving DecidableEq, Repr

namespace Description

structure Slots where
  kind : Option DescriptionKind := none
  sdp : Option String := none
deriving DecidableEq, Repr

def Slots.finish (s : Slots) : Except Json.Cause Description :=
  match Json.require "type" s.kind, Json.require "sdp" s.sdp with
  | .error cause, _ => .error cause
  | .ok _, .error cause => .error cause
  | .ok kind, .ok sdp => .ok { kind, sdp }

def record : Json.Record Slots Description where
  title := "SessionDescription"
  empty := {}
  member name s :=
    if name = "type" then
      Json.once name s.kind (Json.variant DescriptionKind.known) fun v => { s with kind := some v }
    else if name = "sdp" then Json.once name s.sdp Json.text fun v => { s with sdp := some v }
    else none
  elements := [
    fun s => (Json.variant DescriptionKind.known).map fun v => { s with kind := some v },
    fun s => Json.text.map fun v => { s with sdp := some v }]
  required := 2
  finish := Slots.finish

def read : Json.Reader Description := record.read

def write (d : Description) : List Char :=
  Json.writeObject [("type", Json.writeText d.kind.name), ("sdp", Json.writeText d.sdp)]

def payload (d : Description) : Payload := .ofWritten d.write

end Description

end Switchboard
