import Switchboard.Text.Glyph

/-!
# Media

The tracks that a side captures and sends, and the tracks that arrive from the other side.
-/

namespace Switchboard

inductive TrackKind where
  | audio
  | video
deriving DecidableEq, Repr

namespace TrackKind

def name : TrackKind → String
  | audio => "audio"
  | video => "video"

def title : TrackKind → String
  | audio => "Audio"
  | video => "Video"

def ofMime? (mime : String) : Option TrackKind :=
  if "audio/".toList.isPrefixOf mime.toList then some .audio
  else if "video/".toList.isPrefixOf mime.toList then some .video
  else none

end TrackKind

structure Track where
  mime : String
  id : String
  stream : String
deriving DecidableEq, Repr

def Track.kind? (t : Track) : Option TrackKind := TrackKind.ofMime? t.mime

/-- Tracks that are captured together. -/
structure MediaSet where
  tracks : List Track
deriving DecidableEq, Repr

namespace MediaSet

def cameraAndMicrophone (stream : String) : MediaSet :=
  ⟨[⟨"audio/opus", stream ++ "-audio", stream⟩, ⟨"video/VP8", stream ++ "-video", stream⟩]⟩

def isEmpty (m : MediaSet) : Bool := m.tracks.isEmpty

def size (m : MediaSet) : Nat := m.tracks.length

def kinds (m : MediaSet) : List TrackKind := m.tracks.filterMap Track.kind?

def summary (m : MediaSet) : String := Text.quotedList (m.tracks.map Track.id)

end MediaSet

structure RemoteTrack where
  id : String
  stream : String
  kind : Option TrackKind
deriving DecidableEq, Repr

def RemoteTrack.summary (t : RemoteTrack) : String :=
  let kind := match t.kind with
    | none => "None"
    | some k => "Some(" ++ k.title ++ ")"
  "RemoteTrack \x7b id: " ++ Text.quoted t.id ++ ", stream_id: " ++ Text.quoted t.stream ++
    ", kind: " ++ kind ++ " \x7d"

end Switchboard
