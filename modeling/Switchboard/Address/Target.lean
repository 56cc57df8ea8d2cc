import Switchboard.Address.Host

/-!
# Targets

A target says where a connection is to go: it has a scheme, an authority, or both. It is taken as it
is written; nothing is decoded or put into a normal form. Of its path, its query and its fragment
only the characters are checked, those of the fragment not at all. What begins with a slash, or is a
single star, is a path and leads nowhere.
-/

namespace Switchboard.Address

inductive TargetError where
  | empty
  | tooLong
  | badCharacter
  | badAuthority
  | badFormat
  | schemeTooLong
deriving DecidableEq, Repr

def TargetError.message : TargetError → String
  | empty => "empty string"
  | tooLong => "uri too long"
  | badCharacter => "invalid uri character"
  | badAuthority => "invalid authority"
  | badFormat => "invalid format"
  | schemeTooLong => "scheme too long"

structure Target where
  scheme : Option String := none
  /-- User, host and port as they are written. -/
  authority : Option (List Char) := none
deriving DecidableEq, Repr

namespace Target

def maxLength : Nat := 65534

def maxScheme : Nat := 64

/-! ### Authorities -/

/-- The visible characters that may not stand in an authority, and the percent sign. -/
def refused : List Char := ['"', '%', '<', '>', '\\', '^', '\x60', '\x7b', '|', '\x7d']

def plain (c : Char) : Bool := isVisible c && !refused.contains c

def endsAuthority (c : Char) : Bool := c = '/' || c = '?' || c = '#'

/-- What was seen of an authority. A user and what stands in brackets are forgotten again. -/
structure Seen where
  colons : Nat := 0
  opened : Bool := false
  closed : Bool := false
  percent : Bool := false
  atSign : Bool := false
deriving DecidableEq, Repr

def Seen.next (s : Seen) (c : Char) : Except TargetError Seen :=
  let s := { s with atSign := c = '@' }
  match c with
  | ':' => if s.colons < 8 then .ok { s with colons := s.colons + 1 } else .error .badAuthority
  | '[' => if s.percent || s.opened then .error .badAuthority else .ok { s with opened := true }
  | ']' =>
    if s.opened && !s.closed then .ok { s with closed := true, colons := 0, percent := false }
    else .error .badAuthority
  | '@' => .ok { s with colons := 0, percent := false }
  | '%' => .ok { s with percent := true }
  | c => if plain c then .ok s else .error .badCharacter

/-- A whole authority is in order: its brackets are closed, it has one port at most, the host holds
no percent sign, and there is a host after a user. -/
def Seen.isSound (s : Seen) : Bool :=
  s.opened == s.closed && s.colons ≤ 1 && !s.percent && !s.atSign

def skipAuthority (s : Seen) : List Char → Except TargetError (List Char)
  | [] => if s.isSound then .ok [] else .error .badAuthority
  | c :: cs =>
    if endsAuthority c then if s.isSound then .ok (c :: cs) else .error .badAuthority
    else match s.next c with
      | .ok s => skipAuthority s cs
      | .error e => .error e

/-! ### Paths and queries -/

def inPath (c : Char) : Bool := 0x20 < c.toNat && c ≠ '<' && c ≠ '>' && c ≠ '\x60'

def inQuery (c : Char) : Bool := 0x20 < c.toNat && c ≠ '<' && c ≠ '>' && c ≠ '"'

def checkTail (cs : List Char) : Except TargetError Unit :=
  let cs := cs.takeWhile (· ≠ '#')
  let path := cs.takeWhile (· ≠ '?')
  if path.all inPath && (cs.drop path.length).all inQuery then .ok () else .error .badCharacter

/-! ### Targets -/

def inScheme (c : Char) : Bool := c.isAlphanum || ['+', '-', '.', '~'].contains c

def splitScheme? (cs : List Char) : Option (List Char × List Char) :=
  let scheme := cs.takeWhile inScheme
  match cs.drop scheme.length with
  | ':' :: '/' :: '/' :: rest => some (scheme, rest)
  | _ => none

/-- A target that does not begin with a path. Without a scheme it is an authority only. -/
def readFull (cs : List Char) : Except TargetError Target :=
  match splitScheme? cs with
  | none =>
    match skipAuthority {} cs with
    | .error e => .error e
    | .ok [] => .ok { authority := some cs }
    -- a lone mark is no authority that something follows
    | .ok _ => .error (if cs.length = 1 then .badCharacter else .badFormat)
  | some (scheme, rest) =>
    if maxScheme < scheme.length then .error .schemeTooLong
    else match skipAuthority {} rest with
      | .error e => .error e
      | .ok after =>
        let authority := rest.take (rest.length - after.length)
        if authority.isEmpty then .error .badFormat
        else (checkTail after).map fun _ =>
          { scheme := some (String.ofList scheme), authority := some authority }

def read (s : String) : Except TargetError Target :=
  if maxLength < s.utf8ByteSize then .error .tooLong
  else match s.toList with
    | [] => .error .empty
    | ['*'] => .ok {}
    | '/' :: cs => (checkTail ('/' :: cs)).map fun _ => {}
    | cs => readFull cs

/-- The port of an authority, if one is written behind its last colon. A plus sign before it is no
matter. -/
def port? (authority : List Char) : Option Nat :=
  let port := (authority.reverse.takeWhile (· ≠ ':')).reverse
  let digits := match port with
    | '+' :: cs => cs
    | cs => cs
  if port.length = authority.length || digits.isEmpty then none
  else (digitsValue? 10 digits).filter (· < 65536)

/-- Whether it can be told which port to connect to: one is written, or the scheme has one. -/
def hasPort (t : Target) : Bool :=
  (t.authority.bind port?).isSome || t.scheme = some "ws" || t.scheme = some "wss"

end Target

end Switchboard.Address
