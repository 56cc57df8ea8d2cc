/-!
# Path patterns

A pattern begins with a slash. A colon and a name stand for what is left of a segment, and a star
and a name at the end stand for what is left of the path. Either stands only where something is
left, which may be no more than the slash that ends the segment. All else stands for itself.

A star stands after a slash, or where the pattern is about to part from the path of another page.
-/

namespace Switchboard

inductive PathPart where
  | literal (text : List Char)
  /-- The rest of a segment. -/
  | named
  /-- The rest of the path. -/
  | remainder
deriving DecidableEq, Repr

namespace PathPart

def isMark (c : Char) : Bool := c = ':' || c = '*'

/-- A name is not empty and holds no other mark. -/
def isName (cs : List Char) : Bool := !cs.isEmpty && !cs.any isMark

/-- The parts that are written like this. `pages` are the paths that the pattern has followed so
far. -/
def readAll? (pages : List String) (cs : List Char) : Option (List PathPart) :=
  let text := cs.takeWhile fun c => !isMark c
  match _h : cs.drop text.length with
  | [] => some (if text.isEmpty then [] else [.literal text])
  | mark :: rest =>
    let name := rest.takeWhile (· ≠ '/')
    let after := rest.drop name.length
    if !isName name then none
    else if mark = ':' then
      (readAll? [] after).map fun parts => .literal text :: .named :: parts
    else if after.isEmpty && (text.getLast? = some '/' || pages.any (text.isPrefixOf ·.toList)) then
      some [.literal text, .remainder]
    else none
termination_by cs.length
decreasing_by
  have := congrArg List.length _h
  simp only [List.length_drop, List.length_cons] at this
  simp only [List.length_drop]
  omega

def fits : List PathPart → List Char → Bool
  | [], cs => cs.isEmpty
  | .literal text :: ps, cs => text.isPrefixOf cs && fits ps (cs.drop text.length)
  | .named :: ps, cs => !cs.isEmpty && fits ps (cs.dropWhile (· ≠ '/'))
  | .remainder :: _, cs => !cs.isEmpty

end PathPart

structure PathPattern where
  parts : List PathPart
deriving DecidableEq, Repr

namespace PathPattern

/-- No pattern has more names in it. -/
def maxNames : Nat := 25

def ofPath? (pages : List String) (path : String) : Option PathPattern :=
  match path.toList with
  | '/' :: cs =>
    match PathPart.readAll? pages ('/' :: cs) with
    | some parts => if parts.count .named ≤ maxNames then some ⟨parts⟩ else none
    | none => none
  | _ => none

/-- What all paths that fit a pattern begin with. -/
def start (p : PathPattern) : List Char :=
  match p.parts with
  | .literal text :: _ => text
  | _ => []

def accepts (p : PathPattern) (path : String) : Bool := PathPart.fits p.parts path.toList

end PathPattern

end Switchboard
