import Switchboard.Address.NameCharacters
import Switchboard.Address.Punycode
import Switchboard.Text.Composition
import Switchboard.Text.Direction
import Switchboard.Text.Joining

/-!
# Labels of host names

The labels of a name are the texts between its points. A label with characters beyond ASCII is
written in ASCII behind a mark. What stands behind the mark must need it: it is a label in its
normal form, with at least one character beyond ASCII, and it holds only characters that may stand
in names, in places where they may stand. Where one label of a name is written from right to left,
all of them have to keep their order in a line that runs either way.
-/

namespace Switchboard.Address.Label

open Switchboard.Text

def mark : List Char := ['x', 'n', '-', '-']

def isAscii (cs : List Char) : Bool := cs.all fun c => c.toNat < 128

/-! ### Joiners -/

def nonJoiner : Char := '\u200c'

def joiner : Char := '\u200d'

/-- Whether the first character that is not passed joins. -/
def meets (joins : Char → Bool) (cs : List Char) : Bool :=
  ((cs.dropWhile fun c => !joins c && Joining.isTransparent c).head?.map joins).getD false

/-- Whether every joiner stands where it makes a difference: behind a mark that silences a vowel,
or, if it keeps apart, between two letters that would be joined. `before` holds what comes before,
the last first. -/
def joinersFit (before : List Char) : List Char → Bool
  | [] => true
  | c :: cs =>
    let silenced := (before.head?.map Composition.markClass) = some Composition.viramaClass
    let fits :=
      if c = nonJoiner then
        silenced || (meets Joining.toNext before && meets Joining.toPrevious cs)
      else if c = joiner then silenced
      else true
    fits && joinersFit (c :: before) cs

/-! ### Direction -/

/-- Whether a label makes its name one that is written from right to left. -/
def turns (cs : List Char) : Bool :=
  cs.any fun c => direction c = .right || direction c = .arabicDigit

/-- Whether a label keeps its order beside labels that are written from right to left: it begins
with a letter and ends in a letter or digit of the same direction, and holds nothing of the other
direction and no digits of two kinds. Marks at its end are no matter. -/
def keepsOrder (cs : List Char) : Bool :=
  let ds := (cs.map direction).reverse.dropWhile (· = .mark)
  let all := fun (allowed : List Direction) => ds.all allowed.contains
  match cs.head?.map direction, ds.head? with
  | some .left, some last =>
    (last = .left || last = .digit) && all [.left, .digit, .neutral, .mark]
  | some .right, some last =>
    (last = .right || last = .digit || last = .arabicDigit) &&
      all [.right, .digit, .arabicDigit, .neutral, .mark] &&
      !(ds.contains .digit && ds.contains .arabicDigit)
  | _, _ => false

/-! ### Labels -/

def isSound (cs : List Char) : Bool :=
  cs.all (fun c => c.toNat < 128 || isNameCharacter c) && Composition.normalForm cs = cs &&
    !(cs.head?.map isMark).getD false && joinersFit [] cs && !mark.isPrefixOf cs

def read? (cs : List Char) : Option (List Char) :=
  if mark.isPrefixOf cs then
    match Punycode.decode? (cs.drop mark.length) with
    | none => none
    | some ns =>
      let label := ns.map Char.ofNat
      if ns.all Nat.isValidChar && !isAscii label && isSound label then some label else none
  else if isAscii cs || isSound cs then some cs
  else none

def write (cs : List Char) : List Char :=
  if isAscii cs then cs else mark ++ Punycode.encode cs

/-- The labels of a name that is written like this. An empty label has no order to keep. -/
def readAll? (parts : List (List Char)) : Option (List (List Char)) :=
  match parts.mapM read? with
  | none => none
  | some labels =>
    if labels.any turns && !labels.all fun cs => cs.isEmpty || keepsOrder cs then none
    else some labels

end Switchboard.Address.Label
