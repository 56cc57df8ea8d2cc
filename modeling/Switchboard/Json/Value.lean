import Switchboard.Json.Lexeme

/-!
# JSON values by their grammar

A value whose meaning does not matter is only checked. The check takes one character at a time: a
`Stand` says what the next character has to be, a stack of `Nest`s which brackets are open, and
`step` what the character changes. A value that ends with its own last character is `done`; a
number ends at the first character that does not continue it, which it leaves, and so has to
`stop` before that character. Brackets may nest to any depth.

Within texts escapes are checked for their form alone: a surrogate needs no partner here.

`skipValue` is the check from the start of a value. It returns what follows the value.
-/

namespace Switchboard.Json

inductive Nest where
  | list
  | object
deriving DecidableEq, Repr

def Nest.closer : Nest → Char
  | list => ']'
  | object => '\x7d'

/-- Where the check stands between two characters. -/
inductive Stand where
  /-- A value has to start. -/
  | value
  /-- After an opening square bracket: a value, or the end of the list. -/
  | element
  /-- After an opening brace: a name, or the end of the object. -/
  | member
  /-- After a comma in an object: a name. -/
  | name
  /-- After a name: a colon. -/
  | colon
  /-- After a value inside brackets: a comma or the end. -/
  | more
  /-- Inside a word, of which this much is still to come. -/
  | word (rest : List Char)
  | minus
  /-- After a zero that begins a number. -/
  | zero
  | whole
  | point
  | fraction
  /-- After the letter that begins an exponent. -/
  | exponent
  | exponentSign
  | exponentDigits
  /-- Inside a text, which may be the name of a member. -/
  | text (isName : Bool)
  /-- After a backslash in a text. -/
  | escape (isName : Bool)
  /-- Inside the four bytes after `\u`: how many are to come, and whether all so far were digits. -/
  | hex (isName : Bool) (need : Nat) (valid : Bool)
deriving DecidableEq, Repr

inductive Step where
  | next (stand : Stand) (nests : List Nest)
  /-- The character is the last of the value. -/
  | done
  /-- The value ended before the character. -/
  | stop
  /-- The value is refused, `skip` bytes after the place before the character. -/
  | refuse (cause : Cause) (skip : Nat)
deriving DecidableEq, Repr

/-- A value has ended with the character just read. -/
def Step.closed : List Nest → Step
  | [] => .done
  | nest :: nests => .next .more (nest :: nests)

def Step.start (nests : List Nest) (c : Char) : Step :=
  if c = 'n' then .next (.word ['u', 'l', 'l']) nests
  else if c = 't' then .next (.word ['r', 'u', 'e']) nests
  else if c = 'f' then .next (.word ['a', 'l', 's', 'e']) nests
  else if c = '-' then .next .minus nests
  else if c = '0' then .next .zero nests
  else if c.isDigit then .next .whole nests
  else if c = '"' then .next (.text false) nests
  else if c = '[' then .next .element (.list :: nests)
  else if c = '\x7b' then .next .member (.object :: nests)
  else .refuse .expectedValue 1

def Step.after : List Nest → Char → Step
  | [], _ => .stop
  | nest :: nests, c =>
    if isSpace c then .next .more (nest :: nests)
    else if c = nest.closer then .closed nests
    else if c = ',' then
      .next (match nest with | .list => .value | .object => .name) (nest :: nests)
    else match nest with
      | .list => .refuse .expectedListCommaOrEnd 1
      | .object => .refuse .expectedObjectCommaOrEnd 1

/-- The character `c` follows digits that may end a number. -/
def Step.afterDigits (nests : List Nest) (c : Char) : Step :=
  if c = 'e' ∨ c = 'E' then .next .exponent nests else .after nests c

/-- The character `c` stands where a name has to. -/
def Step.beginName (nests : List Nest) (c : Char) : Step :=
  if c = '"' then .next (.text true) nests else .refuse .keyNotText 1

/-- What the character `c` does, standing at `stand` with the brackets `nests` open. -/
def step (stand : Stand) (nests : List Nest) (c : Char) : Step :=
  match stand with
  | .value => if isSpace c then .next .value nests else .start nests c
  | .element =>
    if isSpace c then .next .element nests
    else if c = ']' then .closed nests.tail
    else .start nests c
  | .member =>
    if isSpace c then .next .member nests
    else if c = '\x7d' then .closed nests.tail
    else .beginName nests c
  | .name => if isSpace c then .next .name nests else .beginName nests c
  | .colon =>
    if isSpace c then .next .colon nests
    else if c = ':' then .next .value nests
    else .refuse .expectedColon 1
  | .more => .after nests c
  -- a word is left with its last letter, so nothing stands here
  | .word [] => .refuse .expectedWord 1
  | .word (w :: ws) =>
    if c ≠ w then .refuse .expectedWord 1
    else if ws.isEmpty then .closed nests
    else .next (.word ws) nests
  | .minus =>
    if c = '0' then .next .zero nests
    else if c.isDigit then .next .whole nests
    else .refuse .invalidNumber 1
  | .zero =>
    if c.isDigit then .refuse .invalidNumber 1
    else if c = '.' then .next .point nests
    else .afterDigits nests c
  | .whole =>
    if c.isDigit then .next .whole nests
    else if c = '.' then .next .point nests
    else .afterDigits nests c
  | .point => if c.isDigit then .next .fraction nests else .refuse .invalidNumber 1
  | .fraction => if c.isDigit then .next .fraction nests else .afterDigits nests c
  | .exponent =>
    if c = '+' ∨ c = '-' then .next .exponentSign nests
    else if c.isDigit then .next .exponentDigits nests
    else .refuse .invalidNumber 1
  | .exponentSign => if c.isDigit then .next .exponentDigits nests else .refuse .invalidNumber 1
  | .exponentDigits => if c.isDigit then .next .exponentDigits nests else .after nests c
  | .text isName =>
    if c = '"' then (if isName then .next .colon nests else .closed nests)
    else if c = '\\' then .next (.escape isName) nests
    else if c < ' ' then .refuse .controlCharacter 0
    else .next (.text isName) nests
  | .escape isName =>
    if c = 'u' then .next (.hex isName 4 true) nests
    else if c ∈ ['"', '\\', '/', 'b', 'f', 'n', 'r', 't'] then .next (.text isName) nests
    else .refuse .invalidEscape 1
  | .hex isName need valid =>
    -- four bytes are taken, whatever characters they belong to
    let valid := valid && (hexValue? c).isSome
    if c.utf8Size < need then .next (.hex isName (need - c.utf8Size) valid) nests
    else if valid then .next (.text isName) nests
    else .refuse .invalidEscape need

/-- Why the text must not end here, or `none` where a value may end. -/
def Stand.unfinished? (stand : Stand) (nests : List Nest) : Option Cause :=
  let afterValue := match nests with
    | [] => none
    | .list :: _ => some .endInList
    | .object :: _ => some .endInObject
  match stand with
  | .value | .word _ => some .endInValue
  | .element | .more => afterValue
  | .member | .name | .colon => some .endInObject
  | .zero | .whole | .fraction | .exponentDigits => afterValue
  | .minus | .point | .exponent | .exponentSign => some .invalidNumber
  | .text _ | .escape _ | .hex .. => some .endInText

/-- Check the rest of a value and return what follows it. -/
def scan : Stand → List Nest → List Char → Except Failure (List Char)
  | stand, nests, [] =>
    match stand.unfinished? nests with
    | some cause => .error (.past cause [])
    | none => .ok []
  | stand, nests, c :: cs =>
    match step stand nests c with
    | .next stand nests => scan stand nests cs
    | .done => .ok cs
    | .stop => .ok (c :: cs)
    | .refuse cause skip => .error ⟨cause, Text.byteCount (c :: cs) - skip⟩

def skipValue (cs : List Char) : Except Failure (List Char) := scan .value [] cs

end Switchboard.Json
