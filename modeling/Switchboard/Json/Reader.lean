import Switchboard.Json.Value
import Switchboard.Json.Text
import Switchboard.Json.Number

/-!
# Readers of JSON values

A `Reader` takes the characters that are not read yet and returns a value with what follows it.
Each reader skips the space before its value, none the space after it.

`Record` describes a value with named parts. It is read from an object, whose members come in any
order and may have unknown names, or from a list of the parts in their order of declaration.
-/

namespace Switchboard.Json

open Switchboard.Text

abbrev Reader (α : Type) := List Char → Except Failure (α × List Char)

def Reader.map {α β : Type} (f : α → β) (read : Reader α) : Reader β := fun cs =>
  match read cs with
  | .ok (a, rest) => .ok (f a, rest)
  | .error e => .error e

/-- The failure of a reader that wants something else than the value in front of `cs`. A value
that can be told by its first character only is not checked further. -/
def unexpected (expected : String) (cs : List Char) : Failure :=
  let word := fun found letters r =>
    match readWord letters r with
    | .ok rest => Failure.here (.unexpected found expected) rest
    | .error f => f
  let number := fun negative r =>
    match readNumber negative r with
    | .ok (n, rest) => Failure.here (.unexpected n.found expected) rest
    | .error f => f
  match cs with
  | 'n' :: r => word .null ['u', 'l', 'l'] r
  | 't' :: r => word (.boolean true) ['r', 'u', 'e'] r
  | 'f' :: r => word (.boolean false) ['a', 'l', 's', 'e'] r
  | '-' :: r => number true r
  | '"' :: r =>
    match readText r with
    | .ok (s, rest) => .here (.unexpected (.text s) expected) rest
    | .error f => f
  | '[' :: _ => .here (.unexpected .list expected) cs
  | '\x7b' :: _ => .here (.unexpected .object expected) cs
  | c :: _ => if c.isDigit then number false cs else .past .expectedValue cs
  | [] => .past .expectedValue []

def text : Reader String := fun cs =>
  match skipSpace cs with
  | [] => .error (.past .endInValue [])
  | '"' :: r => readText r
  | r => .error (unexpected "a string" r)

/-- The word `null` for nothing, any other value for something. -/
def optional {α : Type} (read : Reader α) : Reader (Option α) := fun cs =>
  match skipSpace cs with
  | 'n' :: r =>
    match readWord ['u', 'l', 'l'] r with
    | .ok rest => .ok (none, rest)
    | .error f => .error f
  | r => read.map some r

/-- Any value, as the text it is written with. -/
def raw : Reader String := fun cs =>
  let cs := skipSpace cs
  match skipValue cs with
  | .ok rest => .ok (String.ofList (cs.take (cs.length - rest.length)), rest)
  | .error f => .error f

def word16 : Reader UInt16 := fun cs =>
  let visit := fun (n : Number) rest =>
    match n with
    | .integer v =>
      if 0 ≤ v ∧ v < 65536 then .ok (UInt16.ofNat v.toNat, rest)
      else .error (.here (.outOfRange v "u16") rest)
    | .float _ => .error (.here (.unexpected n.found "u16") rest)
  match skipSpace cs with
  | [] => .error (.past .endInValue [])
  | c :: r =>
    if c = '-' then
      match readNumber true r with
      | .ok (n, rest) => visit n rest
      | .error f => .error f
    else if c.isDigit then
      match readNumber false (c :: r) with
      | .ok (n, rest) => visit n rest
      | .error f => .error f
    else .error (unexpected "u16" (c :: r))

def colon (cs : List Char) : Except Failure (List Char) :=
  match skipSpace cs with
  | ':' :: r => .ok r
  | [] => .error (.past .endInObject [])
  | r => .error (.past .expectedColon r)

def null (cs : List Char) : Except Failure (List Char) :=
  match skipSpace cs with
  | [] => .error (.past .endInValue [])
  | 'n' :: r => readWord ['u', 'l', 'l'] r
  | r => .error (unexpected "unit" r)

def lookUp {α : Type} (known : List (String × α)) (name : String) (rest : List Char) :
    Except Failure (α × List Char) :=
  match known.lookup name with
  | some a => .ok (a, rest)
  | none => .error (.here (.unknownVariant name (known.map Prod.fst)) rest)

/-! ### Lists and objects -/

/-- What follows the end of a list that was given up at `cs`, as far as it can be told. -/
def pastList (cs : List Char) : List Char :=
  match skipSpace cs with
  | ']' :: r => r
  | ',' :: r => skipSpace r
  | r => r

/-- What follows the end of an object that was given up at `cs`, as far as it can be told. -/
def pastObject (cs : List Char) : List Char :=
  match skipSpace cs with
  | '\x7d' :: r => r
  | r => r

def listEnd (cs : List Char) : Except Failure (List Char) :=
  match skipSpace cs with
  | ']' :: r => .ok r
  | ',' :: r =>
    match skipSpace r with
    | ']' :: r => .error (.past .trailingComma (']' :: r))
    | r => .error (.past .trailingCharacters r)
  | [] => .error (.past .endInList [])
  | r => .error (.past .trailingCharacters r)

/-- Go to the next element of a list: `none` before its closing bracket. -/
def nextElement (first : Bool) (cs : List Char) : Except Failure (Option (List Char)) :=
  match skipSpace cs with
  | [] => .error (.past .endInList [])
  | c :: r =>
    if c = ']' then .ok none
    else if first then .ok (some (c :: r))
    else if c = ',' then
      match skipSpace r with
      | [] => .error (.past .endInValue [])
      | ']' :: r => .error (.past .trailingComma (']' :: r))
      | r => .ok (some r)
    else .error (.past .expectedListCommaOrEnd (c :: r))

/-- Go to the name of the next member of an object, after its opening quote: `none` before the
closing brace. -/
def nextName (first : Bool) (cs : List Char) : Except Failure (Option (List Char)) :=
  match skipSpace cs with
  | [] => .error (.past .endInObject [])
  | c :: r =>
    if c = '\x7d' then .ok none
    else if first then
      if c = '"' then .ok (some r) else .error (.past .keyNotText (c :: r))
    else if c = ',' then
      match skipSpace r with
      | [] => .error (.past .endInValue [])
      | '"' :: r => .ok (some r)
      | '\x7d' :: r => .error (.past .trailingComma ('\x7d' :: r))
      | r => .error (.past .keyNotText r)
    else .error (.past .expectedObjectCommaOrEnd (c :: r))

/-- One of several names, written as a text or as the only member of an object, with the value
`null`. -/
def variant {α : Type} (known : List (String × α)) : Reader α := fun cs =>
  match skipSpace cs with
  | [] => .error (.past .endInValue [])
  | '"' :: r =>
    match readText r with
    | .ok (name, rest) => lookUp known name rest
    | .error f => .error f
  | '\x7b' :: r =>
    match nextName true r with
    | .error f => .error f
    | .ok none => .error (.past .expectedValue (skipSpace r))
    | .ok (some r) =>
      match readText r with
      | .error f => .error f
      | .ok (name, r) =>
        match lookUp known name r with
        | .error f => .error f
        | .ok (a, r) =>
          match colon r with
          | .error f => .error f
          | .ok r =>
            match null r with
            | .error f => .error f
            | .ok r =>
              match skipSpace r with
              | '\x7d' :: r => .ok (a, r)
              | [] => .error (.here .endInObject [])
              | r => .error (.here .expectedValue r)
  | r => .error (.past .expectedValue r)

/-- A value with named parts: `σ` holds the parts read so far. -/
structure Record (σ α : Type) where
  title : String
  empty : σ
  /-- How the member of a given name is read into the parts: not at all, or with a cause if it
  must not come again. -/
  member : String → σ → Option (Except Cause (Reader σ))
  /-- How the parts are read one after the other from a list. -/
  elements : List (σ → Reader σ)
  /-- How many elements a list must have at least. -/
  required : Nat
  /-- The value of the parts. -/
  finish : σ → Except Cause α

/-- Read the elements of a list from after its opening bracket or an element, one for each of the
given readers at most. Returns how many there were, too. -/
def readElements {σ : Type} (count : Nat) (parts : σ) (cs : List Char) :
    List (σ → Reader σ) → Except Failure (Nat × σ × List Char)
  | [] => .ok (count, parts, cs)
  | read :: more =>
    match nextElement (count == 0) cs with
    | .error f => .error f
    | .ok none => .ok (count, parts, cs)
    | .ok (some r) =>
      match read parts r with
      | .error f => .error f
      | .ok (parts, r) => readElements (count + 1) parts r more

/-- Read the members of an object from after its opening brace or a member, up to and including
its closing brace. Each takes one of `budget`, and a budget of one more than the number of
characters is always enough. -/
def readMembers {σ α : Type} (record : Record σ α) :
    Nat → Bool → σ → List Char → Except Failure (σ × List Char)
  | 0, _, _, cs => .error (.past .endInObject cs)
  | budget + 1, first, parts, cs =>
    match nextName first cs with
    | .error f => .error f
    | .ok none => .ok (parts, pastObject cs)
    | .ok (some r) =>
      match readText r with
      | .error f => .error f
      | .ok (name, r) =>
        match record.member name parts with
        -- a closing brace that stands here is taken before the fault is placed
        | some (.error cause) => .error (.here cause (pastObject r))
        | some (.ok read) =>
          match colon r with
          | .error f => .error f
          | .ok r =>
            match read r with
            | .error f => .error f
            | .ok (parts, r) => readMembers record budget false parts r
        | none =>
          match colon r with
          | .error f => .error f
          | .ok r =>
            match skipValue r with
            | .error f => .error f
            | .ok r => readMembers record budget false parts r

/-- The value of parts that end before `rest`. -/
def Record.close {σ α : Type} (record : Record σ α) (parts : σ) (rest : List Char) :
    Except Failure (α × List Char) :=
  match record.finish parts with
  | .ok a => .ok (a, rest)
  | .error cause => .error (.here cause rest)

/-- A record, from an object or from a list. -/
def Record.read {σ α : Type} (record : Record σ α) : Reader α := fun cs =>
  match skipSpace cs with
  | [] => .error (.past .endInValue [])
  | '[' :: r =>
    match readElements 0 record.empty r record.elements with
    | .error f => .error f
    | .ok (count, parts, r) =>
      -- the list ended too soon; its bracket is taken before the fault is placed
      if count < record.required then
        .error (.here (.tooFewElements count
          ("struct " ++ record.title ++ " with " ++ toString record.elements.length ++
            " elements")) (pastList r))
      else match listEnd r with
        | .error f => .error f
        | .ok r => record.close parts r
  | '\x7b' :: r =>
    match readMembers record (r.length + 1) true record.empty r with
    | .error f => .error f
    | .ok (parts, r) => record.close parts r
  | r => .error (unexpected ("struct " ++ record.title) r)

/-- A part that must not be read twice. -/
def once {α σ : Type} (name : String) (slot : Option α) (read : Reader α) (put : α → σ) :
    Option (Except Cause (Reader σ)) :=
  some (if slot.isSome then .error (.duplicateField name) else .ok (read.map put))

def require {α : Type} (name : String) : Option α → Except Cause α
  | some a => .ok a
  | none => .error (.missingField name)

/-! ### Whole texts -/

/-- Nothing but space may follow a value. -/
def atEnd (cs : List Char) : Except Failure Unit :=
  match skipSpace cs with
  | [] => .ok ()
  | r => .error (.past .trailingCharacters r)

def readWhole? {α : Type} (read : Reader α) (text : String) : Except Fault α :=
  let cs := text.toList
  match read cs with
  | .error f => .error (f.fault cs)
  | .ok (a, rest) =>
    match atEnd rest with
    | .error f => .error (f.fault cs)
    | .ok () => .ok a

/-- Read the elements of a list from after its opening bracket or an element, up to and including
its closing bracket. The meaning of an element may be refused in words. -/
def readAll {α β : Type} (read : Reader α) (meaning : α → Except String β) :
    Nat → Bool → List Char → Except Failure (List β × List Char)
  | 0, _, cs => .error (.past .endInList cs)
  | budget + 1, first, cs =>
    match nextElement first cs with
    | .error f => .error f
    | .ok none => .ok ([], pastList cs)
    | .ok (some r) =>
      match read r with
      | .error f => .error f
      | .ok (a, r) =>
        match meaning a with
        -- the element is read already, so the fault lies behind it
        | .error reason => .error (.here (.refused reason) (pastList r))
        | .ok b =>
          match readAll read meaning budget false r with
          | .error f => .error f
          | .ok (bs, r) => .ok (b :: bs, r)

def listOf {α β : Type} (read : Reader α) (meaning : α → Except String β) : Reader (List β) :=
  fun cs =>
    match skipSpace cs with
    | [] => .error (.past .endInValue [])
    | '[' :: r => readAll read meaning (r.length + 1) true r
    | r => .error (unexpected "a sequence" r)

end Switchboard.Json
