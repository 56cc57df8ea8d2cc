import Switchboard.Json.Lexeme

/-!
# JSON texts

`readText` reads a text from after its opening quote, one character at a time, and resolves its
escapes; a surrogate has to stand with its partner. `writeText` writes a text with as few escapes
as the format allows: the quote, the backslash and the characters below the space.
-/

namespace Switchboard.Json

/-- Where the reading of a text stands between two characters. -/
inductive TextStand where
  | plain
  | escape
  /-- After `\u`: bytes to come, the value so far unless a byte was no digit, and the leading
  surrogate that waits for its partner. -/
  | hex (need : Nat) (value : Option Nat) (lead : Option Nat)
  /-- After a leading surrogate: a backslash. -/
  | pairSlash (lead : Nat)
  /-- After a leading surrogate and a backslash: the letter `u`. -/
  | pairLetter (lead : Nat)
deriving DecidableEq, Repr

/-- What one character does to the reading of a text. -/
inductive TextStep where
  | next (stand : TextStand)
  | yield (c : Char)
  | done
  | refuse (cause : Cause) (skip : Nat)
deriving DecidableEq, Repr

def escapeLetter? (c : Char) : Option Char :=
  if c = '"' ∨ c = '\\' ∨ c = '/' then some c
  else if c = 'b' then some '\x08'
  else if c = 'f' then some '\x0c'
  else if c = 'n' then some '\n'
  else if c = 'r' then some '\r'
  else if c = 't' then some '\t'
  else none

def isLeading (n : Nat) : Bool := 0xD800 ≤ n && n ≤ 0xDBFF

def isTrailing (n : Nat) : Bool := 0xDC00 ≤ n && n ≤ 0xDFFF

/-- Four hexadecimal digits with value `n` are complete; the last of them took `need` bytes. -/
def TextStep.unit (n : Nat) (need : Nat) : Option Nat → TextStep
  | none =>
    -- a trailing surrogate may not come first
    if isTrailing n then .refuse .loneSurrogate need
    else if isLeading n then .next (.pairSlash n)
    else .yield (Char.ofNat n)
  | some lead =>
    if isTrailing n then .yield (Char.ofNat (0x10000 + (lead - 0xD800) * 0x400 + (n - 0xDC00)))
    else .refuse .loneSurrogate need

/-- What the character `c` does, standing at `stand`. -/
def textStep (stand : TextStand) (c : Char) : TextStep :=
  match stand with
  | .plain =>
    if c = '"' then .done
    else if c = '\\' then .next .escape
    else if c < ' ' then .refuse .controlCharacter 1
    else .yield c
  | .escape =>
    if c = 'u' then .next (.hex 4 (some 0) none)
    else match escapeLetter? c with
      | some d => .yield d
      | none => .refuse .invalidEscape 1
  | .hex need value lead =>
    let value := match value, hexValue? c with
      | some n, some d => some (16 * n + d)
      | _, _ => none
    if c.utf8Size < need then .next (.hex (need - c.utf8Size) value lead)
    else match value with
      | some n => .unit n need lead
      | none => .refuse .invalidEscape need
  | .pairSlash lead => if c = '\\' then .next (.pairLetter lead) else .refuse .unpairedSurrogate 1
  | .pairLetter lead =>
    if c = 'u' then .next (.hex 4 (some 0) (some lead)) else .refuse .unpairedSurrogate 1

/-- Read the rest of a text; `taken` holds its characters so far, the last one first. -/
def readTextFrom (stand : TextStand) (taken : List Char) :
    List Char → Except Failure (List Char × List Char)
  | [] => .error (.past .endInText [])
  | c :: cs =>
    match textStep stand c with
    | .next stand => readTextFrom stand taken cs
    | .yield d => readTextFrom .plain (d :: taken) cs
    | .done => .ok (taken.reverse, cs)
    | .refuse cause skip => .error ⟨cause, Text.byteCount (c :: cs) - skip⟩

def readText (cs : List Char) : Except Failure (String × List Char) :=
  match readTextFrom .plain [] cs with
  | .ok (taken, rest) => .ok (String.ofList taken, rest)
  | .error f => .error f

/-! ### Writing -/

def hexDigit (n : Nat) : Char := if n < 10 then Char.ofNat (0x30 + n) else Char.ofNat (0x61 + n - 10)

def writeChar (c : Char) : List Char :=
  if c = '"' then ['\\', '"']
  else if c = '\\' then ['\\', '\\']
  else if c = '\x08' then ['\\', 'b']
  else if c = '\x0c' then ['\\', 'f']
  else if c = '\n' then ['\\', 'n']
  else if c = '\r' then ['\\', 'r']
  else if c = '\t' then ['\\', 't']
  else if c < ' ' then
    ['\\', 'u', '0', '0', hexDigit (c.toNat / 16), hexDigit (c.toNat % 16)]
  else [c]

def writeText (s : String) : List Char := '"' :: s.toList.flatMap writeChar ++ ['"']

/-- A list of members as a JSON object without space; the values are written already. -/
def writeObject (members : List (String × List Char)) : List Char :=
  let member := fun m => writeText m.1 ++ ':' :: m.2
  '\x7b' :: List.intercalate [','] (members.map member) ++ ['\x7d']

end Switchboard.Json
