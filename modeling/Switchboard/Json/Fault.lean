import Switchboard.Text.Blank
import Switchboard.Text.Glyph

/-!
# What can be wrong with a JSON text

A reader works on the characters it has not read yet. When it gives up it names the `Cause` and how
many bytes were `left` at the fault, so that no reader has to count lines. `Failure.fault` turns
this into a `Place` of the whole text: the line, and the number of bytes on that line before the
fault.
-/

namespace Switchboard.Json

open Switchboard.Text

inductive Found where
  | null
  | boolean (value : Bool)
  | integer (value : Int)
  /-- A number with a fraction or exponent, or one too large for 64 bits, as it is written. -/
  | decimal (written : String)
  | text (value : String)
  | list
  | object
deriving DecidableEq, Repr

inductive Cause where
  | endInValue
  | endInList
  | endInObject
  | endInText
  | expectedValue
  | expectedWord
  | expectedColon
  | expectedListCommaOrEnd
  | expectedObjectCommaOrEnd
  | keyNotText
  | trailingComma
  | trailingCharacters
  | invalidNumber
  | numberOutOfRange
  | invalidEscape
  | loneSurrogate
  | unpairedSurrogate
  | controlCharacter
  | missingField (name : String)
  | duplicateField (name : String)
  | unexpected (found : Found) (expected : String)
  | outOfRange (value : Int) (expected : String)
  | tooFewElements (count : Nat) (expected : String)
  | unknownVariant (name : String) (known : List String)
  /-- A value of the right shape that means nothing; the reason is given in words. -/
  | refused (reason : String)
deriving DecidableEq, Repr

/-- A fault met by a reader: its cause and the number of bytes not yet read when it was met. -/
structure Failure where
  cause : Cause
  left : Nat
deriving DecidableEq, Repr

/-- A fault at the next character that is not read yet. -/
def Failure.here (cause : Cause) (rest : List Char) : Failure := ⟨cause, byteCount rest⟩

/-- A fault one byte further, or at the end of the text if that is sooner. -/
def Failure.past (cause : Cause) (rest : List Char) : Failure := ⟨cause, byteCount rest - 1⟩

/-- A line, counted from one, and the number of bytes before the place on that line. -/
structure Place where
  line : Nat
  column : Nat
deriving DecidableEq, Repr

/-- The place `budget` bytes further on than `place`, when `cs` stands from there on. -/
def Place.advance (place : Place) : Nat → List Char → Place
  | _, [] => place
  | budget, c :: cs =>
    if budget < c.utf8Size then { place with column := place.column + budget }
    else if c = '\n' then advance ⟨place.line + 1, 0⟩ (budget - c.utf8Size) cs
    else advance { place with column := place.column + c.utf8Size } (budget - c.utf8Size) cs

/-- A fault in a whole text. A fault of the meaning of the whole text has no place. -/
structure Fault where
  cause : Cause
  place : Option Place
deriving DecidableEq, Repr

def Failure.fault (text : List Char) (f : Failure) : Fault :=
  ⟨f.cause, some (Place.advance ⟨1, 0⟩ (byteCount text - f.left) text)⟩

/-! ### Texts -/

def named (name : String) : String := "\x60" ++ name ++ "\x60"

def Found.message : Found → String
  | null => "null"
  | boolean true => "boolean " ++ named "true"
  | boolean false => "boolean " ++ named "false"
  | integer n => "integer " ++ named (toString n)
  | decimal written => "floating point " ++ named written
  | text s => "string " ++ quoted s
  | list => "sequence"
  | object => "map"

def Cause.message : Cause → String
  | endInValue => "EOF while parsing a value"
  | endInList => "EOF while parsing a list"
  | endInObject => "EOF while parsing an object"
  | endInText => "EOF while parsing a string"
  | expectedValue => "expected value"
  | expectedWord => "expected ident"
  | expectedColon => "expected " ++ named ":"
  | expectedListCommaOrEnd => "expected " ++ named "," ++ " or " ++ named "]"
  | expectedObjectCommaOrEnd => "expected " ++ named "," ++ " or " ++ named "\x7d"
  | keyNotText => "key must be a string"
  | trailingComma => "trailing comma"
  | trailingCharacters => "trailing characters"
  | invalidNumber => "invalid number"
  | numberOutOfRange => "number out of range"
  | invalidEscape => "invalid escape"
  | loneSurrogate => "lone leading surrogate in hex escape"
  | unpairedSurrogate => "unexpected end of hex escape"
  | controlCharacter => "control character (\\u0000-\\u001F) found while parsing a string"
  | missingField name => "missing field " ++ named name
  | duplicateField name => "duplicate field " ++ named name
  | unexpected found expected => "invalid type: " ++ found.message ++ ", expected " ++ expected
  | outOfRange n expected =>
    "invalid value: " ++ (Found.integer n).message ++ ", expected " ++ expected
  | tooFewElements n expected => "invalid length " ++ toString n ++ ", expected " ++ expected
  | unknownVariant name known =>
    "unknown variant " ++ named name ++ ", expected one of " ++
      ", ".intercalate (known.map named)
  | refused reason => reason

def Fault.message (f : Fault) : String :=
  match f.place with
  | none => f.cause.message
  | some p =>
    f.cause.message ++ " at line " ++ toString p.line ++ " column " ++ toString p.column

end Switchboard.Json
