import Switchboard.Text.Blank

/-!
# What a program is started with

The variables of its environment, and the arguments of its command.

The values of variables are bytes; one that is no text counts as unset. A whole number among them is
written with decimal digits, after a plus sign if one likes. Nothing else may stand around it, and
it has to be below a bound.

A command takes options, each with one value and at most once, and hands over to a subcommand as
soon as it meets its name. The value of an option stands in the next word, or in the same word
after an equals sign, or right after a short name.

A value that stands in a word of its own is looked at only when the next option comes or the words
are at an end. An argument that fits nowhere is reported at once, before that.
-/

namespace Switchboard

/-! ## Variables -/

structure Environment where
  bindings : List (String × ByteArray) := []

namespace Environment

def text? (env : Environment) (name : String) : Option String :=
  (env.bindings.lookup name).bind String.fromUTF8?

/-- The text of a variable, unless it is blank. It keeps the blank characters around it. -/
def visibleText? (env : Environment) (name : String) : Option String :=
  (env.text? name).filter fun s => !Text.isAllBlank s

end Environment

/-! ## Numbers -/

namespace Decimal

def digits? (cs : List Char) : Option Nat :=
  if cs.isEmpty || !cs.all Char.isDigit then none
  else some (cs.foldl (fun n c => 10 * n + (c.toNat - '0'.toNat)) 0)

def whole? (bound : Nat) (s : String) : Option Nat :=
  let digits := match s.toList with
    | '+' :: cs => cs
    | cs => cs
  (digits? digits).filter (· < bound)

/-- The integer that `s` holds, with a sign or without, if it lies between the bounds. -/
def integer? (least bound : Int) (s : String) : Option Int :=
  let value := match s.toList with
    | '-' :: cs => (digits? cs).map fun n => -(n : Int)
    | '+' :: cs => (digits? cs).map Int.ofNat
    | cs => (digits? cs).map Int.ofNat
  value.filter fun n => least ≤ n ∧ n < bound

def wordBound : Nat := 0x10000000000000000

end Decimal

/-! ## Arguments -/

inductive UsageError where
  | help
  | unknownArgument
  | unknownSubcommand
  /-- An option has no value, or none of those that it may have. -/
  | invalidValue
  | badValue
  | repeated
  | missingArgument
  | unneededValue
deriving DecidableEq, Repr

/-- Asking for help is no mistake. -/
def UsageError.exitCode : UsageError → Nat
  | help => 0
  | _ => 2

namespace Arguments

structure Choice where
  name : String
  short : Option Char := none
  check : String → Option UsageError := fun _ => none

/-- What a command understands. Every command also understands `help`. -/
structure Command where
  choices : List Choice
  subcommands : List String := []

structure Reading where
  values : List (String × String) := []
  /-- The last option, and its value once that has come. -/
  open? : Option (Choice × Option String) := none

def Reading.take (r : Reading) (c : Choice) (value : String) : Except UsageError Reading :=
  if (r.values.lookup c.name).isSome then .error .repeated
  else match c.check value with
    | some e => .error e
    | none => .ok { values := (c.name, value) :: r.values }

def Reading.settle (r : Reading) : Except UsageError Reading :=
  match r.open? with
  | none => .ok r
  | some (_, none) => .error .invalidValue
  | some (c, some value) => r.take c value

def Reading.wantsValue (r : Reading) : Bool :=
  match r.open? with
  | some (_, none) => true
  | _ => false

def Reading.help {α : Type} (r : Reading) : Except UsageError α :=
  match r.settle with
  | .ok _ => .error .help
  | .error e => .error e

def Reading.choose (r : Reading) (c : Choice) (attached : Option String) :
    Except UsageError Reading :=
  match r.settle with
  | .error e => .error e
  | .ok r =>
    match attached with
    | some value => r.take c value
    | none => .ok { r with open? := some (c, none) }

inductive Word where
  /-- All words after this one are plain. -/
  | escape
  | long (name : String) (value : Option String)
  /-- A short name, and what follows it in the same word. -/
  | short (name : Char) (rest : List Char)
  | plain

/-- What stands before an equals sign, and what after it. -/
def splitValue (cs : List Char) : String × Option String :=
  let name := cs.takeWhile (· ≠ '=')
  (String.ofList name,
    match cs.drop name.length with
    | [] => none
    | _ :: value => some (String.ofList value))

def Word.of (s : String) : Word :=
  match s.toList with
  | ['-', '-'] => .escape
  | '-' :: '-' :: cs => .long (splitValue cs).1 (splitValue cs).2
  | '-' :: c :: cs => .short c cs
  | _ => .plain

/-- The value that is attached to a short name. -/
def shortValue : List Char → Option String
  | [] => none
  | '=' :: cs => some (String.ofList cs)
  | cs => some (String.ofList cs)

/-- A word that is neither an option nor a value, where subcommands are known or not. -/
def Command.stray (c : Command) : UsageError :=
  if c.subcommands.isEmpty then .unknownArgument else .unknownSubcommand

/-- Read words up to the name of a subcommand. Returns that name with the words after it. -/
def Command.read (c : Command) (r : Reading) :
    List String → Except UsageError (Reading × Option (String × List String))
  | [] => .ok (r, none)
  | w :: ws =>
    -- the name of a subcommand may be the value of an option
    if !r.wantsValue && c.subcommands.contains w then .ok (r, some (w, ws))
    else match Word.of w with
      | .escape =>
        match ws with
        | [] => .ok (r, none)
        | w :: _ => .error (if c.subcommands.contains w then .unknownArgument else c.stray)
      | .long name value =>
        if name = "help" then
          if value.isSome then .error .unneededValue else r.help
        else match c.choices.find? fun o => o.name = name with
          | none => .error .unknownArgument
          | some o =>
            match r.choose o value with
            | .error e => .error e
            | .ok r => c.read r ws
      | .short name rest =>
        if name = 'h' then r.help
        else match c.choices.find? fun o => o.short = some name with
          | none => .error .unknownArgument
          | some o =>
            match r.choose o (shortValue rest) with
            | .error e => .error e
            | .ok r => c.read r ws
      | .plain =>
        match r.open? with
        | some (o, none) => c.read { r with open? := some (o, some w) } ws
        | _ => .error c.stray

end Arguments

end Switchboard
