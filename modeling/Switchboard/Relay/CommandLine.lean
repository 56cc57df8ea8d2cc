import Switchboard.Relay.Config

/-!
# The command line of a relay

Without a subcommand the program is a relay; its options go before its environment. With `dial` it
is a client that prints what it receives from a relay, and may send one message.
-/

namespace Switchboard

open Arguments

structure DialRequest where
  url : String := "ws://localhost:8080/ws"
  /-- How long to keep listening. -/
  listenSeconds : Nat := 10
  /-- Send one message to this client. -/
  recipient : Option String := none
  topic : Topic := .offer
  payload : Option String := none
deriving DecidableEq, Repr

structure CommandLine where
  host : Option String := none
  port : Option UInt16 := none
  dial : Option DialRequest := none
deriving DecidableEq, Repr

namespace CommandLine

/-- A port is an integer in range, with any sign. -/
def port? (s : String) : Option UInt16 :=
  (Decimal.integer? 0 65536 s).map fun n => UInt16.ofNat n.toNat

/-- A number of seconds fits a machine word. -/
def seconds? (s : String) : Option Nat := Decimal.whole? Decimal.wordBound s

def topics : List (String × Topic) :=
  [("offer", .offer), ("answer", .answer), ("candidate", .candidate)]

def topic? (s : String) : Option Topic := topics.lookup s

def checked {α : Type} (read : String → Option α) (otherwise : UsageError) (s : String) :
    Option UsageError :=
  match read s with
  | some _ => none
  | none => some otherwise

def relayCommand : Command where
  choices := [{ name := "host" }, { name := "port", check := checked port? .badValue }]
  subcommands := ["dial", "help"]

def dialCommand : Command where
  choices := [
    { name := "url", short := some 'u' },
    { name := "listen-secs", check := checked seconds? .badValue },
    { name := "to" },
    { name := "kind", check := checked topic? .invalidValue },
    { name := "payload" }]

def dialRequest (values : List (String × String)) : DialRequest :=
  let default : DialRequest := {}
  { url := (values.lookup "url").getD default.url
    listenSeconds :=
      ((values.lookup "listen-secs").bind seconds?).getD default.listenSeconds
    recipient := values.lookup "to"
    topic := ((values.lookup "kind").bind topic?).getD default.topic
    payload := values.lookup "payload" }

def readDial (args : List String) : Except UsageError DialRequest :=
  match dialCommand.read {} args with
  | .error e => .error e
  | .ok (r, _) =>
    match r.settle with
    | .error e => .error e
    | .ok r =>
      let request := dialRequest r.values
      if request.recipient.isSome && request.payload.isNone then .error .missingArgument
      else .ok request

/-- Read the arguments of `help`: the name of a subcommand at most. -/
def readHelp : List String → UsageError
  | [] | ["dial"] | ["help"] => .help
  | _ => .unknownSubcommand

def ofValues (values : List (String × String)) (dial : Option DialRequest) : CommandLine :=
  { host := values.lookup "host", port := (values.lookup "port").bind port?, dial }

/-- Read the arguments of the program. Those of a subcommand are read before the last option in
front of it is looked at. -/
def ofArguments (args : List String) : Except UsageError CommandLine :=
  match relayCommand.read {} args with
  | .error e => .error e
  | .ok (_, some ("help", rest)) => .error (readHelp rest)
  | .ok (r, some (_, rest)) =>
    -- what is wrong behind the subcommand goes first
    match readDial rest, r.settle with
    | .error e, _ => .error e
    | .ok _, .error e => .error e
    | .ok request, .ok r => .ok (ofValues r.values (some request))
  | .ok (r, none) =>
    match r.settle with
    | .error e => .error e
    | .ok r => .ok (ofValues r.values none)

/-- The options of the command line go before the environment. -/
def apply (c : CommandLine) (config : Config) : Config :=
  { config with host := c.host.getD config.host, port := c.port.getD config.port }

end CommandLine

end Switchboard
