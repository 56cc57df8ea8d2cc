import Switchboard.Client.Settings
import Switchboard.Relay.CommandLine
import Switchboard.Relay.Pages

/-!
# The program

The outermost layer: it looks at the arguments and at the environment, and says what it is asked to
do. It opens no socket; whoever runs a relay or a client joins the library to a network.
-/

namespace Switchboard

def relayVariables : List String :=
  ["SIGNAL_RELAY_HOST", "SIGNAL_RELAY_PORT", "SIGNAL_RELAY_WS_PATH",
    "SIGNAL_RELAY_MAX_FRAME_BYTES", "SIGNAL_RELAY_OUTBOUND_QUEUE", "SIGNAL_RELAY_LOG"]

/-- The variables of the process that are set among the given ones. -/
def processEnvironment (names : List String) : IO Environment := do
  let bindings ← names.filterMapM fun name => do
    let value ← IO.getEnv name
    return value.map fun v => (name, v.toUTF8)
  return { bindings }

def usage : String :=
  "Usage: signal-relay [--host HOST] [--port PORT] [COMMAND]\n" ++
    "Commands:\n" ++
    "  dial  Connect to a relay, print the assigned id and every frame received\n" ++
    "  help  Print this message"

def UsageError.message : UsageError → String
  | help => usage
  | unknownArgument => "error: unexpected argument found"
  | unknownSubcommand => "error: unrecognized subcommand"
  | invalidValue => "error: a value is missing, or not one of the possible values"
  | badValue => "error: invalid value"
  | repeated => "error: an argument cannot be used multiple times"
  | missingArgument => "error: a required argument was not provided"
  | unneededValue => "error: an unexpected value was found"

def CommandLine.summary (c : CommandLine) (config : Config) : String :=
  match c.dial with
  | some request => "dial " ++ request.url
  | none =>
    let config := c.apply config
    "relay at " ++ config.bindAddress ++ " (websocket path " ++ config.wsPath ++ ")" ++
      if config.isUsable then "" else ", which cannot be run"

end Switchboard

open Switchboard in
def main (args : List String) : IO UInt32 := do
  match CommandLine.ofArguments args with
  | .error e =>
    IO.eprintln e.message
    return UInt32.ofNat e.exitCode
  | .ok c =>
    let config := Config.ofEnvironment (← processEnvironment relayVariables)
    IO.println (c.summary config)
    return 0
