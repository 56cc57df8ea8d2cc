import Switchboard.Environment
import Switchboard.Relay.Routing

/-!
# The configuration of a relay

Every setting has a variable of the environment. A value that does not fit its setting is ignored,
and the setting keeps its default.
-/

namespace Switchboard

structure Config where
  host : String := "0.0.0.0"
  port : UInt16 := 8080
  wsPath : String := "/ws"
  /-- Longer frames, in bytes, are dropped. -/
  frameLimit : Nat := Relay.defaultFrameLimit
  /-- How many frames may wait for one client. -/
  outboxCapacity : Nat := Outbox.defaultCapacity
  logFilter : String := "warn"
deriving DecidableEq, Repr

namespace Config

/-- A path that begins with a slash and does not end in one; the default path in place of an empty
one. Blank characters are cut off first, slashes at the end second. -/
def normalizePath (path : String) : String :=
  match Text.dropTrailing (· = '/') (Text.trim path.toList) with
  | [] => "/ws"
  | '/' :: cs => String.ofList ('/' :: cs)
  | cs => String.ofList ('/' :: cs)

def positive? (s : String) : Option Nat :=
  (Decimal.whole? Decimal.wordBound s).filter (0 < ·)

def port? (s : String) : Option UInt16 := (Decimal.whole? 65536 s).map UInt16.ofNat

def ofEnvironment (env : Environment) : Config :=
  let default : Config := {}
  { host := (env.visibleText? "SIGNAL_RELAY_HOST").getD default.host
    port := ((env.text? "SIGNAL_RELAY_PORT").bind port?).getD default.port
    wsPath := ((env.text? "SIGNAL_RELAY_WS_PATH").map normalizePath).getD default.wsPath
    frameLimit :=
      ((env.text? "SIGNAL_RELAY_MAX_FRAME_BYTES").bind positive?).getD default.frameLimit
    outboxCapacity :=
      ((env.text? "SIGNAL_RELAY_OUTBOUND_QUEUE").bind positive?).getD default.outboxCapacity
    logFilter := (env.text? "SIGNAL_RELAY_LOG").getD default.logFilter }

def bindAddress (c : Config) : String := c.host ++ ":" ++ toString c.port.toNat

end Config

end Switchboard
