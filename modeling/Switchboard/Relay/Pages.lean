import Switchboard.Json.Text
import Switchboard.Relay.Config
import Switchboard.Relay.PathPattern

/-!
# The pages of a relay

Besides its web socket a relay serves a page for its health and one for its figures, if it is asked
to measure. The path of the web socket must not be that of another page.

A request for the web socket is checked for everything that makes it one. What is then left to do is
to take the connection over, and where a request does not come with a connection, that is refused.
-/

namespace Switchboard

structure PageRequest where
  method : String := "GET"
  path : String
  headers : List (String × String) := []
deriving DecidableEq, Repr

def PageRequest.header? (r : PageRequest) (name : String) : Option String :=
  (r.headers.find? fun h => h.1.toLower = name).map Prod.snd

structure Page where
  status : Nat
  contentType : Option String := none
  body : String := ""
deriving DecidableEq, Repr

namespace Page

def plain (status : Nat) (body : String) : Page :=
  { status, contentType := some "text/plain; charset=utf-8", body }

/-- The page that says how many clients are registered. -/
def health (g : Registry) : Page :=
  { status := 200, contentType := some "application/json"
    body := String.ofList <| Json.writeObject
      [("clients", Nat.toDigits 10 g.size), ("status", Json.writeText "ok")] }

def notFound : Page := { status := 404 }

def wrongMethod : Page := { status := 405 }

/-- The page of the figures, where they are measured. They are reported elsewhere. -/
def metrics (measured : Bool) : Page :=
  if measured then { status := 200, contentType := some "text/plain; version=0.0.4" }
  else notFound

/-- The answer to a request for the web socket that brings no connection to take over. -/
def socket (r : PageRequest) : Page :=
  let isHeader := fun (name value : String) =>
    ((r.header? name).map String.toLower) = some value
  let asksForUpgrade := ((r.header? "connection").map fun v =>
    (v.toLower.splitOn "upgrade").length != 1).getD false
  let header := fun (name : String) => "\x60" ++ name ++ "\x60"
  if r.method ≠ "GET" then plain 405 ("Request method must be " ++ header "GET")
  else if !asksForUpgrade then plain 400 "Connection header did not include 'upgrade'"
  else if !isHeader "upgrade" "websocket" then
    plain 400 (header "Upgrade" ++ " header did not include 'websocket'")
  else if !isHeader "sec-websocket-version" "13" then
    plain 400 (header "Sec-WebSocket-Version" ++ " header did not include '13'")
  else if (r.header? "sec-websocket-key").isNone then
    plain 400 (header "Sec-WebSocket-Key" ++ " header missing")
  else
    plain 426 "WebSocket request couldn't be upgraded since no upgrade state was present"

end Page

structure Site where
  wsPath : PathPattern
  /-- The figures are measured. -/
  measured : Bool := false
deriving DecidableEq, Repr

namespace Site

def fixedPaths : List String := ["/health", "/metrics"]

/-- The site with its web socket at a path, if it can be there. -/
def ofPath? (wsPath : String) (measured : Bool) : Option Site :=
  if fixedPaths.contains wsPath then none
  else (PathPattern.ofPath? fixedPaths wsPath).map fun p => { wsPath := p, measured }

/-- Whether a path is that of another page with a slash too many. Such a path is looked up no
further, unless the path of the web socket parts from that page at its end only. -/
def isShadowed (s : Site) (path : String) : Bool :=
  fixedPaths.any fun page =>
    path = page ++ "/" && s.wsPath.start.isPrefixOf page.toList && s.wsPath.start ≠ page.toList

/-- Answer a request at a relay. What does not change anything may be asked for without the body of
the page. -/
def answer (s : Site) (relay : Relay) (r : PageRequest) : Page :=
  let path := String.ofList (r.path.toList.takeWhile fun c => c ≠ '?' && c ≠ '#')
  let page := fun (p : Page) =>
    if r.method = "GET" then p
    else if r.method = "HEAD" then { p with body := "" }
    else .wrongMethod
  if r.method = "OPTIONS" then { status := 200 }
  else if path = "/health" then page (.health relay.registry)
  else if path = "/metrics" then page (.metrics s.measured)
  else if s.wsPath.accepts path && !s.isShadowed path then page (.socket r)
  else .notFound

end Site

/-- Whether a relay can be run with a configuration: its paths do not clash, and its outboxes can
be made. -/
def Config.isUsable (c : Config) : Bool :=
  (Site.ofPath? c.wsPath true).isSome && c.outboxCapacity ≤ Outbox.largestCapacity

end Switchboard
