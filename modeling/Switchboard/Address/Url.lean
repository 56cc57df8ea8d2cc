import Switchboard.Address.Host
import Switchboard.Text.Blank

/-!
# Addresses of the web

An address is read as browsers read it: spaces around it and line breaks in it are dropped,
backslashes are slashes, the host is brought into its normal form and dot segments of the path are
resolved. A fragment is not kept.

Only the schemes of the web have a `Url`. Of other addresses the scheme is all that is wanted, but
what is wrong with their hosts is reported, too.
-/

namespace Switchboard.Address

inductive Scheme where
  | http
  | https
  | ws
  | wss
  | ftp
deriving DecidableEq, Repr

namespace Scheme

def name : Scheme → String
  | http => "http"
  | https => "https"
  | ws => "ws"
  | wss => "wss"
  | ftp => "ftp"

def defaultPort : Scheme → Nat
  | http | ws => 80
  | https | wss => 443
  | ftp => 21

def ofName? (s : String) : Option Scheme :=
  [http, https, ws, wss, ftp].find? fun x => x.name = s

end Scheme

/-- An address of the web. Its parts are kept in the form in which they are written. -/
structure Url where
  scheme : Scheme
  username : String := ""
  password : String := ""
  host : Host
  port : Option Nat := none
  /-- The segments of the path; there is one at least. -/
  path : List String
  query : Option String := none
deriving DecidableEq, Repr

namespace Url

def credentials (u : Url) : String :=
  let password := if u.password.isEmpty then "" else ":" ++ u.password
  if u.username.isEmpty && u.password.isEmpty then "" else u.username ++ password ++ "@"

def write (u : Url) : String :=
  u.scheme.name ++ "://" ++ u.credentials ++ u.host.write ++
    (u.port.map fun n => ":" ++ toString n).getD "" ++
    String.join (u.path.map ("/" ++ ·)) ++ (u.query.map ("?" ++ ·)).getD ""

/-! ### Reserved characters -/

def queryReserved : List Char := ['"', '#', '<', '>', '\'']

def pathReserved : List Char := ['"', '#', '<', '>', '?', '\x60', '\x7b', '\x7d']

def userReserved : List Char :=
  pathReserved ++ ['/', ':', ';', '=', '@', '[', '\\', ']', '^', '|']

/-! ### Reading -/

/-- Cut control characters and spaces off both ends, and drop the characters that are ignored
everywhere. -/
def clean (cs : List Char) : List Char :=
  let cut := fun (c : Char) => c.toNat ≤ 0x20
  (Text.dropTrailing cut (cs.dropWhile cut)).filter fun c =>
    c ≠ '\t' && c ≠ '\n' && c ≠ '\r'

def splitScheme? (cs : List Char) : Option (String × List Char) :=
  let inScheme := fun (c : Char) => c.isAlphanum || c = '+' || c = '-' || c = '.'
  let name := cs.takeWhile inScheme
  match name, cs.drop name.length with
  | c :: _, ':' :: rest =>
    if c.isAlpha then some (String.ofList (name.map Char.toLower), rest) else none
  | _, _ => none

def isSlash (c : Char) : Bool := c = '/' || c = '\\'

def endsAuthority (web : Bool) (c : Char) : Bool :=
  c = '/' || c = '?' || c = '#' || (web && c = '\\')

def splitUser? (cs : List Char) : Option (List Char × List Char) :=
  if cs.contains '@' then
    let host := (cs.reverse.takeWhile (· ≠ '@')).reverse
    some ((cs.take (cs.length - host.length)).dropLast, host)
  else none

/-- The front of `cs` up to a colon outside brackets, and the rest. -/
def splitPort (bracketed : Bool) : List Char → List Char × List Char
  | [] => ([], [])
  | c :: cs =>
    -- a colon in brackets belongs to the host
    if c = ':' && !bracketed then ([], c :: cs)
    else
      let (host, rest) := splitPort (c = '[' || (bracketed && c ≠ ']')) cs
      (c :: host, rest)

/-- A port after its colon; nothing if no digit is there. -/
def readPort : List Char → Except AddressError (Option Nat)
  | [] => .ok none
  | cs =>
    if cs.all Char.isDigit then
      let n := cs.foldl (fun n c => 10 * n + (c.toNat - '0'.toNat)) 0
      if n ≤ 65535 then .ok (some n) else .error .badPort
    else .error .badPort

def isSingleDot (segment : String) : Bool := [".", "%2e"].contains segment.toLower

def isDoubleDot (segment : String) : Bool :=
  ["..", ".%2e", "%2e.", "%2e%2e"].contains segment.toLower

/-- Whether a segment names a drive. Such a segment is not gone back from. -/
def isDrive (segment : String) : Bool :=
  match segment.toList with
  | [c, d] => c.isAlpha && (d = ':' || d = '|')
  | _ => false

/-- Resolve dot segments. `done` holds the segments so far, the last of them first. A dot segment
at the end leaves an empty segment. -/
def resolve (done : List String) : List String → List String
  | [] => done.reverse
  | s :: rest =>
    let finish := fun (done : List String) =>
      if rest.isEmpty then ("" :: done).reverse else resolve done rest
    if isDoubleDot s then
      match done with
      -- there is nothing above the root
      | [] => finish []
      | d :: ds => if isDrive d then finish (d :: ds) else finish ds
    else if isSingleDot s then finish done
    else resolve (s :: done) rest

/-- The segments of a path. A slash at its front is no matter. -/
def readPath (cs : List Char) : List String :=
  let cs := cs.map fun c => if c = '\\' then '/' else c
  let cs := match cs with
    | '/' :: cs => cs
    | cs => cs
  resolve [] ((splitAt '/' cs).map fun s => String.ofList (percentEncode pathReserved s))

/-- What follows the host: the path, and the query without its question mark. -/
def readTail (cs : List Char) : List String × Option String :=
  let cs := cs.takeWhile (· ≠ '#')
  let path := cs.takeWhile (· ≠ '?')
  (readPath path,
    match cs.drop path.length with
    | [] => none
    | _ :: query => some (String.ofList (percentEncode queryReserved query)))

structure Authority where
  username : List Char := []
  password : List Char := []
  host : List Char
  /-- From the colon on. -/
  port : List Char

def splitAuthority (cs : List Char) : Authority :=
  match splitUser? cs with
  | none => { host := (splitPort false cs).1, port := (splitPort false cs).2 }
  | some (user, cs) =>
    let username := user.takeWhile (· ≠ ':')
    { username, password := user.drop (username.length + 1)
      host := (splitPort false cs).1, port := (splitPort false cs).2 }

def readWeb (scheme : Scheme) (cs : List Char) : Except AddressError Url :=
  let authority := cs.takeWhile fun c => !endsAuthority true c
  let a := splitAuthority authority
  match Host.read a.host, readPort (a.port.drop 1) with
  | .error e, _ => .error e
  | .ok _, .error e => .error e
  | .ok host, .ok port =>
    let (path, query) := readTail (cs.drop authority.length)
    let encoded := fun cs => String.ofList (percentEncode userReserved cs)
    .ok { scheme, username := encoded a.username, password := encoded a.password, host
          port := port.filter (· ≠ scheme.defaultPort), path, query }

/-- Whether the host of an address is in order that is not of the web. It may be empty, unless a
user or a port goes with it. -/
def checkOpaque (cs : List Char) : Except AddressError Unit :=
  let authority := cs.takeWhile fun c => !endsAuthority false c
  let a := splitAuthority authority
  match Host.readOpaque a.host with
  | .error e => .error e
  | .ok isEmpty =>
    let bareUser := authority = ['@'] && authority.length < cs.length
    if isEmpty &&
        (bareUser || !(a.port.isEmpty && a.username.isEmpty && a.password.isEmpty)) then
      .error .emptyHost
    else (readPort ((a.port.drop 1).takeWhile (· ≠ '\\'))).map fun _ => ()

/-- Whether the host of a file is in order. It may be missing, and a drive is none. -/
def checkFile : List Char → Except AddressError Unit
  | c :: d :: cs =>
    if isSlash c && isSlash d then
      let host := cs.takeWhile fun c => !endsAuthority true c
      if host.isEmpty || isDrive (String.ofList host) then .ok ()
      else (Host.read host).map fun _ => ()
    else .ok ()
  | _ => .ok ()

inductive Reading where
  | web (u : Url)
  | other (scheme : String)
deriving DecidableEq, Repr

def read (s : String) : Except AddressError Reading :=
  match splitScheme? (clean s.toList) with
  | none => .error .noScheme
  | some (name, rest) =>
    match Scheme.ofName? name with
    | some scheme => (readWeb scheme (rest.dropWhile isSlash)).map .web
    | none =>
      let check := if name = "file" then checkFile rest
        else match rest with
          | '/' :: '/' :: cs => checkOpaque cs
          | _ => .ok ()
      check.map fun _ => .other name

end Url

end Switchboard.Address
