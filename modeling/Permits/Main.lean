import Permits.CommandLine.Run
import Permits.Http.Wire
import Std.Async.DNS
import Std.Async.TCP
import Std.Async.Timer

namespace Permits.CommandLine

open Std.Net Std.Async

def helpText : String :=
  "Provision per-database permissions in CouchDB

Usage: docguard [OPTIONS] <COMMAND>

Commands:
  provision <OWNER> <DATABASE> <APP>  Create a database and install its permissions
  update <OWNER> <DATABASE> <APP>     Reinstall the permissions of an existing database
  deprovision <DATABASE>              Destroy a database
  compile <OWNER> <APP>               Print the permission documents a policy compiles to
  help                                Print this message

Options:
  -l, --log-level <LOG_LEVEL>  Set the log level (trace, debug, info, warn, error)
      --json-logs              Enable JSON formatted logging
  -c, --config <CONFIG>        TOML configuration file; DOCGUARD_* environment variables are used otherwise
      --policy <POLICY>        Permission policy as JSON, or @path to a JSON file (after the command)
  -h, --help                   Print help
  -V, --version                Print version
"

def versionText : String := "docguard 0.1.0\n"

/-- The variables that settings can come from. -/
def variableNames : List String :=
  ["DOCGUARD_STORE_PROTOCOL", "DOCGUARD_STORE_HOST", "DOCGUARD_STORE_PORT", "DOCGUARD_STORE_USER",
   "DOCGUARD_STORE_PASS", "DOCGUARD_STORE_REQUEST_TIMEOUT", "DOCGUARD_PUBLIC_USER",
   "DOCGUARD_PROVISION_FAILURE_POLICY", "DOCGUARD_UPDATE_FAILURE_POLICY", "DOCGUARD_LOG_LEVEL",
   "DOCGUARD_LOG_JSON"]

def readEnvironment : IO Environment := do
  let found ← variableNames.filterMapM fun name => do
    return (← IO.getEnv name).map fun value => (name, value)
  return fun name => (found.find? (·.1 = name)).map (·.2)

def fileError : IO.Error → FileError
  | .noFileOrDirectory .. => .missing
  | .inappropriateType .. => .isDirectory
  | e => .other (toString e)

def readFile (path : String) : IO (Except FileError ByteArray) := do
  try return .ok (← IO.FS.readBinFile path)
  catch e => return .error (fileError e)

/-- The files that the arguments name. -/
def Arguments.paths (a : Arguments) : List String :=
  a.config.toList ++ match a.policy.map String.toList with
    | some ('@' :: path) => [String.ofList path]
    | _ => []

def readFiles (paths : List String) : IO (String → Except FileError ByteArray) := do
  let found ← paths.mapM fun path => do return (path, ← readFile path)
  return fun path => ((found.find? (·.1 = path)).map (·.2)).getD (.error .missing)

/-- The addresses of a host. -/
def addresses (h : Url.Host) (port : Nat) : Async (List SocketAddress) := do
  let name := match h with
    | .ipv6 gs => String.ofList (Url.ipv6Chars gs)
    | h => String.ofList h.chars
  return (← DNS.getAddrInfo name (toString port)).toList.map fun
    | .v4 address => .v4 ⟨address, port.toUInt16⟩
    | .v6 address => .v6 ⟨address, port.toUInt16⟩

/-- Reads all that the other side sends until it closes the connection. -/
partial def receiveAll (socket : TCP.Socket.Client) (bytes : ByteArray) : Async ByteArray := do
  match ← socket.recv? 65536 with
  | some more => receiveAll socket (bytes ++ more)
  | none => return bytes

def exchangeWith (r : Http.Request) (address : SocketAddress) : Async Http.Reply := do
  let socket ← TCP.Socket.Client.mk
  socket.connect address
  socket.send r.wire.toUTF8
  return .ofBytes (← receiveAll socket .empty)

/-- Sends a request to the first address that takes it. -/
def exchange (r : Http.Request) : Async Http.Reply := do
  match r.endpoint? with
  | none => return .unanswered
  | some (host, port) =>
    if r.url.scheme ≠ "http".toList then return .unanswered
    for address in ← addresses host port do
      try return ← exchangeWith r address
      catch _ => pure ()
    return .unanswered

instance : Inhabited Http.Reply := ⟨.unanswered⟩

/-- Gives a request up after some time. -/
def send (timeout : Duration) (r : Http.Request) : IO Http.Reply := do
  let millis := timeout.secs * 1000 + (timeout.nanos + 999999) / 1000000
  let bounded : Async Http.Reply :=
    if millis < 0x80000000 then
      Async.race (exchange r) do
        Std.Async.sleep (.ofNat millis)
        return .unanswered
    else exchange r
  try bounded.block
  catch _ => return .unanswered

/-- Makes one call. -/
def ask (c : Http.Client) (timeout : Duration) (call : StoreCall) : IO call.Answer := do
  match c.requestFor call with
  | .error e => return Http.failed call e
  | .ok r => return Http.interpret call (← send timeout r)

def runJob (job : Job) : IO (Except Failure Json) :=
  job.task.runWith (ask job.client job.config.store.timeout)

def runProgram (args : List String) : IO Outcome := do
  match Arguments.parse args with
  | .error u => return u.outcome helpText versionText
  | .ok a =>
    let around : Surroundings := ⟨← readEnvironment, ← readFiles a.paths⟩
    match prepare around a with
    | .error f => return .ofResult (.error f)
    | .ok job => return .ofResult (← runJob job)

end Permits.CommandLine

def main (args : List String) : IO UInt32 := do
  let outcome ← Permits.CommandLine.runProgram args
  IO.print outcome.output
  match outcome.report with
  | some report => IO.eprintln report
  | none => if outcome.code = 2 then IO.eprintln "For more information, try '--help'."
  return outcome.code.toUInt32
