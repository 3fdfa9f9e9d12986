import InstanceScripts.CommandLine
import InstanceScripts.Http.Wire
import Std.Async.DNS
import Std.Async.TCP
import Std.Async.Timer

/-!
# The program

Runs the command on a real file system and a real network.  The command itself is a
function of the replies that come in: it is run with those known so far, the first
request without a reply is sent, and so on until every request has its reply.  Then the
files are written and the result is printed.
-/

open InstanceScripts

namespace InstanceScripts
namespace Program

/-! ## Files -/

/-- Whether a directory exists. -/
def isDirectory (path : String) : IO Bool := do
  try
    let real ← IO.FS.realPath path
    real.isDir
  catch _ => return false

/-- What stands under a path. -/
def readEntry (path : String) : IO (Option Settings.Entry) := do
  try
    let real ← IO.FS.realPath path
    if ← real.isDir then return some .directory
    if !(← real.pathExists) then return none
    return some (.file (← IO.FS.readBinFile path).toList)
  catch _ => return none

/-- What stands where drop-in files are looked for. -/
def readDropIns (path : String) : IO Settings.DropIns := do
  match ← readEntry path with
  | none => return .absent
  | some (.file _) => return .file
  | some .directory =>
      let real ← IO.FS.realPath path
      let mut entries := []
      for listed in ← real.readDir do
        if let some entry ← readEntry (pathIn path listed.fileName) then
          entries := (listed.fileName, entry) :: entries
      return .directory entries

/-- A configuration directory. -/
def readConfiguration (path : String) : IO Settings.Directory := do
  let main ← readEntry (Settings.mainFile path)
  let dropIns ← readDropIns (Settings.dropInDirectory path)
  return ⟨path, main, dropIns⟩

/-- Write a staged file; a file of that name must not exist. -/
def writeFile (file : Staging.File) : IO Unit := do
  let handle ← IO.FS.Handle.mk file.path .writeNew
  handle.write (ByteArray.mk file.body.toArray)

/-- A name that hardly any other file has. -/
def randomName : IO String := do
  let letters := "ABCDEFGHIJKLMNOPQRSTUVWXYZabcdefghijklmnopqrstuvwxyz0123456789".toList
  let mut name := "script-"
  for _ in [0:6] do
    name := name.push (letters.getD (← IO.rand 0 (letters.length - 1)) 'A')
  return name

/-! ## The network -/

/-- The addresses of a host. -/
def addresses (host : String) : Std.Async.Async (Array Std.Net.IPAddr) :=
  match Std.Net.IPv4Addr.ofString host with
  | some address => return #[.v4 address]
  | none => Std.Async.DNS.getAddrInfo host ""

/-- Everything that a server sends until it closes the connection. -/
partial def receive (socket : Std.Async.TCP.Socket.Client) (received : ByteArray) :
    Std.Async.Async ByteArray := do
  match ← socket.recv? 65536 with
  | some more => receive socket (received ++ more)
  | none => return received

/-- Send a request to an address and wait for the reply. -/
def exchangeWith (address : Std.Net.SocketAddress) (request : Http.Request) :
    Std.Async.Async Http.Reply := do
  let socket ← Std.Async.TCP.Socket.Client.mk
  socket.connect address
  socket.send (ByteArray.mk request.octets.toArray)
  return .ofOctets (← receive socket ByteArray.empty).toList

/-- Send a request.  Only plain connections can be made. -/
def send (request : Http.Request) : Std.Async.Async Http.Reply := do
  if request.url.scheme != "http".toList then return .unreachable
  let host := String.ofList ((request.url.host?.map (·.render)).getD [])
  let port := UInt16.ofNat (request.url.effectivePort?.getD 80)
  for address in ← addresses host do
    let target : Std.Net.SocketAddress :=
      match address with
      | .v4 address => .v4 ⟨address, port⟩
      | .v6 address => .v6 ⟨address, port⟩
    try
      return ← exchangeWith target request
    catch _ => pure ()
  return .unreachable

/-- Send a request and give up after so many seconds. -/
def sendWithin (seconds : Nat) (request : Http.Request) : IO Http.Reply := do
  let waiting : Std.Async.Async Http.Reply := do
    Std.Async.sleep (Std.Time.Millisecond.Offset.ofNat (seconds * 1000))
    return .unreachable
  try
    (Std.Async.Async.race (send request) waiting).block
  catch _ => return .unreachable

/-! ## The command -/

/-- Replies in the order in which they came. -/
abbrev Replies := Array (Url × Http.Reply)

/-- The network as far as it is known. -/
def knownNetwork (replies : Replies) : Http.Network := fun url earlier =>
  ((replies.toList.filter (·.1 == url))[earlier]?.map (·.2)).getD .unreachable

/-- How long to wait before a request that repeats an earlier one. -/
def pauseBefore (replies : Replies) (session : Session) (request : Http.Request) : Nat :=
  if replies.any (·.1 == request.url) then session.policy.pauseMillis else 0

/-- How many seconds a reply may take.  Requests for metadata carry no token and have a
limit of their own. -/
def patience (settings : Settings) (request : Http.Request) : Nat :=
  let isToken (credential : Http.Credential) : Bool :=
    match credential with
    | .token _ => true
    | .basic _ => false
  if request.flavored && !request.credentials.any isToken then
    settings.metadataTimeoutSecs.toNat
  else settings.requestTimeoutSecs.toNat

/-- Run the command until every request has its reply. -/
partial def complete (surroundings : CommandLine.Surroundings) (arguments : List String)
    (settings : Settings) (replies : Replies) : IO CommandLine.Ending := do
  let ending :=
    CommandLine.run { surroundings with network := knownNetwork replies } arguments
  match ending.session with
  | none => return ending
  | some (_, session) =>
      match ending.history[replies.size]? with
      | none => return ending
      | some exchange =>
          IO.sleep (UInt32.ofNat (pauseBefore replies session exchange.request))
          let reply ← sendWithin (patience settings exchange.request) exchange.request
          complete surroundings arguments settings (replies.push (exchange.request.url, reply))

/-- Find out what the command needs to know, run it and carry out what it says. -/
def run (arguments : List String) : IO UInt32 := do
  let scriptType ← IO.getEnv "GCE_SCRIPT_TYPE"
  let asked := CommandLine.invocation Settings.standardDirectory scriptType arguments
  let (configuration, destination) :=
    match asked with
    | .ok invocation => (invocation.configDirectory, invocation.destination)
    | .error _ => (Settings.standardDirectory, ".")
  let present ← isDirectory destination
  let directory ← readConfiguration configuration
  let mut names : Array String := #[]
  for _ in [0:4] do
    names := names.push (← randomName)
  let known := names
  let area : Staging.Area :=
    ⟨(← IO.currentDir).toString,
      ⟨fun _ path => if present && path == destination then none else some .notFound,
        fun path => present && path == destination⟩,
      fun number => known.getD number "script-", known.getD 3 "script-", []⟩
  let surroundings : CommandLine.Surroundings :=
    ⟨scriptType, fun _ => directory, area, Http.unreachableNetwork⟩
  let settings :=
    match (Settings.load directory).1 with
    | .ok settings => settings
    | .error _ => Settings.standard
  let ending ← complete surroundings arguments settings #[]
  for line in ending.log do
    IO.eprintln line.render
  for file in ending.files do
    writeFile file
  IO.print ending.output
  IO.eprint ending.report
  return UInt32.ofNat ending.exitCode

end Program
end InstanceScripts

def main (arguments : List String) : IO UInt32 :=
  Program.run arguments
