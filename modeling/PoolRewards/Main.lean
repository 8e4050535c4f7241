/-
The command line program: files on the disk, and servers over connections of their own.
-/
import PoolRewards.Command.Program
import PoolRewards.Http.Message
import Std.Async.DNS
import Std.Async.TCP

namespace PoolRewards.CommandLine

open Std.Async

/-- What the program runs in: input and output, and faults of arithmetic. -/
abbrev World := ExceptT Fault IO

/-- The answer of an action, or what the system says if it fails. -/
def attemptIn {α : Type} (action : IO α) : World (Except String α) :=
  ExceptT.lift do
    try return .ok (← action)
    catch e => return .error (toString e)

/-- The disk of the system. -/
def systemDisk : Disk World where
  createDirectories path := attemptIn (IO.FS.createDirAll path)
  write path bytes := attemptIn (IO.FS.writeBinFile path ⟨bytes.toArray⟩)
  read path := attemptIn do return (← IO.FS.readBinFile path).toList

/-- Everything that a server sends until it closes the connection. -/
partial def receiveAll (socket : TCP.Socket.Client) (received : ByteArray) : Async ByteArray := do
  match ← socket.recv? 65536 with
  | some bytes => receiveAll socket (received ++ bytes)
  | none => return received

/-- The places at which a host can be reached. -/
def addressesOf (host : String) (port : UInt16) : Async (List Std.Net.SocketAddress) := do
  let addresses ← DNS.getAddrInfo ((host.replace "[" "").replace "]" "") (toString port)
  return addresses.toList.map fun
    | .v4 address => .v4 ⟨address, port⟩
    | .v6 address => .v6 ⟨address, port⟩

/-- Send a request and receive the answer. -/
def exchange (address : Std.Net.SocketAddress) (request : String) : Async ByteArray := do
  let socket ← TCP.Socket.Client.mk
  socket.connect address
  socket.send request.toUTF8
  receiveAll socket .empty

/-- Send a request to the first place that can be reached. -/
def exchangeAny (request : String) : List Std.Net.SocketAddress → Async ByteArray
  | [] => throw (IO.userError "no address to connect to")
  | [address] => exchange address request
  | address :: rest => do
    try exchange address request
    catch _ => exchangeAny request rest

/-- Ask the server of a URL. -/
def askServer (url : Url) (request : String) : IO HttpResponse := do
  if url.scheme ≠ "http" then throw (IO.userError s!"no connections for the scheme {url.scheme}")
  let some authority := url.authority | throw (IO.userError "no host to connect to")
  let port := (authority.port.getD 80).toUInt16
  let received ← Async.block do exchangeAny request (← addressesOf authority.host.toText port)
  match HttpMessage.readResponse? received.toList with
  | some response => return response
  | none => throw (IO.userError "the answer is no HTTP answer")

/-- Servers over connections of their own. -/
def systemTransport : Transport World where
  get url := attemptIn (askServer url (HttpMessage.getRequest url))
  post url body := attemptIn (askServer url (HttpMessage.postRequest url body))

/-- Wait for some seconds. -/
def pause (seconds : UInt64) : World Unit := do
  for _ in [0:seconds.toNat] do
    IO.sleep 1000

/-- The variables of the environment that options may come from. -/
def readEnvironment : IO (List (String × String)) := do
  let names := (Options.specs.filter (·.fromEnvironment)).map Options.Spec.valueName
  return (← names.mapM fun name => return (← IO.getEnv name).map fun text => (name, text)).filterMap id

end PoolRewards.CommandLine

open PoolRewards PoolRewards.CommandLine

/-- Carry out the command line. -/
def main (arguments : List String) : IO UInt32 := do
  let environment ← readEnvironment
  let report ← (runCommand arguments (fun name => List.lookup name environment) systemDisk systemTransport
    pause : World Report).run
  let report := match report with
    | .ok report => report
    | .error fault => .ofFault fault
  IO.print report.output
  IO.eprint report.errors
  return report.exitCode.toUInt32
