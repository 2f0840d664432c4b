import BotBindings.Command.Run
import Std.Async.DNS
import Std.Async.TCP

/-!
The command on the files of the system and over its network, where it speaks plain HTTP only.
-/
namespace BotBindings

/-- An error of the system by its number. -/
def FileError.ofCode (code : Nat) (text : String) : FileError :=
  let known := [notFound, denied, busy, alreadyThere, notDirectory, FileError.isDirectory, nameTooLong]
  (known.find? fun e => (e.system?.map (·.1)) = some code).getD (.other code text)

def FileError.ofSystem : IO.Error → FileError
  | .alreadyExists _ code text | .inappropriateType _ code text | .invalidArgument _ code text
  | .noFileOrDirectory _ code text | .permissionDenied _ code text | .resourceExhausted _ code text
  | .noSuchThing _ code text | .resourceBusy code text | .otherError code text =>
    .ofCode code.toNat text
  | e => .other 0 (toString e)

def attempting {α : Type} (path : String) (act : IO α) : IO (Except FileError α) :=
  match Path.check path with
  | .error e => return .error e
  | .ok () => try return .ok (← act) catch e => return .error (.ofSystem e)

def systemDisk : Disk IO where
  makeDirs path := attempting path (IO.FS.createDirAll path)
  write path content := attempting path (IO.FS.writeFile path content)
  rename source target := attempting target (IO.FS.rename source target)

open Std.Async

partial def receiveAll (socket : TCP.Socket.Client) (got : ByteArray) : Async ByteArray := do
  match ← socket.recv? 65536 with
  | some bytes => receiveAll socket (got ++ bytes)
  | none => return got

def socketAddress (address : Std.Net.IPAddr) (port : UInt16) : Std.Net.SocketAddress :=
  match address with
  | .v4 a => .v4 ⟨a, port⟩
  | .v6 a => .v6 ⟨a, port⟩

/-- Sends the request and receives until the server closes the connection. -/
def ask (u : Fetch.Url) : Async (Option Fetch.Bytes) := do
  let port := u.port?.getD (Fetch.Url.defaultPort u.scheme)
  let some address := (← DNS.getAddrInfo u.host (toString port))[0]? | return none
  let socket ← TCP.Socket.Client.mk
  socket.connect (socketAddress address (UInt16.ofNat port))
  let head := [Fetch.requestLine u, "accept: */*", s!"host: {u.authority}", "connection: close", "", ""]
  socket.send ("\r\n".intercalate head).toUTF8
  return some (← receiveAll socket ByteArray.empty).toList

def systemSend (u : Fetch.Url) : IO (Option Fetch.Bytes) := do
  if u.scheme ≠ "http" then return none
  try (ask u).block catch _ => return none

def systemConsole : Console IO where
  read path := attempting path do return (← IO.FS.readBinFile path).toList
  send := systemSend
  disk := systemDisk
  print := IO.print
  complain := IO.eprintln

end BotBindings

def main (arguments : List String) : IO UInt32 := do
  let filter? ← IO.getEnv "RUST_LOG"
  return UInt32.ofNat (← BotBindings.systemConsole.execute arguments filter?)
