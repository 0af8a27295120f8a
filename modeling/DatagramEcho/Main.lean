import DatagramEcho.Network.Socket
import DatagramEcho.System

/-!
# Entry point

The operating system as a `System`, and the program on it. Nothing is decided here: the program is
`System.run`, as it is on a host.
-/

namespace DatagramEcho

/-- The text of the file at a path. -/
def readFile (path : String) : IO (Except Fault String) := do
  if path.toList.contains '\x00' then
    return .error (.stated .invalidInput "file name contained an unexpected NUL byte")
  return (← Fault.attempt (IO.FS.readBinFile path)).bind Fault.decode

/-- Answer datagrams until the process is killed. -/
partial def serveForever (socket : Socket) (capacity : Nat) (responder : Responder) : IO Unit := do
  match ← socket.receive capacity with
  | .error _ => serveForever socket capacity responder.receiveFailed
  | .ok (payload, peer) =>
    let (reply?, responder) := responder.receive payload
    match reply? with
    | none => serveForever socket capacity responder
    | some reply =>
      match ← socket.send reply peer with
      | .ok () => serveForever socket capacity (responder.sent reply.length)
      | .error _ => serveForever socket capacity responder.sendFailed

/-- The variable of the environment that holds a log filter. -/
def logVariable : String := "RUST_LOG"

/-- The operating system. -/
def operatingSystem : System IO Socket where
  read := readFile
  environment := IO.getEnv logVariable
  print line := IO.println line
  warn line := IO.eprintln line
  bind := Socket.bind
  connect := Socket.connect
  address := Socket.address
  send socket payload := socket.send payload
  await socket patience capacity := socket.await capacity patience
  serve config socket := serveForever socket config.bufferSize config.endpoint.responder

end DatagramEcho

/-- The program. -/
def main (words : List String) : IO UInt32 := do
  match ← DatagramEcho.operatingSystem.run words with
  | .exited code complaint =>
    if ¬ complaint.isEmpty then IO.eprintln complaint
    return code.toUInt32
  | .serving _ => return 0
  | .stalled _ => return 1
