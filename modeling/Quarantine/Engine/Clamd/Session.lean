import Quarantine.Engine.Clamd.Frame
import Quarantine.Engine.Clamd.Reply

/-!
Conversations with a scanning daemon: connect, send a command, read the reply.
-/

namespace Quarantine.Clamd

inductive Peer
  /-- A daemon that sends what this source gives once it has heard a whole command. -/
  | listening (reply : Source)
  | absent (e : IoError)
  deriving DecidableEq, Repr

/-- What a client has sent, if it got a connection, and what came of it. -/
structure Session (α : Type) where
  sent : Option Bytes
  result : Except ScanError α

/-- Connects. To find that an address is malformed takes time, as the making of a connection does,
so a timeout of zero comes before either. -/
def connect (c : Client) (peer : Peer) : Except ScanError Source :=
  let late := c.connectionTimeout.nanos = 0
  let reached := match peer with
    | .listening reply =>
      if late then .error (.timeout engine c.connectionTimeout) else .ok reply
    | .absent e => .error (.connection engine e.text)
  match c.endpoint with
  | .socket _ => reached
  | .tcp address =>
    match addressFault address with
    | none => reached
    | some e =>
      .error (if late then .timeout engine c.connectionTimeout else .connection engine e.text)

/-- Has a content scanned. Nothing is read from a daemon that was not sent the whole of it. -/
def analyze (c : Client) (peer : Peer) (source : Source) : Session Verdict :=
  match connect c peer with
  | .error e => ⟨none, .error e⟩
  | .ok connection =>
    let sent := send source
    match sent.failure with
    | some e => ⟨some sent.bytes, .error (.io e)⟩
    | none =>
      ⟨some sent.bytes, do
        interpret (← readReply connection)⟩

def ping (c : Client) (peer : Peer) : Session Unit :=
  match connect c peer with
  | .error e => ⟨none, .error e⟩
  | .ok connection =>
    ⟨some pingCommand, do
      let reply ← readReply connection
      if reply = ['P', 'O', 'N', 'G'] then return ()
      else
        throw (.unavailable engine ("unexpected ping response: " ++ String.ofList reply))⟩

end Quarantine.Clamd
