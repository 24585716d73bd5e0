import Quarantine.Document.Verdict
import Quarantine.Engine.Clamd.Endpoint
import Quarantine.Text.Utf8

/-!
Replies of a scanning daemon. A reply ends with a zero byte or with the connection; what stands
after its first colon is the verdict, or none.
-/

namespace Quarantine.Clamd

/-- Reads at most 256 bytes at a time, up to a read that has a zero byte in it or to the end. -/
def gather (connection : Source) (back : Bytes) : Except IoError Bytes :=
  match _given : connection.read 256 with
  | .error e => .error e
  | .ok (got, rest) =>
    if _end : got = [] then .ok back
    else if got.contains 0 then .ok (back ++ got)
    else gather rest (back ++ got)
termination_by connection.bytes.length
decreasing_by exact Source.read_ok_lt _given _end

/-- The text of a reply: the bytes before the first zero byte, without white space around it. -/
def replyText (bytes : Bytes) : List Char :=
  Text.trim (Text.ofUtf8Lossy (bytes.takeWhile (· ≠ 0)))

def readReply (connection : Source) : Except ScanError (List Char) :=
  match gather connection [] with
  | .error e => .error (.connection engine e.text)
  | .ok bytes => .ok (replyText bytes)

/-- What a reply is about: the text after its first colon, or all of it. -/
def body (reply : List Char) : List Char :=
  match reply.dropWhile (· ≠ ':') with
  | [] => reply
  | _ :: rest => Text.trim rest

/-- The text before an ending, if a text has that ending. -/
def before? (ending cs : List Char) : Option (List Char) :=
  if ending.isSuffixOf cs then some (cs.take (cs.length - ending.length)) else none

/-- The verdict in a reply. A reply that is unclear is an error, never a clean verdict. -/
def interpret (text : List Char) : Except ScanError Verdict :=
  let reply := Text.trim text
  if body reply = ['O', 'K'] then .ok .clean
  else
    match before? ['F', 'O', 'U', 'N', 'D'] (body reply) with
    | some name =>
      match Text.trim name with
      | [] => .ok (.infected "Unknown")
      | c :: cs => .ok (.infected (String.ofList (c :: cs)))
    | none => .error (.ambiguous engine (String.ofList reply))

end Quarantine.Clamd
