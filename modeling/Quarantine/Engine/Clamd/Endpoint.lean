import Quarantine.Error
import Quarantine.Text.Classes

/-!
Where a scanning daemon is, and how its client is set up.
-/

namespace Quarantine.Clamd

def engine : String :=
  "clamav"

inductive Endpoint
  | tcp (address : String)
  | socket (path : String)
  deriving DecidableEq, Repr, Inhabited

structure Client where
  endpoint : Endpoint
  connectionTimeout : Duration
  deriving DecidableEq, Repr, Inhabited

namespace Client

def standard : Client :=
  ⟨.tcp "127.0.0.1:3310", .ofSeconds 10⟩

/-- An address of nothing but white space is no configuration. -/
def check (c : Client) : Except ScanError Client :=
  match c.endpoint with
  | .tcp address =>
    if (Text.trim address.toList).isEmpty then
      .error (.configuration "clamd TCP address is empty")
    else .ok c
  | .socket _ => .ok c

end Client

/-- A port number of 16 bits, with or without a plus sign. -/
def isPort (cs : List Char) : Bool :=
  let digits := match cs with
    | '+' :: rest => rest
    | _ => cs
  !digits.isEmpty && (digits.all fun c => '0' ≤ c ∧ c ≤ '9') &&
    (digits.foldl (fun n c => 10 * n + (c.toNat - 48)) 0) < 65536

/-- What is wrong with the form of an address, if anything: it ends with a colon and a port. -/
def addressFault (address : String) : Option IoError :=
  let cs := address.toList.reverse
  match cs.dropWhile (· ≠ ':') with
  | [] => some ⟨"invalid socket address"⟩
  | _ :: _ =>
    if isPort (cs.takeWhile (· ≠ ':')).reverse then none else some ⟨"invalid port value"⟩

end Quarantine.Clamd
