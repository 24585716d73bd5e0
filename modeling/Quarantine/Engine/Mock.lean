import Quarantine.Document.Verdict
import Quarantine.Error
import Quarantine.Text.Utf8

/-!
An engine without a scanner, for rehearsals. It recognises the test file, takes its time if it is
told to, fails when it is told to, and counts its analyses.

An analysis starts, and then it either is refused at once, or goes on for the latency and then ends
with a judgement, or is cancelled before.
-/

namespace Quarantine

/-! The test file that every engine is to take for a threat, though it is harmless. -/

namespace Eicar

def text : String :=
  "X5O!P%@AP[4\\PZX54(P^)7CC)7\x7d$EICAR-STANDARD-ANTIVIRUS-TEST-FILE!$H+H*"

def signature : Bytes :=
  Text.utf8 text

def threat : String :=
  "Eicar-Test-Signature"

def occursIn (part : Bytes) : Bytes → Bool
  | [] => part.isEmpty
  | b :: rest => part.isPrefixOf (b :: rest) || occursIn part rest

end Eicar

structure Mock where
  name : String
  latency : Option Duration
  online : Bool
  failAlways : Bool
  failNext : Nat
  calls : Nat
  /-- How many have started and not ended. -/
  active : Nat
  /-- The most that have been active at a time. -/
  peak : Nat
  deriving DecidableEq, Repr

namespace Mock

def standard : Mock :=
  ⟨"mock", none, true, false, 0, 0, 0, 0⟩

instance : Inhabited Mock :=
  ⟨standard⟩

def offline (m : Mock) : ScanError :=
  .unavailable m.name "mock engine is offline"

def start (m : Mock) : Mock :=
  { m with calls := m.calls + 1, active := m.active + 1, peak := max m.peak (m.active + 1) }

/-- An analysis ends, or is cancelled. -/
def leave (m : Mock) : Mock :=
  { m with active := m.active - 1 }

/-- What an analysis is refused with right after its start. -/
def refusal (m : Mock) : Option ScanError :=
  if m.online then none else some m.offline

/-- Whether an analysis is to fail, and the engine after that is taken note of. -/
def takeFailure (m : Mock) : Bool × Mock :=
  if m.failAlways then (true, m)
  else
    match m.failNext with
    | 0 => (false, m)
    | n + 1 => (true, { m with failNext := n })

def verdict (content : Bytes) : Verdict :=
  if Eicar.occursIn Eicar.signature content then .infected Eicar.threat else .clean

def inspect (source : Source) : Except ScanError Verdict :=
  match source.readAll with
  | .error e => .error (.io e)
  | .ok content => .ok (verdict content)

def judge (source : Source) (m : Mock) : Except ScanError Verdict × Mock :=
  match m.takeFailure with
  | (true, m) => (.error (.connection m.name "simulated failure"), m)
  | (false, m) => (inspect source, m)

def ping (m : Mock) : Except ScanError Unit :=
  if m.online then .ok () else .error m.offline

end Mock

end Quarantine
