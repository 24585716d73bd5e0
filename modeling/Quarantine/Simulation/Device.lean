import Quarantine.Engine.Mock
import Quarantine.Scan.Task

/-!
The engine of a rehearsal: a mock engine whose analyses may be replaced by a script.
-/

namespace Quarantine.Simulation

structure Line where
  delay : Duration
  answer : Scan.Answer
  deriving DecidableEq, Repr

namespace Line

/-- What there is for an analysis after the end of the script. -/
def standard : Line :=
  ⟨.zero, .verdict .clean⟩

instance : Inhabited Line :=
  ⟨standard⟩

end Line

structure Device where
  mock : Mock
  /-- The lines that are left, if there is a script. -/
  script : Option (List Line)
  deriving DecidableEq, Repr, Inhabited

inductive Job
  /-- The mock engine is switched off. -/
  | refused (e : ScanError)
  | mocked (source : Source)
  | scripted (answer : Scan.Answer)
  deriving DecidableEq, Repr

namespace Device

def name (d : Device) : String :=
  d.mock.name

def ping (d : Device) : Except ScanError Unit :=
  d.mock.ping

/-- Begins an analysis, and tells how many ticks it takes. A script first reads the whole
content. -/
def start (source : Source) (d : Device) : Nat × Job × Device :=
  match d.script with
  | some lines =>
    let line := lines.headD .standard
    let rest := { d with script := some lines.tail }
    match source.readAll with
    | .error e => (0, .scripted (.failed (.io e)), rest)
    | .ok _ => (line.delay.wait, .scripted line.answer, rest)
  | none =>
    let started := { d with mock := d.mock.start }
    match started.mock.refusal with
    | some e => (0, .refused e, started)
    | none =>
      ((match d.mock.latency with
        | some latency => latency.wait
        | none => 0), .mocked source, started)

def finish (job : Job) (d : Device) : Scan.Answer × Device :=
  match job with
  | .refused e => (.failed e, { d with mock := d.mock.leave })
  | .mocked source =>
    let judged := d.mock.judge source
    (.ofResult judged.1, { d with mock := judged.2.leave })
  | .scripted answer => (answer, d)

def cancel (job : Job) (d : Device) : Device :=
  match job with
  | .refused _ | .mocked _ => { d with mock := d.mock.leave }
  | .scripted _ => d

end Device

end Quarantine.Simulation
