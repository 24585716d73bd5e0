import Quarantine.Engine.Mock

/-!
A mock engine on a clock of its own, which stands still while there is work to do and moves on when
all analyses are waiting.
-/

namespace Quarantine

structure Bench where
  mock : Mock
  /-- Milliseconds since the beginning. -/
  clock : Nat
  deriving DecidableEq, Repr, Inhabited

namespace Bench

def elapsed (b : Bench) : Duration :=
  .ofMillis b.clock

def wait (m : Mock) : Nat :=
  match m.latency with
  | some latency => latency.wait
  | none => 0

def finish (source : Source) (m : Mock) : Except ScanError Verdict × Mock :=
  let judged := m.judge source
  (judged.1, judged.2.leave)

/-- Runs an analysis unless it takes longer than a limit. It is cancelled when the limit has passed,
and then there is no result. -/
def analyzeWithin (limit : Option Duration) (source : Source) (b : Bench) :
    Option (Except ScanError Verdict) × Bench :=
  let started := b.mock.start
  match started.refusal with
  | some e => (some (.error e), { b with mock := started.leave })
  | none =>
    match limit with
    | some limit =>
      if wait started ≤ limit.wait then conclude started
      else (none, ⟨started.leave, b.clock + limit.wait⟩)
    | none => conclude started
where
  conclude (started : Mock) : Option (Except ScanError Verdict) × Bench :=
    let finished := finish source started
    (some finished.1, ⟨finished.2, b.clock + wait started⟩)

def startOne (m : Mock) : Option ScanError × Mock :=
  let started := m.start
  match started.refusal with
  | some e => (some e, started.leave)
  | none => (none, started)

/-- Starts analyses in order. Each of those that need no time ends before the next one starts; the
others wait together and end in order. -/
def analyzeAll (sources : List Source) (b : Bench) : List (Except ScanError Verdict) × Bench :=
  if wait b.mock = 0 then
    let (results, mock) := sources.foldl (fun (back, m) source =>
      match startOne m with
      | (some e, m) => (.error e :: back, m)
      | (none, m) =>
        let finished := finish source m
        (finished.1 :: back, finished.2)) ([], b.mock)
    (results.reverse, { b with mock := mock })
  else
    let (started, mock) := sources.foldl (fun (back, m) source =>
      let (refusal, m) := startOne m
      ((refusal, source) :: back, m)) ([], b.mock)
    let (results, mock) := started.reverse.foldl (fun (back, m) (refusal, source) =>
      match refusal with
      | some e => (.error e :: back, m)
      | none =>
        let finished := finish source m
        (finished.1 :: back, finished.2)) ([], mock)
    let waiting := started.any fun s => s.1.isNone
    (results.reverse, ⟨mock, if waiting then b.clock + wait b.mock else b.clock⟩)

end Bench

end Quarantine
