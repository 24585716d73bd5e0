import Quarantine.Log.Trace
import Quarantine.Store.Faulty

/-!
The sweeping of records that are out of date. A sweep removes the records with a verdict that were
created before the cutoff, which lies a fixed span back.
-/

namespace Quarantine.Retention

def isEnabled (ttl : Span) : Bool :=
  ttl.isPositive

/-- Records created before this are out of date. There is none if it would have no date. -/
def cutoff? (now : Instant) (ttl : Span) : Option Instant :=
  now.minus? ttl

variable {σ : Type}

def sweepAt (m : Moment) (cutoff : Instant) (s : Stores σ) :
    Except MetadataError Nat × Stores σ × Trace :=
  let purged := s.purgeRecords m cutoff
  let said := match purged.1 with
    | .ok removed => [.audit (.purgeCompleted removed cutoff)]
    | .error _ => []
  (purged.1, purged.2, .call (.purgeRecords cutoff) :: said)

def sweep (m : Moment) (ttl : Span) (s : Stores σ) :
    Option (Except MetadataError Nat × Stores σ × Trace) :=
  (cutoff? m.now ttl).map fun cutoff => sweepAt m cutoff s

/-- A sweep in the background, whose failure is only written to the log. -/
def sweepQuietly (m : Moment) (ttl : Span) (s : Stores σ) : Option (Stores σ × Trace) :=
  (sweep m ttl s).map fun (result, stores, trace) =>
    match result with
    | .ok _ => (stores, trace)
    | .error e => (stores, trace ++ [.notice (.sweepFailed e)])

end Quarantine.Retention
