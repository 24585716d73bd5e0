import Quarantine.Scan.Settings

/-!
The configuration of a service, and its JSON form. The form has units of its own: whole seconds for
the time that results are kept and for the waits between attempts, whole milliseconds for the
timeout of an attempt.
-/

namespace Quarantine

structure Config where
  version : String
  information : String
  maxUploadSize : Nat
  /-- How long records with a verdict are kept. They are kept for ever if it is not positive. -/
  resultTtl : Span
  scan : ScanSettings
  deriving DecidableEq, Repr

namespace Config

def standard : Config :=
  ⟨"dev", "scangate", 1048576, ⟨3600000000000, by decide⟩, .standard⟩

instance : Inhabited Config :=
  ⟨standard⟩

def withVersion (c : Config) (s : String) : Config :=
  { c with version := s }

def withInformation (c : Config) (s : String) : Config :=
  { c with information := s }

def withMaxUploadSize (c : Config) (n : Nat) : Config :=
  { c with maxUploadSize := n }

def withResultTtl (c : Config) (ttl : Span) : Config :=
  { c with resultTtl := ttl }

def withScanConcurrency (c : Config) (n : Nat) : Config :=
  { c with scan := c.scan.withCapacity n }

def withRetryLadder (c : Config) (l : Ladder) : Config :=
  { c with scan := c.scan.withLadder l }

def withAttemptTimeout (c : Config) (d : Duration) : Config :=
  { c with scan := c.scan.withAttemptTimeout d }

def toJson (c : Config) : Json :=
  .object
    [("version", .text c.version), ("information", .text c.information),
      ("max_upload_size", .nat c.maxUploadSize), ("result_ttl", .int c.resultTtl.seconds),
      ("scan", c.scan.toJson)]

/-- Whole seconds that a span can hold. -/
def ttlReader : Json.Reader Span := do
  match Span.ofSeconds? (← Json.Reader.int64) with
  | some ttl => return ttl
  | none => throw (.outOfRange "result_ttl")

structure Partial where
  version : Option String := none
  information : Option String := none
  maxUploadSize : Option Nat := none
  resultTtl : Option Span := none
  scan : Option ScanSettings := none

def fields : List (Json.Reader.Field Partial) :=
  [⟨"version", (·.version.isSome),
      fun p => return { p with version := some (← Json.Reader.text) }⟩,
    ⟨"information", (·.information.isSome),
      fun p => return { p with information := some (← Json.Reader.text) }⟩,
    ⟨"max_upload_size", (·.maxUploadSize.isSome),
      fun p => return { p with maxUploadSize := some (← Json.Reader.nat64) }⟩,
    ⟨"result_ttl", (·.resultTtl.isSome),
      fun p => return { p with resultTtl := some (← ttlReader) }⟩,
    ⟨"scan", (·.scan.isSome), fun p => return { p with scan := some (← ScanSettings.reader) }⟩]

/-- Fields that are missing are the standard ones. -/
def reader : Json.Reader Config := do
  let p ← Json.Reader.record fields {}
  return ⟨p.version.getD standard.version, p.information.getD standard.information,
    p.maxUploadSize.getD standard.maxUploadSize, p.resultTtl.getD standard.resultTtl,
    p.scan.getD standard.scan⟩

end Config

end Quarantine
