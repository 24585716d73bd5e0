import Quarantine.Store.Disk
import Quarantine.Store.Payloads

/-!
Payloads in the files of a directory. The bytes of a document are in a file named after it. A new
payload is first written to a file of its own and then moved into its place, so that nobody ever
sees a part of one, and what is left of one that cannot be finished is removed. That goes for a
device that fails halfway, too, such as a full one; its saves stand at the end.
-/

namespace Quarantine

structure Directory where
  disk : Disk
  base : Path
  /-- How many names of unfinished files have been drawn so far. -/
  drawn : Nat
  deriving DecidableEq, Repr, Inhabited

namespace Directory

def prepare (d : Directory) : Except StorageError Unit × Directory :=
  let made := d.disk.makeDirectories d.base
  (made.1.mapError fun e =>
      .unavailable ("failed to create directory " ++ d.base.text ++ ": " ++ e.message),
    { d with disk := made.2 })

def dataPath (d : Directory) (id : DocumentId) : Path :=
  d.base.child (id.text ++ ".bin")

/-- A number below 2^128 as sixteen bytes in hexadecimal, the highest first. -/
def mark (n : Nat) : String :=
  Text.hex ((List.range 16).map fun i => UInt8.ofNat (n / Nat.pow 256 (15 - i)))

/-- A file of its own for a payload that is still being written. -/
def partPath (d : Directory) (id : DocumentId) : Path :=
  d.base.child (id.text ++ "." ++ mark d.drawn ++ ".part")

/-- Writes at most `size` bytes of a source to a file and moves it to its place. -/
def writePart (part target : Path) (source : Source) (size : Nat) (disk : Disk) :
    Except IoError Unit × Disk :=
  let drained := (source.limit size).drain 8192
  match disk.write part drained.chunks.flatten with
  | .error e => (.error e.io, disk)
  | .ok written =>
    match drained.failure with
    | some e => (.error e, written)
    | none =>
      match written.rename part target with
      | .error e => (.error e.io, written)
      | .ok moved => (.ok (), moved)

def without (path : Path) (disk : Disk) : Disk :=
  match disk.remove path with
  | .ok removed => removed
  | .error _ => disk

def save (id : DocumentId) (source : Source) (size : Nat) (d : Directory) :
    Except StorageError Unit × Directory :=
  if id.isValid then
    match writePart (d.partPath id) (d.dataPath id) source size d.disk with
    | (.ok (), disk) => (.ok (), { d with disk := disk, drawn := d.drawn + 1 })
    | (.error e, disk) =>
      (.error (.saveFailed id.text e.text),
        { d with disk := without (d.partPath id) disk, drawn := d.drawn + 1 })
  else (.error (.invalidId id.text), d)

def failure (id : DocumentId) : OsError → StorageError
  | .noEntry => .notFound id.text
  | e => .io e.io

def fetch (id : DocumentId) (d : Directory) : Except StorageError Source :=
  if id.isValid then (d.disk.openSource (d.dataPath id)).mapError (failure id)
  else .error (.invalidId id.text)

def delete (id : DocumentId) (d : Directory) : Except StorageError Unit × Directory :=
  if id.isValid then
    match d.disk.remove (d.dataPath id) with
    | .ok disk => (.ok (), { d with disk := disk })
    | .error e => (.error (failure id e), d)
  else (.error (.invalidId id.text), d)

def ping (d : Directory) : Except StorageError Unit :=
  match d.disk.stat d.base with
  | .ok .directory => .ok ()
  | .ok (.file _) => .error (.unavailable (d.base.text ++ " is not a directory"))
  | .error e => .error (.unavailable (d.base.text ++ ": " ++ e.message))

instance : PayloadStore Directory where
  save := save
  fetch := fetch
  delete := delete
  ping := ping

/-- What may be wrong with the device while a payload is saved. -/
inductive Hitch
  | creating (e : IoError)
  /-- The file cannot grow beyond so many bytes. -/
  | writing (room : Nat) (e : IoError)
  /-- The file is written, but cannot be made to last or not be moved. -/
  | finishing (e : IoError)
  deriving DecidableEq, Repr

/-- Makes a file with these bytes and then fails. -/
def breakOff (part : Path) (bytes : Bytes) (e : IoError) (disk : Disk) :
    Except IoError Unit × Disk :=
  match disk.write part bytes with
  | .error failure => (.error failure.io, disk)
  | .ok written => (.error e, written)

/-- `writePart` on a device that something may be wrong with. -/
def writePartUnder (hitch : Option Hitch) (part target : Path) (source : Source) (size : Nat)
    (disk : Disk) : Except IoError Unit × Disk :=
  let drained := (source.limit size).drain 8192
  match hitch with
  | none => writePart part target source size disk
  | some (.creating e) => (.error e, disk)
  | some (.writing room e) =>
    if room < drained.chunks.flatten.length then
      breakOff part (drained.chunks.flatten.take room) e disk
    else writePart part target source size disk
  | some (.finishing e) =>
    breakOff part drained.chunks.flatten (drained.failure.getD e) disk

/-- `save` on a device that something may be wrong with. -/
def saveUnder (hitch : Option Hitch) (id : DocumentId) (source : Source) (size : Nat)
    (d : Directory) : Except StorageError Unit × Directory :=
  if id.isValid then
    match writePartUnder hitch (d.partPath id) (d.dataPath id) source size d.disk with
    | (.ok (), disk) => (.ok (), { d with disk := disk, drawn := d.drawn + 1 })
    | (.error e, disk) =>
      (.error (.saveFailed id.text e.text),
        { d with disk := without (d.partPath id) disk, drawn := d.drawn + 1 })
  else (.error (.invalidId id.text), d)

end Directory

end Quarantine
