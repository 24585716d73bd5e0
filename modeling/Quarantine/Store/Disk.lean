import Quarantine.Source.Basic
import Quarantine.Store.Path
import Quarantine.Store.Table

/-!
A small file system: files and directories at places, and the calls that a store makes on the paths
that lead there, which fail as those of an operating system do.
-/

namespace Quarantine

inductive OsError
  | noEntry
  | alreadyThere
  | notDirectory
  | isDirectory
  | notEmpty
  | busy
  | invalid
  | nameTooLong
  | zeroByte
  | refused
  deriving DecidableEq, Repr, Inhabited

namespace OsError

def message : OsError → String
  | .noEntry => "No such file or directory (os error 2)"
  | .alreadyThere => "File exists (os error 17)"
  | .notDirectory => "Not a directory (os error 20)"
  | .isDirectory => "Is a directory (os error 21)"
  | .notEmpty => "Directory not empty (os error 39)"
  | .busy => "Device or resource busy (os error 16)"
  | .invalid => "Invalid argument (os error 22)"
  | .nameTooLong => "File name too long (os error 36)"
  | .zeroByte => "file name contained an unexpected NUL byte"
  | .refused => "Connection refused (os error 111)"

def io (e : OsError) : IoError :=
  ⟨e.message⟩

end OsError

/-- Names from the top downwards, none of which is empty or made of dots. -/
abbrev Place := List String

inductive Node
  | file (bytes : Bytes)
  | directory
  deriving DecidableEq, Repr

/-- Files and directories below a top, which is a directory and is always there. -/
structure Disk where
  nodes : Table Place Node
  deriving DecidableEq, Repr

namespace Disk

def empty : Disk :=
  ⟨.empty⟩

instance : Inhabited Disk :=
  ⟨empty⟩

def node? (d : Disk) : Place → Option Node
  | [] => some .directory
  | name :: rest => d.nodes.get? (name :: rest)

def put (d : Disk) (place : Place) (node : Node) : Disk :=
  ⟨d.nodes.insert place node⟩

def erase (d : Disk) (place : Place) : Disk :=
  ⟨d.nodes.erase place⟩

/-- The longest name and the longest path, in bytes. -/
def maxName : Nat := 255

def maxPath : Nat := 4095

def check (p : Path) : Except OsError Unit :=
  if p.any fun name => name.toList.contains '\x00' then .error .zeroByte
  else if maxPath < p.size then .error .nameTooLong
  else .ok ()

def enter (d : Disk) (place : Place) : Except OsError Unit :=
  match d.node? place with
  | some .directory => .ok ()
  | some (.file _) => .error .notDirectory
  | none => .error .noEntry

def step (place : Place) (name : String) : Except OsError Place :=
  if maxName < name.utf8ByteSize then .error .nameTooLong else .ok (place ++ [name])

/-- Where a path leads from a place. All on the way, but not its end, has to be a directory. -/
def walk (d : Disk) (place : Place) : Path → Except OsError Place
  | [] => .ok place
  | name :: rest => do
    d.enter place
    if Path.isIdle name then d.walk place rest
    else if name = ".." then d.walk place.dropLast rest
    else d.walk (← step place name) rest

def find (d : Disk) (p : Path) : Except OsError (Place × Node) := do
  check p
  let place ← d.walk [] p
  match d.node? place with
  | none => throw .noEntry
  | some node => return (place, node)

def stat (d : Disk) (p : Path) : Except OsError Node :=
  (d.find p).map (·.2)

def isDirectory (d : Disk) (p : Path) : Bool :=
  match d.stat p with
  | .ok .directory => true
  | _ => false

def holder (d : Disk) (p : Path) : Except OsError (Place × Path.Ending) := do
  check p
  let place ← d.walk [] p.parts.1
  d.enter place
  return (place, p.parts.2)

/-- Opens a path for reading. A directory can be opened, but its first read fails. -/
def openSource (d : Disk) (p : Path) : Except OsError Source := do
  match ← d.stat p with
  | .file bytes => return .ofBytes bytes
  | .directory => return .broken OsError.isDirectory.io

def write (d : Disk) (p : Path) (bytes : Bytes) : Except OsError Disk := do
  match ← d.holder p with
  | (directory, .name name) =>
    if p.endsInSlash then throw .isDirectory
    let place ← step directory name
    match d.node? place with
    | some .directory => throw .isDirectory
    | _ => return d.put place (.file bytes)
  | _ => throw .isDirectory

def rename (d : Disk) (source target : Path) : Except OsError Disk := do
  let (old, node) ← d.find source
  match ← d.holder target with
  | (directory, .name name) =>
    let new ← step directory name
    match d.node? new with
    | some .directory => throw .isDirectory
    | _ => return (d.erase old).put new node
  | _ => throw .busy

def remove (d : Disk) (p : Path) : Except OsError Disk := do
  match ← d.holder p with
  | (directory, .name name) =>
    let place ← step directory name
    match d.node? place with
    | none => throw .noEntry
    | some .directory => throw .isDirectory
    | some (.file _) => if p.endsInSlash then throw .notDirectory else return d.erase place
  | _ => throw .isDirectory

def makeDirectory (d : Disk) (p : Path) : Except OsError Disk := do
  match ← d.holder p with
  | (directory, .name name) =>
    let place ← step directory name
    match d.node? place with
    | some _ => throw .alreadyThere
    | none => return d.put place .directory
  | _ => throw .alreadyThere

def ensureDirectory (d : Disk) (p : Path) : Except OsError Disk :=
  match d.makeDirectory p with
  | .ok made => .ok made
  | .error e => if d.isDirectory p then .ok d else .error e

/-- Makes a directory after those above it, as far as they are missing. -/
def makeDirectoriesFrom (d : Disk) (p : Path) : List Path → Except OsError Unit × Disk
  | [] =>
    match d.ensureDirectory p with
    | .ok made => (.ok (), made)
    | .error e => (.error e, d)
  | q :: above =>
    match d.ensureDirectory p with
    | .ok made => (.ok (), made)
    | .error .noEntry =>
      match d.makeDirectoriesFrom q above with
      | (.error e, made) => (.error e, made)
      | (.ok (), made) =>
        match made.ensureDirectory p with
        | .ok all => (.ok (), all)
        | .error e => (.error e, made)
    | .error e => (.error e, d)

def makeDirectories (d : Disk) (p : Path) : Except OsError Unit × Disk :=
  d.makeDirectoriesFrom p p.ancestors

def isBelow (directory place : Place) : Bool :=
  directory.isPrefixOf place && place ≠ directory

def clear (d : Disk) (directory : Place) : Disk :=
  ⟨⟨d.nodes.entries.filter fun e => !isBelow directory e.1⟩⟩

def removeDirectory (d : Disk) (p : Path) : Except OsError Disk := do
  match ← d.holder p with
  | (directory, .name name) =>
    let place ← step directory name
    d.enter place
    if d.nodes.entries.any fun e => isBelow place e.1 then throw .notEmpty
    else return d.erase place
  | (_, .here) => throw .invalid
  | (_, .above) => throw .notEmpty
  | (_, .none) => throw .busy

/-- Removes a directory with everything in it. What it holds goes first, and the directory counts as
removed if the path leads nowhere after that. -/
def removeTree (d : Disk) (p : Path) : Except OsError Unit × Disk :=
  match d.find p with
  | .error e => (.error e, d)
  | .ok (_, .file _) => (.error .notDirectory, d)
  | .ok (place, .directory) =>
    match (d.clear place).removeDirectory p with
    | .ok removed => (.ok (), removed)
    | .error .noEntry => (.ok (), d.clear place)
    | .error e => (.error e, d.clear place)

def list (d : Disk) (p : Path) : Except OsError (List (String × Node)) := do
  match ← d.find p with
  | (_, .file _) => throw .notDirectory
  | (place, .directory) =>
    return d.nodes.entries.filterMap fun e =>
      match e.1.getLast? with
      | some name => if e.1.dropLast = place then some (name, e.2) else none
      | none => none

end Disk

end Quarantine
