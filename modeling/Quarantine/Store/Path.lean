/-!
Paths as they are written: names with slashes between them. An empty name, which comes from a slash
at either end or from two in a row, and a single dot stand for the place that was reached before;
two dots stand for the directory above it.
-/

namespace Quarantine

/-- The names of a path, empty ones included. -/
abbrev Path := List String

namespace Path

def ofString (s : String) : Path :=
  s.splitOn "/"

def text (p : Path) : String :=
  "/".intercalate p

def child (p : Path) (name : String) : Path :=
  p ++ [name]

/-- What the second path means to someone in the first. A path that begins with a slash leads from
the top, any other from there. -/
def join (p q : Path) : Path :=
  match q with
  | "" :: _ :: _ => q
  | _ => p ++ q

/-- Whether a name leads nowhere else. -/
def isIdle (name : String) : Bool :=
  name = "" || name = "."

inductive Ending
  | name (s : String)
  | here
  | above
  /-- There is nothing but slashes. -/
  | none
  deriving DecidableEq, Repr

def parts (p : Path) : Path × Ending :=
  match p.reverse.dropWhile (· = "") with
  | [] => ([], .none)
  | last :: back =>
    (back.reverse, if last = "." then .here else if last = ".." then .above else .name last)

def endsInSlash (p : Path) : Bool :=
  p.getLast? = some ""

/-- The paths that are got from names in reverse order by leaving out more and more of the first
ones, as far as they end with a name that leads somewhere. -/
def shortened : List String → List Path
  | [] => []
  | name :: back =>
    if isIdle name then shortened back else (name :: back).reverse :: shortened back

/-- The paths of the directories above the one that a path names, the nearest first. -/
def ancestors (p : Path) : List Path :=
  shortened (p.reverse.dropWhile isIdle).tail

def size (p : Path) : Nat :=
  p.foldl (fun n name => n + name.utf8ByteSize + 1) 0 - 1

end Path

end Quarantine
