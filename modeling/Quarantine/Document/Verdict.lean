import Quarantine.Json.Reader

/-!
Verdicts of engines, and the status that a document has before and after one.
-/

namespace Quarantine

/-- Where a document stands. It begins as pending and leaves that state at most once. -/
inductive Status
  | pending
  | clean
  | infected
  deriving DecidableEq, Repr, Inhabited

namespace Status

def isPending : Status → Bool
  | .pending => true
  | _ => false

def name : Status → String
  | .pending => "pending"
  | .clean => "clean"
  | .infected => "infected"

def code : Status → Nat
  | .pending => 0
  | .clean => 1
  | .infected => 2

def all : List Status :=
  [.pending, .clean, .infected]

def ofCode? (n : Int) : Option Status :=
  all.find? fun s => (s.code : Int) = n

def ofName? (s : String) : Option Status :=
  all.find? fun status => status.name = s

def toJson (s : Status) : Json :=
  .text s.name

def reader : Json.Reader Status :=
  Json.Reader.oneOf (all.map fun s => (s.name, s))

end Status

inductive Verdict
  | clean
  | infected (threat : String)
  deriving DecidableEq, Repr, Inhabited

namespace Verdict

def status : Verdict → Status
  | .clean => .clean
  | .infected _ => .infected

@[simp] theorem isPending_status (v : Verdict) : v.status.isPending = false := by
  cases v <;> rfl

def isInfected : Verdict → Bool
  | .clean => false
  | .infected _ => true

def threat : Verdict → Option String
  | .clean => none
  | .infected threat => some threat

def toJson : Verdict → Json
  | .clean => .object [("type", .text "clean")]
  | .infected threat => .object [("type", .text "infected"), ("threat", .text threat)]

inductive Kind
  | clean
  | infected
  deriving DecidableEq, Repr

def kinds : List (String × Kind) :=
  [("clean", .clean), ("infected", .infected)]

/-- The name of the kind, which is never written as an object. -/
def kindReader : Json.Reader Kind := do
  match kinds.lookup (← Json.Reader.text) with
  | some kind => return kind
  | none => Json.Reader.refuse

/-- How deep the values may be nested that stand beside the kind. -/
def maxDepth : Nat := 126

/-- Reads the fields of a verdict after the beginning or after a field: the kind, which may stand
anywhere but only once, and all the others. -/
def fieldsFrom : Nat → Bool → Option Kind → List (String × Json) →
    Json.Reader (Option Kind × List (String × Json))
  | 0, _, _, _ => Json.Reader.refuse
  | fuel + 1, first, kind, others => do
    if ← Json.Reader.takeIf .endObject then return (kind, others.reverse)
    unless first do Json.Reader.expect .comma
    let key ← Json.Reader.text
    if key = "type" then
      if kind.isSome then Json.Reader.refuse
      Json.Reader.expect .colon
      fieldsFrom fuel false (some (← kindReader)) others
    else
      Json.Reader.expect .colon
      fieldsFrom fuel false kind ((key, ← Json.Reader.any maxDepth) :: others)

def itemsFrom : Nat → List Json → Json.Reader (List Json)
  | 0, _ => Json.Reader.refuse
  | fuel + 1, back => do
    if ← Json.Reader.takeIf .endList then return back.reverse
    Json.Reader.expect .comma
    itemsFrom fuel ((← Json.Reader.any maxDepth) :: back)

/-- The verdict of a kind with the fields beside it, of which only the threat counts. -/
def ofFields (kind : Kind) (fields : List (String × Json)) : Option Verdict :=
  match kind with
  | .clean => some .clean
  | .infected =>
    match fields.filter (·.1 = "threat") with
    | [(_, .text threat)] => some (.infected threat)
    | _ => none

def ofItems (kind : Kind) (items : List Json) : Option Verdict :=
  match kind, items with
  | .clean, [] => some .clean
  | .infected, [.text threat] => some (.infected threat)
  | _, _ => none

/-- A verdict is an object with its kind, or a list that begins with it. -/
def reader : Json.Reader Verdict := do
  match ← Json.Reader.take with
  | .beginObject =>
    let (kind, fields) ← fieldsFrom ((← get).length + 1) true none []
    Json.Reader.required (ofFields (← Json.Reader.required kind) fields)
  | .beginList =>
    let kind ← kindReader
    let items ← itemsFrom ((← get).length + 1) []
    Json.Reader.required (ofItems kind items)
  | _ => Json.Reader.refuse

end Verdict

end Quarantine
