import Quarantine.Json.Token
import Quarantine.Json.Value

/-!
Reading values of known types from the tokens of a JSON text. What is wrong first in the text
decides the refusal. Records may be written as objects, where unknown fields are skipped and no
known field may come twice, or as lists of their fields in order.
-/

namespace Quarantine.Json

inductive Refusal
  /-- The text is not JSON, or not of the type that is read. -/
  | malformed
  /-- A number is of the right type but not in the range of what it stands for. -/
  | outOfRange (what : String)
  deriving DecidableEq, Repr

def Refusal.message : Refusal → Option String
  | .malformed => none
  | .outOfRange what => some (what ++ " out of range")

abbrev Reader := StateT (List Token) (Except Refusal)

namespace Reader

def refuse {α : Type} : Reader α :=
  throw .malformed

def take : Reader Token := do
  match ← get with
  | [] => refuse
  | token :: rest =>
    set rest
    return token

def takeIf (token : Token) : Reader Bool := do
  match ← get with
  | [] => return false
  | first :: rest =>
    if first = token then
      set rest
      return true
    else return false

def expect (token : Token) : Reader Unit := do
  if ← takeIf token then return () else refuse

def text : Reader String := do
  match ← take with
  | .text s true => return s
  | _ => refuse

def bool : Reader Bool := do
  match ← take with
  | .bool b => return b
  | _ => refuse

def nat64 : Reader Nat := do
  match ← take with
  | .int n => if 0 ≤ n ∧ n < 18446744073709551616 then return n.toNat else refuse
  | _ => refuse

def int64 : Reader Int := do
  match ← take with
  | .int n => if -9223372036854775808 ≤ n ∧ n < 9223372036854775808 then return n else refuse
  | _ => refuse

def option {α : Type} (value : Reader α) : Reader (Option α) := do
  if ← takeIf .null then return none else return some (← value)

/-- The items of a list after the first, which stand behind commas, up to its end. -/
def itemsFrom {α : Type} (item : Reader α) : Nat → List α → Reader (List α)
  | 0, _ => refuse
  | fuel + 1, back => do
    if ← takeIf .endList then return back.reverse
    expect .comma
    itemsFrom item fuel ((← item) :: back)

def list {α : Type} (item : Reader α) : Reader (List α) := do
  expect .beginList
  if ← takeIf .endList then return []
  let first ← item
  itemsFrom item ((← get).length + 1) [first]

/-- One of some names, written as a string or as an object that holds the name with null. -/
def oneOf {α : Type} (names : List (String × α)) : Reader α := do
  if ← takeIf .beginObject then
    let found ← named (← text)
    expect .colon
    expect .null
    expect .endObject
    return found
  else named (← text)
where
  named (s : String) : Reader α :=
    match names.lookup s with
    | some found => return found
    | none => refuse

/-- How values that are kept are told from values that are skipped: kept ones have to be
representable, skipped ones only well formed. -/
structure Care where
  keep : Bool
  deriving Repr

mutual

/-- A value of any type, at most `depth` containers deep. -/
def anyFrom (care : Care) : Nat → Nat → Reader Json
  | 0, _ => refuse
  | fuel + 1, depth => do
    match ← take with
    | .null => return .null
    | .bool b => return .bool b
    | .int n => return .int n
    | .decimal finite => if care.keep && !finite then refuse else return .null
    | .text s whole => if care.keep && !whole then refuse else return .text s
    | .beginList =>
      if depth = 0 then refuse
      if ← takeIf .endList then return .list []
      let first ← anyFrom care fuel (depth - 1)
      return .list (first :: (← restItems care fuel (depth - 1)))
    | .beginObject =>
      if depth = 0 then refuse
      if ← takeIf .endObject then return .object []
      let key ← keyFrom care
      let first ← anyFrom care fuel (depth - 1)
      return .object ((key, first) :: (← restFields care fuel (depth - 1)))
    | _ => refuse

def restItems (care : Care) : Nat → Nat → Reader (List Json)
  | 0, _ => refuse
  | fuel + 1, depth => do
    if ← takeIf .endList then return []
    expect .comma
    let item ← anyFrom care fuel depth
    return item :: (← restItems care fuel depth)

def restFields (care : Care) : Nat → Nat → Reader (List (String × Json))
  | 0, _ => refuse
  | fuel + 1, depth => do
    if ← takeIf .endObject then return []
    expect .comma
    let key ← keyFrom care
    let value ← anyFrom care fuel depth
    return (key, value) :: (← restFields care fuel depth)

def keyFrom (care : Care) : Reader String := do
  match ← take with
  | .text s whole =>
    if care.keep && !whole then refuse
    expect .colon
    return s
  | _ => refuse

end

def any (depth : Nat) : Reader Json := do
  anyFrom ⟨true⟩ (2 * (← get).length + 2) depth

def skip : Reader Unit := do
  let size := (← get).length
  discard <| anyFrom ⟨false⟩ (2 * size + 2) size

structure Field (σ : Type) where
  name : String
  isSet : σ → Bool
  fill : σ → Reader σ

def fieldsFrom {σ : Type} (fields : List (Field σ)) : Nat → Bool → σ → Reader σ
  | 0, _, _ => refuse
  | fuel + 1, first, s => do
    if ← takeIf .endObject then return s
    unless first do expect .comma
    let key ← text
    match fields.find? (·.name = key) with
    | none =>
      expect .colon
      skip
      fieldsFrom fields fuel false s
    | some field =>
      if field.isSet s then refuse
      expect .colon
      fieldsFrom fields fuel false (← field.fill s)

def positionsFrom {σ : Type} : List (Field σ) → Bool → σ → Reader σ
  | [], _, s => do
    expect .endList
    return s
  | field :: fields, first, s => do
    if ← takeIf .endList then return s
    unless first do expect .comma
    positionsFrom fields false (← field.fill s)

/-- Reads a record in either of its forms. Fields that are not there stay as they are in `s`. -/
def record {σ : Type} (fields : List (Field σ)) (s : σ) : Reader σ := do
  match ← take with
  | .beginObject => fieldsFrom fields ((← get).length + 1) true s
  | .beginList => positionsFrom fields true s
  | _ => refuse

def required {α : Type} : Option α → Reader α
  | some a => return a
  | none => refuse

end Reader

def read {α : Type} (value : Reader α) (s : String) : Except Refusal α :=
  match (value.run (Token.lex s) : Except Refusal (α × List Token)) with
  | .error refusal => .error refusal
  | .ok (a, []) => .ok a
  | .ok (_, _ :: _) => .error .malformed

end Quarantine.Json
