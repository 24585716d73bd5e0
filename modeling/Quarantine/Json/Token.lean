import Quarantine.Json.Magnitude
import Quarantine.Text.Written

/-!
The tokens of a JSON text. A text that is not JSON has the tokens up to the first character that
cannot belong to one, and then the token `bad`, which no reader takes.
-/

namespace Quarantine.Json

inductive Token
  | beginObject
  | endObject
  | beginList
  | endList
  | colon
  | comma
  | null
  | bool (b : Bool)
  /-- An integer, other than a negative zero, whose digits fit into 64 bits. -/
  | int (n : Int)
  | decimal (finite : Bool)
  /-- A string. It is not whole if it escapes half of a surrogate pair. -/
  | text (s : String) (whole : Bool)
  | bad
  deriving DecidableEq, Repr, Inhabited

namespace Token

def isDigit (c : Char) : Bool :=
  '0' ≤ c && c ≤ '9'

def digitsValue (cs : List Char) : Nat :=
  cs.foldl (fun n c => 10 * n + (c.toNat - 48)) 0

def exponent (cs : List Char) : Option (Option Int × List Char) :=
  match cs with
  | e :: rest =>
    if e = 'e' ∨ e = 'E' then
      let (sign, rest) : Int × List Char :=
        match rest with
        | '+' :: rest => (1, rest)
        | '-' :: rest => (-1, rest)
        | _ => (1, rest)
      let digits := rest.takeWhile isDigit
      if digits.isEmpty then none
      else some (some (sign * digitsValue digits), rest.drop digits.length)
    else some (none, cs)
  | [] => some (none, [])

def fraction (cs : List Char) : Option (Option (List Char) × List Char) :=
  match cs with
  | '.' :: rest =>
    let digits := rest.takeWhile isDigit
    if digits.isEmpty then none else some (some digits, rest.drop digits.length)
  | _ => some (none, cs)

def number (negative : Bool) (cs : List Char) : Option (Token × List Char) :=
  let whole := cs.takeWhile isDigit
  if whole.isEmpty || (whole.head? = some '0' && 1 < whole.length) then none
  else
    match fraction (cs.drop whole.length) with
    | none => none
    | some (places, rest) =>
      match exponent rest with
      | none => none
      | some (power, rest) =>
        let (n, left) := Magnitude.append 0 whole
        if places.isNone && power.isNone && left = 0 && !(negative && n = 0) then
          some (.int (if negative then -(n : Int) else n), rest)
        else
          let magnitude := Magnitude.ofDigits whole (places.getD []) (power.getD 0)
          some (.decimal magnitude.isFinite, rest)

def codeUnit : List Char → Option (Nat × List Char)
  | a :: b :: c :: d :: rest =>
    match Text.hexValue a, Text.hexValue b, Text.hexValue c, Text.hexValue d with
    | some a, some b, some c, some d => some (a * 4096 + b * 256 + c * 16 + d, rest)
    | _, _, _, _ => none
  | _ => none

def simpleEscape : Char → Option Char
  | '"' => some '"'
  | '\\' => some '\\'
  | '/' => some '/'
  | 'b' => some '\x08'
  | 'f' => some '\x0c'
  | 'n' => some '\n'
  | 'r' => some '\r'
  | 't' => some '\t'
  | _ => none

def isHighSurrogate (n : Nat) : Bool :=
  0xD800 ≤ n && n ≤ 0xDBFF

def isLowSurrogate (n : Nat) : Bool :=
  0xDC00 ≤ n && n ≤ 0xDFFF

/-- Reads what follows a backslash: the character, if it is one, and the rest. -/
def escape : List Char → Option (Option Char × List Char)
  | 'u' :: rest =>
    match codeUnit rest with
    | none => none
    | some (high, rest) =>
      if isHighSurrogate high then
        match rest with
        | '\\' :: 'u' :: more =>
          match codeUnit more with
          | some (low, after) =>
            if isLowSurrogate low then
              some (some (Char.ofNat (0x10000 + (high - 0xD800) * 0x400 + (low - 0xDC00))), after)
            else some (none, rest)
          | none => some (none, rest)
        | _ => some (none, rest)
      else if isLowSurrogate high then some (none, rest)
      else some (some (Char.ofNat high), rest)
  | c :: rest => (simpleEscape c).map fun c => (some c, rest)
  | [] => none

/-- Reads the rest of a string, whose characters so far are given backwards. -/
def string : Nat → List Char → Bool → List Char → Option (Token × List Char)
  | 0, _, _, _ => none
  | _ + 1, _, _, [] => none
  | fuel + 1, back, whole, c :: rest =>
    if c = '"' then some (.text (String.ofList back.reverse) whole, rest)
    else if c = '\\' then
      match escape rest with
      | none => none
      | some (some c, rest) => string fuel (c :: back) whole rest
      | some (none, rest) => string fuel back false rest
    else if c.toNat < 32 then none
    else string fuel (c :: back) whole rest

def word (w : List Char) (token : Token) (cs : List Char) : Option (Token × List Char) :=
  if cs.take w.length = w then some (token, cs.drop w.length) else none

def next (c : Char) (rest : List Char) : Option (Token × List Char) :=
  match c with
  | '\x7b' => some (.beginObject, rest)
  | '\x7d' => some (.endObject, rest)
  | '[' => some (.beginList, rest)
  | ']' => some (.endList, rest)
  | ':' => some (.colon, rest)
  | ',' => some (.comma, rest)
  | 'n' => word ['u', 'l', 'l'] .null rest
  | 't' => word ['r', 'u', 'e'] (.bool true) rest
  | 'f' => word ['a', 'l', 's', 'e'] (.bool false) rest
  | '"' => string (rest.length + 1) [] true rest
  | '-' => number true rest
  | c => if isDigit c then number false (c :: rest) else none

def isSpace (c : Char) : Bool :=
  c = ' ' || c = '\n' || c = '\t' || c = '\r'

/-- The tokens of a text, each of which takes up at least one character. -/
def lexFrom : Nat → List Char → List Token
  | 0, _ => []
  | fuel + 1, cs =>
    match cs.dropWhile isSpace with
    | [] => []
    | c :: rest =>
      match next c rest with
      | none => [.bad]
      | some (token, rest) => token :: lexFrom fuel rest

def lex (s : String) : List Token :=
  let cs := s.toList
  lexFrom (cs.length + 1) cs

end Token

end Quarantine.Json
