/-!
JSON values and their shortest written form. Numbers are integers; objects keep the order of their
fields.
-/

namespace Quarantine

inductive Json
  | null
  | bool (b : Bool)
  | int (n : Int)
  | text (s : String)
  | list (items : List Json)
  | object (fields : List (String × Json))
  deriving Repr, Inhabited

namespace Json

def nat (n : Nat) : Json :=
  .int n

def optionText : Option String → Json
  | none => .null
  | some s => .text s

def escapeDigit (n : Nat) : Char :=
  if n < 10 then Char.ofNat (48 + n) else Char.ofNat (87 + n)

/-- How one character is written inside a string: quotes, backslashes and controls are escaped. -/
def charChars (c : Char) : List Char :=
  if c = '"' then ['\\', '"']
  else if c = '\\' then ['\\', '\\']
  else if c = '\n' then ['\\', 'n']
  else if c = '\r' then ['\\', 'r']
  else if c = '\t' then ['\\', 't']
  else if c = '\x08' then ['\\', 'b']
  else if c = '\x0c' then ['\\', 'f']
  else if c.toNat < 32 then
    ['\\', 'u', '0', '0', escapeDigit (c.toNat / 16), escapeDigit (c.toNat % 16)]
  else [c]

def stringChars (s : String) : List Char :=
  '"' :: s.toList.flatMap charChars ++ ['"']

def intChars (n : Int) : List Char :=
  if n < 0 then '-' :: Nat.toDigits 10 n.natAbs else Nat.toDigits 10 n.natAbs

mutual

def chars : Json → List Char
  | .null => ['n', 'u', 'l', 'l']
  | .bool true => ['t', 'r', 'u', 'e']
  | .bool false => ['f', 'a', 'l', 's', 'e']
  | .int n => intChars n
  | .text s => stringChars s
  | .list [] => ['[', ']']
  | .list (first :: rest) => '[' :: first.chars ++ itemChars rest
  | .object [] => ['\x7b', '\x7d']
  | .object ((key, first) :: rest) =>
    '\x7b' :: stringChars key ++ ':' :: first.chars ++ fieldChars rest

def itemChars : List Json → List Char
  | [] => [']']
  | item :: rest => ',' :: item.chars ++ itemChars rest

def fieldChars : List (String × Json) → List Char
  | [] => ['\x7d']
  | (key, value) :: rest => ',' :: stringChars key ++ ':' :: value.chars ++ fieldChars rest

end

def render (j : Json) : String :=
  String.ofList j.chars

end Json

end Quarantine
