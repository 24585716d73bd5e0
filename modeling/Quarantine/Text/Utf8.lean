import Quarantine.Text.Written

/-!
Texts as UTF-8 bytes: writing, reading with a replacement for what is malformed, and the longest
beginning that fits into a number of bytes.
-/

namespace Quarantine.Text

def utf8 (s : String) : Bytes :=
  s.toList.flatMap String.utf8EncodeChar

/-- The longest beginning of whole characters that takes at most `limit` bytes. -/
def fitting : Nat → List Char → List Char
  | _, [] => []
  | limit, c :: cs =>
    if c.utf8Size ≤ limit then c :: fitting (limit - c.utf8Size) cs else []

/-- Stands for bytes that form no character. -/
def replacement : Char := '\uFFFD'

def isTail (b : UInt8) : Bool :=
  0x80 ≤ b && b ≤ 0xBF

/-- The bytes that may follow a first byte of three or four, which rules out overlong forms,
surrogates and code points beyond the last one. -/
def isSecond (a b : UInt8) : Bool :=
  if a = 0xE0 then 0xA0 ≤ b && b ≤ 0xBF
  else if a = 0xED then 0x80 ≤ b && b ≤ 0x9F
  else if a = 0xF0 then 0x90 ≤ b && b ≤ 0xBF
  else if a = 0xF4 then 0x80 ≤ b && b ≤ 0x8F
  else isTail b

def tailBits (b : UInt8) : Nat :=
  b.toNat % 64

/-- The character that begins with byte `a`, and how many of the following bytes belong to it. A
malformed character takes the bytes up to the first that cannot continue it. -/
def firstChar (a : UInt8) (rest : Bytes) : Char × Nat :=
  if a < 0x80 then (Char.ofNat a.toNat, 0)
  else if 0xC2 ≤ a && a ≤ 0xDF then
    match rest with
    | b :: _ =>
      if isTail b then (Char.ofNat (a.toNat % 32 * 64 + tailBits b), 1) else (replacement, 0)
    | [] => (replacement, 0)
  else if 0xE0 ≤ a && a ≤ 0xEF then
    match rest with
    | b :: c :: _ =>
      if isSecond a b then
        if isTail c then
          (Char.ofNat (a.toNat % 16 * 4096 + tailBits b * 64 + tailBits c), 2)
        else (replacement, 1)
      else (replacement, 0)
    | [b] => (replacement, if isSecond a b then 1 else 0)
    | [] => (replacement, 0)
  else if 0xF0 ≤ a && a ≤ 0xF4 then
    match rest with
    | b :: c :: d :: _ =>
      if isSecond a b then
        if isTail c then
          if isTail d then
            (Char.ofNat (a.toNat % 8 * 262144 + tailBits b * 4096 + tailBits c * 64 + tailBits d),
              3)
          else (replacement, 2)
        else (replacement, 1)
      else (replacement, 0)
    | [b, c] => (replacement, if isSecond a b then if isTail c then 2 else 1 else 0)
    | [b] => (replacement, if isSecond a b then 1 else 0)
    | [] => (replacement, 0)
  else (replacement, 0)

/-- Reads UTF-8, with a replacement character for each malformed stretch. -/
def ofUtf8Lossy : Bytes → List Char
  | [] => []
  | a :: rest =>
    let first := firstChar a rest
    first.1 :: ofUtf8Lossy (rest.drop first.2)
termination_by bytes => bytes.length
decreasing_by simp only [List.length_drop, List.length_cons]; omega

end Quarantine.Text
