import Quarantine.Text.Classes
import Quarantine.Text.Utf8

/-!
Tags: the short names that callers give their uploads, reduced to characters that are safe anywhere.
A raw tag that is too long is cut between two characters, which is looked for byte by byte.
-/

namespace Quarantine.Text

/-- Whether a place in UTF-8 bytes is between two characters, or at either end. -/
def isBoundary (bytes : Bytes) (n : Nat) : Bool :=
  n = 0 || n = bytes.length || bytes[n]?.any fun b => !isTail b

/-- Goes back byte by byte to a boundary. There is no going back from the beginning. -/
def backUp (bytes : Bytes) : Nat → Option Nat
  | 0 => if isBoundary bytes 0 then some 0 else none
  | n + 1 => if isBoundary bytes (n + 1) then some (n + 1) else backUp bytes n

end Quarantine.Text

namespace Quarantine.Tag

/-- The longest tag, in UTF-8 bytes. -/
def maxBytes : Nat := 128

def allowed (c : Char) : Bool :=
  c = '-' || c = '_' || c = '.' || Text.isLetter c || Text.isDigit c

/-- What a single character becomes: a space an underscore, and any other either itself or
nothing. -/
def reduceChar (c : Char) : Option Char :=
  if c = ' ' then some '_' else if allowed c then some c else none

/-- Where a raw tag is cut: at its end, or at a character within the first 128 bytes. -/
def cut (raw : String) : Nat :=
  (Text.backUp (Text.utf8 raw) (min (Text.utf8 raw).length maxBytes)).getD 0

/-- Cuts a raw tag at a character within the first 128 bytes, then reduces what is left. -/
def sanitize (raw : String) : String :=
  String.ofList ((Text.fitting (cut raw) raw.toList).filterMap reduceChar)

end Quarantine.Tag
