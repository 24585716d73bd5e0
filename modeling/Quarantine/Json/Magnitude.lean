/-!
How large the numbers in a JSON text are. Of the digits of a number those count that fit into 64
bits one after another; of the others it only counts how many there are. Whether a floating point
number of 64 bits can hold the number is decided by rounding, first its digits and its power of ten,
and then their product.
-/

namespace Quarantine.Json

/-- A number without its sign: the value of some digits times a power of ten. -/
structure Magnitude where
  digits : Nat
  power : Int
  deriving DecidableEq, Repr

namespace Magnitude

/-- Appends digits to a number as long as it stays below 2^64, and tells how many are left over. -/
def append : Nat → List Char → Nat × Nat
  | n, [] => (n, 0)
  | n, c :: cs =>
    let longer := 10 * n + (c.toNat - 48)
    if longer < 18446744073709551616 then append longer cs else (n, cs.length + 1)

def ofDigits (whole places : List Char) (exponent : Int) : Magnitude :=
  let (n, left) := append 0 whole
  let (m, unread) := append n places
  ⟨m, left + unread - places.length + exponent⟩

/-- A number rounded to 53 binary digits; of two that are as near, the one that ends in zero. -/
def rounded (n : Nat) : Nat :=
  let unit := Nat.pow 2 (Nat.log2 n - 52)
  let rest := n % unit
  let below := n - rest
  if 2 * rest < unit || (2 * rest = unit && below / unit % 2 = 0) then below else below + unit

/-- The least power of two that is too large for a floating point number of 64 bits. -/
def tooLarge : Nat :=
  Nat.pow 2 1024

def isFinite (m : Magnitude) : Bool :=
  if m.digits = 0 || m.power ≤ 0 then true
  else if 308 < m.power then false
  else rounded (rounded m.digits * rounded (Nat.pow 10 m.power.toNat)) < tooLarge

end Magnitude

end Quarantine.Json
