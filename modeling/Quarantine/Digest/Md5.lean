import Quarantine.Digest.Iterated

/-!
MD5.
-/

namespace Quarantine.Digest.Md5

structure State where
  a : UInt32
  b : UInt32
  c : UInt32
  d : UInt32
  deriving DecidableEq, Repr

def start : State :=
  ⟨0x67452301, 0xEFCDAB89, 0x98BADCFE, 0x10325476⟩

/-- The first 32 bits of the fractional parts of the sines of 1 to 64, without their signs. -/
def roundConstants : List UInt32 :=
  [0xD76AA478, 0xE8C7B756, 0x242070DB, 0xC1BDCEEE, 0xF57C0FAF, 0x4787C62A, 0xA8304613, 0xFD469501,
   0x698098D8, 0x8B44F7AF, 0xFFFF5BB1, 0x895CD7BE, 0x6B901122, 0xFD987193, 0xA679438E, 0x49B40821,
   0xF61E2562, 0xC040B340, 0x265E5A51, 0xE9B6C7AA, 0xD62F105D, 0x02441453, 0xD8A1E681, 0xE7D3FBC8,
   0x21E1CDE6, 0xC33707D6, 0xF4D50D87, 0x455A14ED, 0xA9E3E905, 0xFCEFA3F8, 0x676F02D9, 0x8D2A4C8A,
   0xFFFA3942, 0x8771F681, 0x6D9D6122, 0xFDE5380C, 0xA4BEEA44, 0x4BDECFA9, 0xF6BB4B60, 0xBEBFBC70,
   0x289B7EC6, 0xEAA127FA, 0xD4EF3085, 0x04881D05, 0xD9D4D039, 0xE6DB99E5, 0x1FA27CF8, 0xC4AC5665,
   0xF4292244, 0x432AFF97, 0xAB9423A7, 0xFC93A039, 0x655B59C3, 0x8F0CCC92, 0xFFEFF47D, 0x85845DD1,
   0x6FA87E4F, 0xFE2CE6E0, 0xA3014314, 0x4E0811A1, 0xF7537E82, 0xBD3AF235, 0x2AD7D2BB, 0xEB86D391]

/-- How far each round turns, four amounts repeated in each of the four passes. -/
def turns : List UInt32 :=
  [[7, 12, 17, 22], [5, 9, 14, 20], [4, 11, 16, 23], [6, 10, 15, 21]].flatMap fun pass =>
    pass ++ pass ++ pass ++ pass

def rotateLeft (x n : UInt32) : UInt32 :=
  (x <<< n) ||| (x >>> (32 - n))

/-- Bytes as words, the lowest byte first. -/
def words : Bytes → List UInt32
  | p :: q :: r :: s :: rest =>
    (p.toUInt32 ||| (q.toUInt32 <<< 8) ||| (r.toUInt32 <<< 16) ||| (s.toUInt32 <<< 24)) ::
      words rest
  | _ => []

def wordBytes (w : UInt32) : Bytes :=
  [w.toUInt8, (w >>> 8).toUInt8, (w >>> 16).toUInt8, (w >>> 24).toUInt8]

/-- The mixing function of round `i`, and the word of the block that it takes. -/
def mix (i : Nat) (b c d : UInt32) : UInt32 × Nat :=
  if i < 16 then ((b &&& c) ||| (~~~b &&& d), i)
  else if i < 32 then ((d &&& b) ||| (~~~d &&& c), (5 * i + 1) % 16)
  else if i < 48 then (b ^^^ c ^^^ d, (3 * i + 5) % 16)
  else (c ^^^ (b ||| ~~~d), 7 * i % 16)

def round (block : List UInt32) (s : State) (i : Nat) (k turn : UInt32) : State :=
  let (mixed, index) := mix i s.b s.c s.d
  ⟨s.d, s.b + rotateLeft (s.a + mixed + k + block.getD index 0) turn, s.b, s.c⟩

def compress (s : State) (block : Bytes) : State :=
  let message := words block
  let t := ((List.range 64).zip (roundConstants.zip turns)).foldl
    (fun t r => round message t r.1 r.2.1 r.2.2) s
  ⟨s.a + t.a, s.b + t.b, s.c + t.c, s.d + t.d⟩

def lengthField (n : Nat) : Bytes :=
  [UInt8.ofNat n, UInt8.ofNat (n >>> 8), UInt8.ofNat (n >>> 16), UInt8.ofNat (n >>> 24),
    UInt8.ofNat (n >>> 32), UInt8.ofNat (n >>> 40), UInt8.ofNat (n >>> 48), UInt8.ofNat (n >>> 56)]

def output (s : State) : Bytes :=
  [s.a, s.b, s.c, s.d].flatMap wordBytes

end Md5

/-- MD5, with digests of 16 bytes. -/
def md5 : Iterated Md5.State :=
  ⟨Md5.start, Md5.compress, Md5.lengthField, Md5.output⟩

end Quarantine.Digest
