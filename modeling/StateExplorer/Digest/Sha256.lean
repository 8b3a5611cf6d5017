/-!
# SHA-256

The digest of a byte list as FIPS 180-4 defines it. The message is padded to whole blocks of
sixteen words; each block is mixed into eight chaining words by sixty-four rounds, and a round
takes the first word of a window of sixteen that slides over the message schedule.
-/

namespace StateExplorer.Sha256

/-- The eight words that a block is mixed into. -/
structure Chain where
  a : UInt32
  b : UInt32
  c : UInt32
  d : UInt32
  e : UInt32
  f : UInt32
  g : UInt32
  h : UInt32
deriving DecidableEq

/-- The chaining words before the first block. -/
def Chain.first : Chain :=
  ⟨0x6a09e667, 0xbb67ae85, 0x3c6ef372, 0xa54ff53a, 0x510e527f, 0x9b05688c, 0x1f83d9ab, 0x5be0cd19⟩

/-- One constant for each round. -/
def roundConstants : List UInt32 := [
  0x428a2f98, 0x71374491, 0xb5c0fbcf, 0xe9b5dba5, 0x3956c25b, 0x59f111f1, 0x923f82a4, 0xab1c5ed5,
  0xd807aa98, 0x12835b01, 0x243185be, 0x550c7dc3, 0x72be5d74, 0x80deb1fe, 0x9bdc06a7, 0xc19bf174,
  0xe49b69c1, 0xefbe4786, 0x0fc19dc6, 0x240ca1cc, 0x2de92c6f, 0x4a7484aa, 0x5cb0a9dc, 0x76f988da,
  0x983e5152, 0xa831c66d, 0xb00327c8, 0xbf597fc7, 0xc6e00bf3, 0xd5a79147, 0x06ca6351, 0x14292967,
  0x27b70a85, 0x2e1b2138, 0x4d2c6dfc, 0x53380d13, 0x650a7354, 0x766a0abb, 0x81c2c92e, 0x92722c85,
  0xa2bfe8a1, 0xa81a664b, 0xc24b8b70, 0xc76c51a3, 0xd192e819, 0xd6990624, 0xf40e3585, 0x106aa070,
  0x19a4c116, 0x1e376c08, 0x2748774c, 0x34b0bcb5, 0x391c0cb3, 0x4ed8aa4a, 0x5b9cca4f, 0x682e6ff3,
  0x748f82ee, 0x78a5636f, 0x84c87814, 0x8cc70208, 0x90befffa, 0xa4506ceb, 0xbef9a3f7, 0xc67178f2]

/-- A word rotated to the right. -/
def rotate (x n : UInt32) : UInt32 :=
  (x >>> n) ||| (x <<< (32 - n))

/-- The eight bytes of a number, most significant first. -/
def bigEndian64 (n : Nat) : List UInt8 :=
  [56, 48, 40, 32, 24, 16, 8, 0].map fun shift => UInt8.ofNat (n >>> shift)

/-- The message with a one bit, zeros to a whole number of blocks, and its length in bits. -/
def pad (message : List UInt8) : List UInt8 :=
  let zeros := (119 - message.length % 64) % 64
  message ++ 0x80 :: List.replicate zeros 0 ++ bigEndian64 (8 * message.length)

/-- The bytes four by four as words. -/
def words : List UInt8 → List UInt32
  | w :: x :: y :: z :: rest =>
    (w.toUInt32 <<< 24 ||| x.toUInt32 <<< 16 ||| y.toUInt32 <<< 8 ||| z.toUInt32) :: words rest
  | _ => []

/-- The window one word further: its first word goes and the next word of the schedule comes. -/
def slide (window : List UInt32) : List UInt32 :=
  let word (i : Nat) : UInt32 := window.getD i 0
  let s0 := rotate (word 1) 7 ^^^ rotate (word 1) 18 ^^^ (word 1 >>> 3)
  let s1 := rotate (word 14) 17 ^^^ rotate (word 14) 19 ^^^ (word 14 >>> 10)
  window.tail ++ [word 0 + s0 + word 9 + s1]

/-- One round with a constant and a word of the schedule. -/
def Chain.round (x : Chain) (constant word : UInt32) : Chain :=
  let s1 := rotate x.e 6 ^^^ rotate x.e 11 ^^^ rotate x.e 25
  let choice := (x.e &&& x.f) ^^^ (~~~x.e &&& x.g)
  let t1 := x.h + s1 + choice + constant + word
  let s0 := rotate x.a 2 ^^^ rotate x.a 13 ^^^ rotate x.a 22
  let majority := (x.a &&& x.b) ^^^ (x.a &&& x.c) ^^^ (x.b &&& x.c)
  ⟨t1 + (s0 + majority), x.a, x.b, x.c, x.d + t1, x.e, x.f, x.g⟩

/-- The rounds with the given constants over a window. -/
def Chain.rounds (x : Chain) : List UInt32 → List UInt32 → Chain
  | [], _ => x
  | constant :: rest, window =>
    (x.round constant (window.headD 0)).rounds rest (slide window)

/-- A block mixed into the chaining words. -/
def Chain.mix (x : Chain) (block : List UInt32) : Chain :=
  let y := x.rounds roundConstants block
  ⟨x.a + y.a, x.b + y.b, x.c + y.c, x.d + y.d, x.e + y.e, x.f + y.f, x.g + y.g, x.h + y.h⟩

/-- The blocks of sixteen words, `count` of them. -/
def blocks : Nat → List UInt32 → List (List UInt32)
  | 0, _ => []
  | count + 1, ws => ws.take 16 :: blocks count (ws.drop 16)

/-- The four bytes of a word, most significant first. -/
def bytesOf (w : UInt32) : List UInt8 :=
  [(w >>> 24).toUInt8, (w >>> 16).toUInt8, (w >>> 8).toUInt8, w.toUInt8]

/-- The thirty-two bytes of the chaining words. -/
def Chain.bytes (x : Chain) : List UInt8 :=
  [x.a, x.b, x.c, x.d, x.e, x.f, x.g, x.h].flatMap bytesOf

/-- The chaining words after every block of the padded message. -/
def digest (message : List UInt8) : Chain :=
  let ws := words (pad message)
  (blocks (ws.length / 16) ws).foldl Chain.mix .first

end StateExplorer.Sha256
