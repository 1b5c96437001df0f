import CosmosClient.Text.Hex

/-!
# SHA-256
-/

namespace CosmosClient.Sha256

/-- The eight words of a hash in progress. -/
structure State where
  a : UInt32
  b : UInt32
  c : UInt32
  d : UInt32
  e : UInt32
  f : UInt32
  g : UInt32
  h : UInt32
  deriving DecidableEq, Repr

/-- The round constants: the first 32 bits of the fractions of the cube roots of the first
64 primes. -/
def constants : Array UInt32 := #[
  0x428a2f98, 0x71374491, 0xb5c0fbcf, 0xe9b5dba5, 0x3956c25b, 0x59f111f1, 0x923f82a4, 0xab1c5ed5,
  0xd807aa98, 0x12835b01, 0x243185be, 0x550c7dc3, 0x72be5d74, 0x80deb1fe, 0x9bdc06a7, 0xc19bf174,
  0xe49b69c1, 0xefbe4786, 0x0fc19dc6, 0x240ca1cc, 0x2de92c6f, 0x4a7484aa, 0x5cb0a9dc, 0x76f988da,
  0x983e5152, 0xa831c66d, 0xb00327c8, 0xbf597fc7, 0xc6e00bf3, 0xd5a79147, 0x06ca6351, 0x14292967,
  0x27b70a85, 0x2e1b2138, 0x4d2c6dfc, 0x53380d13, 0x650a7354, 0x766a0abb, 0x81c2c92e, 0x92722c85,
  0xa2bfe8a1, 0xa81a664b, 0xc24b8b70, 0xc76c51a3, 0xd192e819, 0xd6990624, 0xf40e3585, 0x106aa070,
  0x19a4c116, 0x1e376c08, 0x2748774c, 0x34b0bcb5, 0x391c0cb3, 0x4ed8aa4a, 0x5b9cca4f, 0x682e6ff3,
  0x748f82ee, 0x78a5636f, 0x84c87814, 0x8cc70208, 0x90befffa, 0xa4506ceb, 0xbef9a3f7, 0xc67178f2]

def start : State :=
  ⟨0x6a09e667, 0xbb67ae85, 0x3c6ef372, 0xa54ff53a, 0x510e527f, 0x9b05688c, 0x1f83d9ab, 0x5be0cd19⟩

/-- The bits of a word moved to the right and around. -/
def rotate (x n : UInt32) : UInt32 := (x >>> n) ||| (x <<< (32 - n))

/-- The message words of a block, continued from its sixteen. -/
def extend : Nat → Nat → Array UInt32 → Array UInt32
  | 0, _, w => w
  | n + 1, i, w =>
    let x := w.getD (i - 15) 0
    let y := w.getD (i - 2) 0
    let s0 := rotate x 7 ^^^ rotate x 18 ^^^ (x >>> 3)
    let s1 := rotate y 17 ^^^ rotate y 19 ^^^ (y >>> 10)
    extend n (i + 1) (w.push (w.getD (i - 16) 0 + s0 + w.getD (i - 7) 0 + s1))

/-- The rounds of a block. -/
def rounds (w : Array UInt32) : Nat → Nat → State → State
  | 0, _, s => s
  | n + 1, i, ⟨a, b, c, d, e, f, g, h⟩ =>
    let s1 := rotate e 6 ^^^ rotate e 11 ^^^ rotate e 25
    let choice := (e &&& f) ^^^ (~~~e &&& g)
    let t1 := h + s1 + choice + constants.getD i 0 + w.getD i 0
    let s0 := rotate a 2 ^^^ rotate a 13 ^^^ rotate a 22
    let majority := (a &&& b) ^^^ (a &&& c) ^^^ (b &&& c)
    rounds w n (i + 1) ⟨t1 + s0 + majority, a, b, c, d + t1, e, f, g⟩

/-- Takes a block of sixteen words into the state. -/
def compress (s : State) (block : Array UInt32) : State :=
  let r := rounds (extend 48 16 block) 64 0 s
  ⟨s.a + r.a, s.b + r.b, s.c + r.c, s.d + r.d, s.e + r.e, s.f + r.f, s.g + r.g, s.h + r.h⟩

/-- The word of some bytes, the highest first. -/
def wordOf (bs : Bytes) : UInt32 :=
  bs.foldl (fun w b => (w <<< 8) ||| b.toUInt32) 0

/-- The bytes of a word, the highest first. -/
def wordBytes (w : UInt32) : Bytes :=
  (List.range 4).map fun i => (w >>> (8 * (3 - UInt32.ofNat i))).toUInt8

def words : Nat → Bytes → List UInt32
  | 0, _ => []
  | _, [] => []
  | n + 1, bs => wordOf (bs.take 4) :: words n (bs.drop 4)

/-- Takes whole blocks into the state. -/
def absorb : Nat → State → List UInt32 → State
  | 0, s, _ => s
  | _, s, [] => s
  | n + 1, s, ws => absorb n (compress s (ws.take 16).toArray) (ws.drop 16)

/-- The end of a message of a number of bytes: a bit, zeros and the number of bits. -/
def padding (size : Nat) : Bytes :=
  let zeros := (128 - 9 - size % 64) % 64
  let length := 8 * size
  (0x80 : UInt8) :: List.replicate zeros 0 ++
    (List.range 8).map fun i => UInt8.ofNat (length >>> (8 * (7 - i)))

def State.bytes (s : State) : Bytes :=
  [s.a, s.b, s.c, s.d, s.e, s.f, s.g, s.h].flatMap wordBytes

/-- Ends a hash in whose state some bytes are already, with the last bytes of the message. -/
def finish (s : State) (before : Nat) (last : Bytes) : State :=
  let all := last ++ padding (before + last.length)
  absorb all.length s (words all.length all)

def hash (message : Bytes) : Bytes :=
  (finish start 0 message).bytes

end CosmosClient.Sha256
