import CosmosClient.Error
import CosmosClient.Hash.Hmac
import CosmosClient.Text.BigEndian

/-!
# The curve secp256k1

Points of `y² = x³ + 7` over a prime field, and signatures with them: nonces are drawn from the key
and the message, and of the two values `s` and `-s` the smaller one is used.
-/

namespace CosmosClient.Secp256k1

/-- The size of the field. -/
def prime : Nat := 0xFFFFFFFFFFFFFFFFFFFFFFFFFFFFFFFFFFFFFFFFFFFFFFFFFFFFFFFEFFFFFC2F

/-- The number of points. -/
def order : Nat := 0xFFFFFFFFFFFFFFFFFFFFFFFFFFFFFFFEBAAEDCE6AF48A03BBFD25E8CD0364141

/-- A power modulo `m`; as many bits of the exponent count as the first argument says. -/
def power (m : Nat) : Nat → Nat → Nat → Nat
  | 0, _, _ => 1
  | bits + 1, base, exponent =>
    let rest := power m bits (base * base % m) (exponent / 2)
    if exponent % 2 = 1 then rest * base % m else rest

/-- The inverse modulo a prime. -/
def inverse (m a : Nat) : Nat :=
  power m 256 a (m - 2)

/-- The difference in the field. -/
def sub (a b : Nat) : Nat :=
  (a + prime - b) % prime

/-- A point as `x / z²` and `y / z³`; where `z` is 0 it is the point at infinity. -/
structure Point where
  x : Nat
  y : Nat
  z : Nat
  deriving Repr

def infinity : Point := ⟨1, 1, 0⟩

/-- The point of which every other is a multiple. -/
def generator : Point :=
  ⟨0x79BE667EF9DCBBAC55A06295CE870B07029BFCDB2DCE28D959F2815B16F81798,
    0x483ADA7726A3C4655DA4FBFC0E1108A8FD17B448A68554199C47D08FFB10D4B8, 1⟩

def double (p : Point) : Point :=
  if p.z = 0 then infinity
  else
    let yy := p.y * p.y % prime
    let s := 4 * p.x * yy % prime
    let m := 3 * p.x * p.x % prime
    let x := sub (m * m % prime) (2 * s % prime)
    let y := sub (m * sub s x % prime) (8 * yy * yy % prime)
    ⟨x, y, 2 * p.y * p.z % prime⟩

def add (p q : Point) : Point :=
  if p.z = 0 then q
  else if q.z = 0 then p
  else
    let pzz := p.z * p.z % prime
    let qzz := q.z * q.z % prime
    let u := p.x * qzz % prime
    let s := p.y * (q.z * qzz % prime) % prime
    let h := sub (q.x * pzz % prime) u
    let r := sub (q.y * (p.z * pzz % prime) % prime) s
    if h = 0 then (if r = 0 then double p else infinity)
    else
      let hh := h * h % prime
      let hhh := h * hh % prime
      let v := u * hh % prime
      let x := sub (r * r % prime) ((hhh + 2 * v) % prime)
      let y := sub (r * sub v x % prime) (s * hhh % prime)
      ⟨x, y, h * (p.z * q.z % prime) % prime⟩

/-- A multiple of a point; as many bits of the factor count as the first argument says. -/
def multiply : Nat → Nat → Point → Point
  | 0, _, _ => infinity
  | bits + 1, factor, p =>
    let rest := multiply bits (factor / 2) (double p)
    if factor % 2 = 1 then add p rest else rest

/-- The coordinates of a point that is not at infinity. -/
def coordinates? (p : Point) : Option (Nat × Nat) :=
  if p.z = 0 then none
  else
    let i := inverse prime p.z
    let ii := i * i % prime
    some (p.x * ii % prime, p.y * (i * ii % prime) % prime)

/-- Whether coordinates in the field lie on the curve. -/
def isOnCurve (x y : Nat) : Bool :=
  y * y % prime == (x * x % prime * x + 7) % prime

/-- The point at a coordinate whose other coordinate is odd or even as wanted. -/
def lift? (x : Nat) (odd : Bool) : Option Point :=
  let y := power prime 256 ((x * x % prime * x + 7) % prime) ((prime + 1) / 4)
  if x < prime ∧ isOnCurve x y then
    some ⟨x, if (y % 2 == 1) == odd then y else prime - y, 1⟩
  else none

/-- Reads a public key: the first coordinate behind 2 or 3, which tells whether the second is odd;
or both behind 4, or behind 6 or 7, which tell the same. -/
def readPoint? : Bytes → Option Point
  | [] => none
  | tag :: b =>
    let x := BigEndian.read (b.take 32)
    let y := BigEndian.read (b.drop 32)
    if b.length = 32 ∧ (tag = 2 ∨ tag = 3) then lift? x (tag == 3)
    else if b.length = 64 ∧ (tag = 4 ∨ tag = 6 ∨ tag = 7) ∧ x < prime ∧ y < prime ∧ isOnCurve x y
        ∧ (tag = 4 ∨ y % 2 + 6 = tag.toNat) then
      some ⟨x, y, 1⟩
    else none

/-- A private key. -/
structure SecretKey where
  scalar : Nat
  pos : 0 < scalar
  lt : scalar < order
  deriving DecidableEq

namespace SecretKey

/-- The private key of a number, if it is in range. -/
def ofNat? (n : Nat) : Option SecretKey :=
  if h : 0 < n ∧ n < order then some ⟨n, h.1, h.2⟩ else none

/-- The private key of 32 bytes, if their number is in range. -/
def ofBytes? (b : Bytes) : Option SecretKey :=
  if b.length = 32 then ofNat? (BigEndian.read b) else none

/-- The 32 bytes of a private key. -/
def bytes (k : SecretKey) : Bytes := BigEndian.write 32 k.scalar

/-- The public key: the first coordinate behind 2 or 3, which tells whether the second is odd. -/
def publicBytes (k : SecretKey) : Bytes :=
  match coordinates? (multiply 256 k.scalar generator) with
  | none => []
  | some (x, y) => (if y % 2 = 1 then 3 else 2) :: BigEndian.write 32 x

end SecretKey

/-- A signature. -/
structure Signature where
  r : Nat
  s : Nat
  deriving DecidableEq, Repr

namespace Signature

/-- The 64 bytes of a signature. -/
def bytes (sig : Signature) : Bytes :=
  BigEndian.write 32 sig.r ++ BigEndian.write 32 sig.s

/-- Reads the 64 bytes of a signature. -/
def ofBytes? (b : Bytes) : Option Signature :=
  let r := BigEndian.read (b.take 32)
  let s := BigEndian.read (b.drop 32)
  if b.length = 64 ∧ r < order ∧ s < order then some ⟨r, s⟩ else none

end Signature

/-- The signature of a number with a nonce, unless one of its parts is 0. -/
def signWith? (key : SecretKey) (message nonce : Nat) : Option Signature := do
  let (x, _) ← coordinates? (multiply 256 nonce generator)
  let r := x % order
  let s := inverse order nonce * ((message + r * key.scalar) % order) % order
  if r = 0 ∨ s = 0 then none
  else some ⟨r, if order / 2 < s then order - s else s⟩

/-- Signs with the first suitable nonce of the generator in a state of key and value. -/
def search (key : SecretKey) (message : Nat) : Nat → Bytes → Bytes → Option Signature
  | 0, _, _ => none
  | fuel + 1, k, v =>
    let v := hmacSha256 k v
    let nonce := BigEndian.read v
    let found := if 0 < nonce ∧ nonce < order then signWith? key message nonce else none
    match found with
    | some sig => some sig
    | none =>
      let k := hmacSha256 k (v ++ [0])
      search key message fuel k (hmacSha256 k v)

/-- The number of nonces that are tried; that a single one does not suit is practically unheard of. -/
def searchLimit : Nat := 64

/-- The signature of a hash of 32 bytes. -/
def sign (key : SecretKey) (digest : Bytes) : Signature :=
  let seed := key.bytes ++ digest
  let v := List.replicate 32 1
  let k := hmacSha256 (List.replicate 32 0) (v ++ 0 :: seed)
  let v := hmacSha256 k v
  let k := hmacSha256 k (v ++ 1 :: seed)
  let v := hmacSha256 k v
  (search key (BigEndian.read digest % order) searchLimit k v).getD ⟨0, 0⟩

/-- Whether a signature of a hash is valid; the larger value of `s` is not. -/
def verify (publicKey : Point) (digest : Bytes) (sig : Signature) : Bool :=
  if sig.r = 0 ∨ sig.s = 0 ∨ order / 2 < sig.s then false
  else
    let w := inverse order sig.s
    let u := BigEndian.read digest % order * w % order
    let v := sig.r * w % order
    match coordinates? (add (multiply 256 u generator) (multiply 256 v publicKey)) with
    | none => false
    | some (x, _) => x % order == sig.r

end CosmosClient.Secp256k1
