import CosmosClient.Text.Basic
import CosmosClient.Text.Utf8

/-!
# Bech32

A text in Bech32 is a prefix, the separator `1`, five-bit groups in an alphabet of thirty-two
characters and six groups of checksum. Two checksums exist; a text tells which one it carries.
-/

namespace CosmosClient

/-- Why a text is not in Bech32. -/
inductive Bech32Fault where
  | missingSeparator
  | invalidChecksum
  | invalidLength
  | invalidChar (c : Char)
  | mixedCase
  | invalidPadding
  deriving DecidableEq, Repr

def Bech32Fault.message : Bech32Fault → String
  | .missingSeparator => "missing human-readable separator, \"1\""
  | .invalidChecksum => "invalid checksum"
  | .invalidLength => "invalid length"
  | .invalidChar c => s!"invalid character (code={c})"
  | .mixedCase => "mixed-case strings not allowed"
  | .invalidPadding => "invalid padding"

namespace Bech32

/-- The two checksums. -/
inductive Variant where
  | bech32
  | bech32m
  deriving DecidableEq, Repr

/-- The constant that the checksum of a variant comes to. -/
def Variant.constant : Variant → Nat
  | .bech32 => 1
  | .bech32m => 0x2bc830a3

/-- Which cases the letters of a text have. -/
inductive Case where
  | lower
  | upper
  | none
  deriving DecidableEq, Repr

/-- The characters of the groups, in the order of their values. -/
def alphabet : List Char := "qpzry9x8gf2tvdw0s3jn54khce6mua7l".toList

def symbol (n : Nat) : Char := alphabet.getD n 'q'

/-- The group of a lower case character. -/
def value? (c : Char) : Option Nat := alphabet.idxOf? c

/-- The terms that the five high bits of a checksum contribute. -/
def generators : List Nat := [0x3b6a57b2, 0x26508e6d, 0x1ea119fa, 0x3d4233dd, 0x2a1462b3]

/-- Takes a group into a checksum. -/
def step (c v : Nat) : Nat :=
  let shifted := ((c % 0x2000000) <<< 5) ^^^ v
  (generators.zipIdx).foldl (fun acc (g, i) => if (c >>> (25 + i)) % 2 = 1 then acc ^^^ g else acc)
    shifted

def checksum (groups : List Nat) : Nat :=
  groups.foldl step 1

/-- The groups that a prefix contributes to the checksum. -/
def expand (hrp : List Char) : List Nat :=
  hrp.map (fun c => c.toNat / 32) ++ 0 :: hrp.map (fun c => c.toNat % 32)

/-- The six groups of checksum behind a prefix and groups. -/
def checksumGroups (variant : Variant) (hrp : List Char) (groups : List Nat) : List Nat :=
  let residue := checksum (expand hrp ++ groups ++ [0, 0, 0, 0, 0, 0]) ^^^ variant.constant
  (List.range 6).map fun i => (residue >>> (5 * (5 - i))) % 32

/-- The case of the letters after one more character. -/
def Case.next (case : Case) (c : Char) : Except Bech32Fault Case :=
  if c.isLower then
    if case = .upper then .error .mixedCase else .ok .lower
  else if c.isUpper then
    if case = .lower then .error .mixedCase else .ok .upper
  else .ok case

/-- Checks a prefix byte by byte, after letters of a case. -/
def checkBytes : Case → Bytes → Except Bech32Fault Case
  | case, [] => .ok case
  | case, b :: bs =>
    let c := Char.ofNat b.toNat
    if b.toNat < 33 ∨ 126 < b.toNat then .error (.invalidChar c)
    else
      match case.next c with
      | .ok case => checkBytes case bs
      | .error e => .error e

/-- Checks a prefix: 1 to 83 visible ASCII characters in one case. -/
def checkPrefix (hrp : List Char) : Except Bech32Fault Case :=
  let bs := Utf8.encode (String.ofList hrp)
  if bs.length = 0 ∨ 83 < bs.length then .error .invalidLength else checkBytes .none bs

/-- The groups of characters, after letters of a case. -/
def readGroups : Case → List Char → Except Bech32Fault (List Nat)
  | _, [] => .ok []
  | case, c :: cs =>
    if 128 ≤ c.toNat then .error (.invalidChar c)
    else
      match case.next c with
      | .error e => .error e
      | .ok case =>
        match value? c.toLower with
        | none => .error (.invalidChar c)
        | some v => (readGroups case cs).map (v :: ·)

/-- A text taken apart: the prefix in lower case, the groups and the variant of its checksum. -/
def read (cs : List Char) : Except Bech32Fault (List Char × List Nat × Variant) :=
  match Text.splitLast? '1' cs with
  | none => .error .missingSeparator
  | some (hrp, body) => do
    let case ← checkPrefix hrp
    let hrp := Text.lower hrp
    let groups ← readGroups case body
    if groups.length < 6 then .error .invalidLength
    else
      let sum := checksum (expand hrp ++ groups)
      let payload := groups.take (groups.length - 6)
      if sum = Variant.bech32.constant then .ok (hrp, payload, .bech32)
      else if sum = Variant.bech32m.constant then .ok (hrp, payload, .bech32m)
      else .error .invalidChecksum

/-- The text of groups behind a prefix. -/
def write (variant : Variant) (hrp : List Char) (groups : List Nat) :
    Except Bech32Fault (List Char) :=
  (checkPrefix hrp).map fun _ =>
    let hrp := Text.lower hrp
    hrp ++ '1' :: (groups ++ checksumGroups variant hrp groups).map symbol

/-- The bits of a number, the highest first. -/
def bits (width n : Nat) : List Bool :=
  (List.range width).map fun i => n.testBit (width - 1 - i)

/-- The number that bits stand for. -/
def ofBits (bs : List Bool) : Nat :=
  bs.foldl (fun n b => 2 * n + b.toNat) 0

/-- Cuts a list into pieces of a length; the last may be shorter. -/
def chunks {α : Type} (size : Nat) : Nat → List α → List (List α)
  | 0, _ => []
  | _, [] => []
  | fuel + 1, xs => xs.take size :: chunks size fuel (xs.drop size)

/-- Bytes as groups; the last group is filled up with zeros. -/
def groupsOfBytes (bytes : Bytes) : List Nat :=
  let all := bytes.flatMap fun b => bits 8 b.toNat
  (chunks 5 all.length all).map fun g => ofBits (g ++ List.replicate (5 - g.length) false)

/-- The bytes of groups; what is left over must be fewer than five zeros. -/
def bytesOfGroups (groups : List Nat) : Except Bech32Fault Bytes :=
  let all := groups.flatMap (bits 5)
  let whole := all.take (all.length / 8 * 8)
  let rest := all.drop (all.length / 8 * 8)
  if rest.length < 5 ∧ rest.all (! ·) then
    .ok ((chunks 8 whole.length whole).map fun b => UInt8.ofNat (ofBits b))
  else .error .invalidPadding

end Bech32
end CosmosClient
