import CosmosClient.Text.Utf8

/-!
# Base64

The standard alphabet. `write` always pads. `readCanonical` accepts exactly what `write` produces;
`readUnpadded?` also accepts a text without its padding, or with a part of it. Non-zero bits behind
the last byte are refused by both.
-/

namespace CosmosClient

/-- Why a text is not Base64. -/
inductive Base64Fault where
  /-- A character outside the alphabet, or a padding character before the end. -/
  | invalidByte (offset : Nat) (byte : UInt8)
  /-- One character too many for whole bytes. -/
  | invalidLength
  /-- The last character carries bits that belong to no byte. -/
  | invalidLast (offset : Nat) (byte : UInt8)
  | invalidPadding
  deriving DecidableEq, Repr

def Base64Fault.message : Base64Fault → String
  | .invalidByte offset byte => s!"Invalid byte {byte.toNat}, offset {offset}."
  | .invalidLength => "Encoded text cannot have a 6-bit remainder."
  | .invalidLast offset byte => s!"Invalid last symbol {byte.toNat}, offset {offset}."
  | .invalidPadding => "Invalid padding"

namespace Base64

/-- The character of a number below 64. -/
def symbol (n : Nat) : Char :=
  if n < 26 then Char.ofNat (65 + n)
  else if n < 52 then Char.ofNat (71 + n)
  else if n < 62 then Char.ofNat (n - 4)
  else if n = 62 then '+' else '/'

/-- The number of a character of the alphabet. -/
def value? (c : Char) : Option Nat :=
  let n := c.toNat
  if 65 ≤ n ∧ n ≤ 90 then some (n - 65)
  else if 97 ≤ n ∧ n ≤ 122 then some (n - 71)
  else if 48 ≤ n ∧ n ≤ 57 then some (n + 4)
  else if c = '+' then some 62
  else if c = '/' then some 63
  else none

/-- Three bytes to four characters, and padding at the end. -/
def chars : Bytes → List Char
  | [] => []
  | [a] =>
    [symbol (a.toNat / 4), symbol (a.toNat % 4 * 16), '=', '=']
  | [a, b] =>
    [symbol (a.toNat / 4), symbol (a.toNat % 4 * 16 + b.toNat / 16), symbol (b.toNat % 16 * 4), '=']
  | a :: b :: c :: rest =>
    symbol (a.toNat / 4) :: symbol (a.toNat % 4 * 16 + b.toNat / 16) ::
      symbol (b.toNat % 16 * 4 + c.toNat / 64) :: symbol (c.toNat % 64) :: chars rest

def write (bytes : Bytes) : String :=
  String.ofList (chars bytes)

/-- The bytes of whole groups of four numbers, and of a last group of two or three whose spare bits
are zero. -/
def bytes? : List Nat → Option Bytes
  | [] => some []
  | [_] => none
  | [a, b] => if b % 16 = 0 then some [UInt8.ofNat (a * 4 + b / 16)] else none
  | [a, b, c] =>
    if c % 4 = 0 then some [UInt8.ofNat (a * 4 + b / 16), UInt8.ofNat (b % 16 * 16 + c / 4)] else none
  | a :: b :: c :: d :: rest => do
    let more ← bytes? rest
    return UInt8.ofNat (a * 4 + b / 16) :: UInt8.ofNat (b % 16 * 16 + c / 4) ::
      UInt8.ofNat (c % 4 * 64 + d) :: more

/-- The bytes of a text without padding. -/
def unpadded? (cs : List Char) : Option Bytes := do
  bytes? (← cs.mapM value?)

/-- A text without the padding that fills its last group, or a part of it. -/
def dropPadding (cs : List Char) : List Char :=
  match cs.reverse with
  | '=' :: '=' :: back => if back.length % 4 = 2 then back.reverse else cs
  | '=' :: back => if 2 ≤ back.length % 4 then back.reverse else cs
  | _ => cs

/-- Reads a text whose padding may be left out, in whole or in part. -/
def readUnpadded? (cs : List Char) : Option Bytes :=
  unpadded? (dropPadding cs)

/-- Reads a text with its padding. -/
def readCanonical? (cs : List Char) : Option Bytes :=
  if cs.length % 4 = 0 then readUnpadded? cs else none

/-- What is wrong with a text, given as its bytes, that `readCanonical?` refuses. -/
def fault (text : Bytes) : Base64Fault :=
  let known (b : UInt8) : Bool := (value? (Char.ofNat b.toNat)).isSome
  let body := text.takeWhile known
  let rest := text.drop body.length
  let place := body.length
  if text.length % 4 = 1 then
    match text.getLast? with
    | some b => if b ≠ 61 ∧ ¬known b then .invalidByte (text.length - 1) b else .invalidLength
    | none => .invalidLength
  else
    match rest with
    | [] => .invalidPadding
    | b :: _ =>
      if rest.any (· ≠ 61) ∨ place % 4 < 2 ∨ place % 4 + rest.length > 4 then .invalidByte place b
      else if place % 4 + rest.length < 4 then .invalidPadding
      else .invalidLast (place - 1) (body.getLast?.getD 0)

/-- Reads a text with its padding, or reports what is wrong with it. -/
def readCanonical (s : String) : Except Base64Fault Bytes :=
  match readCanonical? s.toList with
  | some bytes => .ok bytes
  | none => .error (fault (Utf8.encode s))

end Base64
end CosmosClient
