import CosmosClient.Text.Utf8

/-!
# Percent signs

A character that may not stand in its place is written by the numbers of its bytes, each behind a
percent sign. Characters beyond ASCII are always written so.
-/

namespace CosmosClient.Percent

/-- A byte by its number. -/
def code (b : UInt8) : List Char :=
  '%' :: (Hex.pair b).map Char.toUpper

/-- A character, as it is if it may be kept. -/
def escape (keeps : Char → Bool) (c : Char) : List Char :=
  if c.toNat < 0x80 ∧ keeps c then [c] else (Utf8.encode (String.singleton c)).flatMap code

/-- A text with the characters that may be kept. -/
def write (keeps : Char → Bool) (cs : List Char) : List Char :=
  cs.flatMap (escape keeps)

/-- The byte that two digits stand for. -/
def byte? (high low : UInt8) : Option UInt8 := do
  let high ← Hex.digit? (Char.ofNat high.toNat)
  let low ← Hex.digit? (Char.ofNat low.toNat)
  return UInt8.ofNat (16 * high + low)

/-- The bytes of a text; a percent sign without two digits behind it stands for itself. -/
def read : Bytes → Bytes
  | b :: high :: low :: rest =>
    match if b = 0x25 then byte? high low else none with
    | some x => x :: read rest
    | none => b :: read (high :: low :: rest)
  | bs => bs

end CosmosClient.Percent
