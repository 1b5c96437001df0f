import CosmosClient.Text.Hex

/-!
# Text as UTF-8 bytes
-/

namespace CosmosClient.Utf8

def encode (s : String) : Bytes :=
  s.toByteArray.data.toList

/-- The text whose bytes these are. -/
def decode? (bytes : Bytes) : Option String :=
  String.fromUTF8? ⟨bytes.toArray⟩

theorem decode_encode (s : String) : decode? (encode s) = some s := by
  have h := s.isValidUTF8
  simp [decode?, encode, String.fromUTF8?, h, String.fromUTF8]

/-- Whether a byte continues a character. -/
def isTail (b : UInt8) : Bool := 0x80 ≤ b && b ≤ 0xBF

/-- For the first byte of a character, the range of its second byte and the number of further
bytes. -/
def leader (b : UInt8) : Option (UInt8 × UInt8 × Nat) :=
  if 0xC2 ≤ b && b ≤ 0xDF then some (0x80, 0xBF, 0)
  else if b == 0xE0 then some (0xA0, 0xBF, 1)
  else if b == 0xED then some (0x80, 0x9F, 1)
  else if 0xE1 ≤ b && b ≤ 0xEF then some (0x80, 0xBF, 1)
  else if b == 0xF0 then some (0x90, 0xBF, 2)
  else if 0xF1 ≤ b && b ≤ 0xF3 then some (0x80, 0xBF, 2)
  else if b == 0xF4 then some (0x80, 0x8F, 2)
  else none

/-- The length of the longest beginning of a character at the start of the bytes, and whether the
character is whole. -/
def span : Bytes → Nat × Bool
  | [] => (0, false)
  | b :: bs =>
    if b < 0x80 then (1, true)
    else
      match leader b with
      | none => (1, false)
      | some (low, high, more) =>
        match bs with
        | [] => (1, false)
        | c :: cs =>
          if low ≤ c && c ≤ high then
            let tails := (cs.take more).takeWhile isTail
            (2 + tails.length, tails.length == more)
          else (1, false)

/-- The text of the bytes, with the replacement character for each longest beginning of a character
that does not go on as one. -/
def decodeLossy (bytes : Bytes) : String :=
  String.join (pieces bytes.length bytes)
where
  pieces : Nat → Bytes → List String
    | 0, _ => []
    | _, [] => []
    | n + 1, bs =>
      let (count, whole) := span bs
      let piece := if whole then (decode? (bs.take count)).getD "\uFFFD" else "\uFFFD"
      piece :: pieces n (bs.drop (max count 1))

end CosmosClient.Utf8
