import CosmosClient.Text.Hex

/-!
# Numbers as bytes, the highest first
-/

namespace CosmosClient.BigEndian

/-- The number that bytes stand for. -/
def read (b : Bytes) : Nat :=
  b.foldl (fun n byte => 256 * n + byte.toNat) 0

/-- The lowest bytes of a number, as many as are wanted. -/
def write : Nat → Nat → Bytes
  | 0, _ => []
  | count + 1, n => write count (n / 256) ++ [UInt8.ofNat (n % 256)]

end CosmosClient.BigEndian
