import CosmosClient.Text.Hex

/-!
# RIPEMD-160
-/

namespace CosmosClient.Ripemd160

/-- The five words of a hash in progress. -/
structure State where
  a : UInt32
  b : UInt32
  c : UInt32
  d : UInt32
  e : UInt32
  deriving DecidableEq, Repr

def start : State := ⟨0x67452301, 0xefcdab89, 0x98badcfe, 0x10325476, 0xc3d2e1f0⟩

/-- One round of a line: a message word, a shift, a constant and a function of three words. -/
structure Round where
  word : Nat
  shift : UInt32
  constant : UInt32
  choice : Nat

/-- The rounds of a line from its five groups of message words, shifts, constants and functions. -/
def line (words : List (List Nat)) (shifts : List (List UInt32)) (constants : List UInt32)
    (choices : List Nat) : List Round :=
  let groups := (words.zip shifts).zip (constants.zip choices)
  groups.flatMap fun ((ws, ss), (constant, choice)) =>
    (ws.zip ss).map fun (word, shift) => ⟨word, shift, constant, choice⟩

def left : List Round :=
  line
    [[0, 1, 2, 3, 4, 5, 6, 7, 8, 9, 10, 11, 12, 13, 14, 15],
      [7, 4, 13, 1, 10, 6, 15, 3, 12, 0, 9, 5, 2, 14, 11, 8],
      [3, 10, 14, 4, 9, 15, 8, 1, 2, 7, 0, 6, 13, 11, 5, 12],
      [1, 9, 11, 10, 0, 8, 12, 4, 13, 3, 7, 15, 14, 5, 6, 2],
      [4, 0, 5, 9, 7, 12, 2, 10, 14, 1, 3, 8, 11, 6, 15, 13]]
    [[11, 14, 15, 12, 5, 8, 7, 9, 11, 13, 14, 15, 6, 7, 9, 8],
      [7, 6, 8, 13, 11, 9, 7, 15, 7, 12, 15, 9, 11, 7, 13, 12],
      [11, 13, 6, 7, 14, 9, 13, 15, 14, 8, 13, 6, 5, 12, 7, 5],
      [11, 12, 14, 15, 14, 15, 9, 8, 9, 14, 5, 6, 8, 6, 5, 12],
      [9, 15, 5, 11, 6, 8, 13, 12, 5, 12, 13, 14, 11, 8, 5, 6]]
    [0x00000000, 0x5a827999, 0x6ed9eba1, 0x8f1bbcdc, 0xa953fd4e] [0, 1, 2, 3, 4]

def right : List Round :=
  line
    [[5, 14, 7, 0, 9, 2, 11, 4, 13, 6, 15, 8, 1, 10, 3, 12],
      [6, 11, 3, 7, 0, 13, 5, 10, 14, 15, 8, 12, 4, 9, 1, 2],
      [15, 5, 1, 3, 7, 14, 6, 9, 11, 8, 12, 2, 10, 0, 4, 13],
      [8, 6, 4, 1, 3, 11, 15, 0, 5, 12, 2, 13, 9, 7, 10, 14],
      [12, 15, 10, 4, 1, 5, 8, 7, 6, 2, 13, 14, 0, 3, 9, 11]]
    [[8, 9, 9, 11, 13, 15, 15, 5, 7, 7, 8, 11, 14, 14, 12, 6],
      [9, 13, 15, 7, 12, 8, 9, 11, 7, 7, 12, 7, 6, 15, 13, 11],
      [9, 7, 15, 11, 8, 6, 6, 14, 12, 13, 5, 14, 13, 13, 7, 5],
      [15, 5, 8, 11, 14, 14, 6, 14, 6, 9, 12, 9, 12, 5, 15, 8],
      [8, 5, 12, 9, 12, 5, 14, 6, 8, 13, 6, 5, 15, 13, 11, 11]]
    [0x50a28be6, 0x5c4dd124, 0x6d703ef3, 0x7a6d76e9, 0x00000000] [4, 3, 2, 1, 0]

/-- The bits of a word moved to the left and around. -/
def rotate (x n : UInt32) : UInt32 := (x <<< n) ||| (x >>> (32 - n))

/-- The functions of three words. -/
def mix (choice : Nat) (x y z : UInt32) : UInt32 :=
  match choice with
  | 0 => x ^^^ y ^^^ z
  | 1 => (x &&& y) ||| (~~~x &&& z)
  | 2 => (x ||| ~~~y) ^^^ z
  | 3 => (x &&& z) ||| (y &&& ~~~z)
  | _ => x ^^^ (y ||| ~~~z)

/-- One round on a block. -/
def round (block : Array UInt32) (s : State) (r : Round) : State :=
  let t := rotate (s.a + mix r.choice s.b s.c s.d + block.getD r.word 0 + r.constant) r.shift + s.e
  ⟨s.e, t, s.b, rotate s.c 10, s.d⟩

def compress (s : State) (block : Array UInt32) : State :=
  let l := left.foldl (round block) s
  let r := right.foldl (round block) s
  ⟨s.b + l.c + r.d, s.c + l.d + r.e, s.d + l.e + r.a, s.e + l.a + r.b, s.a + l.b + r.c⟩

/-- The word of some bytes, the lowest first. -/
def wordOf (bs : Bytes) : UInt32 :=
  bs.foldr (fun b w => (w <<< 8) ||| b.toUInt32) 0

/-- The bytes of a word, the lowest first. -/
def wordBytes (w : UInt32) : Bytes :=
  (List.range 4).map fun i => (w >>> (8 * UInt32.ofNat i)).toUInt8

def words : Nat → Bytes → List UInt32
  | 0, _ => []
  | _, [] => []
  | n + 1, bs => wordOf (bs.take 4) :: words n (bs.drop 4)

/-- Takes whole blocks into the state. -/
def absorb : Nat → State → List UInt32 → State
  | 0, s, _ => s
  | _, s, [] => s
  | n + 1, s, ws => absorb n (compress s (ws.take 16).toArray) (ws.drop 16)

/-- The end of a message of a number of bytes: a bit, zeros and the number of bits. -/
def padding (size : Nat) : Bytes :=
  let zeros := (128 - 9 - size % 64) % 64
  let length := 8 * size
  (0x80 : UInt8) :: List.replicate zeros 0 ++
    (List.range 8).map fun i => UInt8.ofNat (length >>> (8 * i))

def hash (message : Bytes) : Bytes :=
  let all := message ++ padding message.length
  let s := absorb all.length start (words all.length all)
  [s.a, s.b, s.c, s.d, s.e].flatMap wordBytes

theorem length_hash (message : Bytes) : (hash message).length = 20 := by
  simp [hash, wordBytes]

end CosmosClient.Ripemd160
