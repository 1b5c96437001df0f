/-!
# Whole numbers in decimal

A number is written without sign or leading zeros. It is read with any leading zeros and an optional
plus sign, within given bounds, and the first fault from the left is reported.
-/

namespace CosmosClient

/-- Why a text is not a whole number within bounds. -/
inductive NumberFault where
  | empty
  | invalidDigit
  | tooLarge
  | tooSmall
  deriving DecidableEq, Repr

def NumberFault.message : NumberFault → String
  | .empty => "cannot parse integer from empty string"
  | .invalidDigit => "invalid digit found in string"
  | .tooLarge => "number too large to fit in target type"
  | .tooSmall => "number too small to fit in target type"

namespace Number

/-- The digits of a number. -/
def digits (n : Nat) : List Char :=
  Nat.toDigits 10 n

def write (n : Nat) : String :=
  String.ofList (digits n)

/-- The digits of a number after its sign. -/
def writeInt : Int → String
  | .ofNat n => write n
  | .negSucc n => "-" ++ write (n + 1)

/-- Reads digits after a number already read; the bound is checked at every digit. -/
def readDigits (max : Nat) : Nat → List Char → Except NumberFault Nat
  | n, [] => .ok n
  | n, c :: cs =>
    if c.isDigit then
      let next := 10 * n + (c.toNat - '0'.toNat)
      if next ≤ max then readDigits max next cs else .error .tooLarge
    else .error .invalidDigit

/-- Reads a number of at most `max`. -/
def readNat (max : Nat) : List Char → Except NumberFault Nat
  | [] => .error .empty
  | ['+'] => .error .invalidDigit
  | '+' :: cs => readDigits max 0 cs
  | cs => readDigits max 0 cs

/-- Reads a number from `-(max + 1)` to `max`. -/
def readInt (max : Nat) : List Char → Except NumberFault Int
  | ['-'] => .error .invalidDigit
  | '-' :: cs =>
    match readDigits (max + 1) 0 cs with
    | .ok n => .ok (-n)
    | .error .tooLarge => .error .tooSmall
    | .error e => .error e
  | cs => (readNat max cs).map Int.ofNat

def readUInt32 (cs : List Char) : Except NumberFault UInt32 :=
  (readNat (UInt32.size - 1) cs).map UInt32.ofNat

def readUInt64 (cs : List Char) : Except NumberFault UInt64 :=
  (readNat (UInt64.size - 1) cs).map UInt64.ofNat

def readInt64 (cs : List Char) : Except NumberFault Int64 :=
  (readInt Int64.maxValue.toNatClampNeg cs).map Int64.ofInt

end Number
end CosmosClient
