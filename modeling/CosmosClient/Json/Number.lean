import CosmosClient.Json.Basic
import CosmosClient.Text.Float

/-!
# Numbers in JSON

Integers within 64 bits, signed or unsigned, stay integers. Any other number is the first digits that
fit 64 bits, rounded, times or over a rounded power of ten; beyond the range of floating point it is
refused.
-/

namespace CosmosClient.Json

/-- The digits of a number, taken apart. -/
structure Numeral where
  negative : Bool
  whole : List Char
  fraction : Option (List Char)
  exponent : Option (Bool × List Char)

namespace Numeral

/-- Appends digits to a number as long as it fits a word of 64 bits, and returns it with the number of
digits taken and of digits left. -/
def gather : Nat → List Char → Nat × Nat × Nat
  | n, [] => (n, 0, 0)
  | n, c :: cs =>
    let next := 10 * n + (c.toNat - 48)
    if next < UInt64.size then
      let (m, taken, left) := gather next cs
      (m, taken + 1, left)
    else (n, 0, cs.length + 1)

/-- `x · 10 ^ e`, dividing in steps of 308 places; `none` beyond the range. -/
def scale : Nat → Float → Int → Option Float
  | 0, _, _ => some 0.0
  | fuel + 1, x, e =>
    if 0 ≤ e ∧ e ≤ 308 then
      let y := x * Float.ofScientific 1 false e.toNat
      if y.isInf then none else some y
    else if -308 ≤ e ∧ e < 0 then some (x / Float.ofScientific 1 false (-e).toNat)
    else if x == 0.0 then some x
    else if 0 ≤ e then none
    else scale fuel (x / 1e308) (e + 308)

/-- The value of a number, or `none` beyond the range. -/
def value? (t : Numeral) : Option Json :=
  let sign (x : Float) : Json := .float (if t.negative then -x else x)
  let (n, _, left) := gather 0 t.whole
  if t.fraction.isNone && t.exponent.isNone && left == 0 then
    if ¬t.negative then some (.int n)
    else if n = 0 ∨ n > 0x8000000000000000 then some (sign (UInt64.ofNat n).toFloat)
    else some (.int (-n))
  else
    let (m, taken, _) := gather n (t.fraction.getD [])
    let places : Int := (left : Int) - taken
    match t.exponent with
    | none => (scale 5 (UInt64.ofNat m).toFloat places).map sign
    | some (negative, digits) =>
      let e := Decimal.valueOf digits
      if e < 0x80000000 then
        let power : Int := if negative then places - e else places + e
        (scale 5 (UInt64.ofNat m).toFloat power).map sign
      else if m ≠ 0 ∧ ¬negative then none
      else some (sign 0.0)

end Numeral

/-- A number in a document: with an exponent from ten to the sixteenth and from the sixth place. -/
def writeFloat (x : Float) : String :=
  Decimal.writeMarked 5 x

end CosmosClient.Json
