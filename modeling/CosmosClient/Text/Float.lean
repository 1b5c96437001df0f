import CosmosClient.Text.Basic

/-!
# Numbers with a fraction

A number of 64 bits is taken apart into `± m · 2 ^ q`. It is written with the fewest digits that
read back as the same number, and of those with the digits nearest to it.
-/

namespace CosmosClient

/-- A number as it is stored: a sign with zero, a finite magnitude, infinity or no number. -/
inductive Binary where
  /-- The magnitude `m · 2 ^ q`. -/
  | finite (negative : Bool) (m : Nat) (q : Int)
  | infinite (negative : Bool)
  | nan
  deriving DecidableEq, Repr

namespace Binary

/-- The magnitude from which on all bits of a number are in use. -/
def fullMagnitude : Nat := 0x10000000000000

/-- The parts of a number. -/
def ofFloat (x : Float) : Binary :=
  let bits := x.toBits.toNat
  let negative := bits >>> 63 == 1
  let exponent : Nat := (bits >>> 52) % 2048
  let fraction : Nat := bits % fullMagnitude
  if exponent = 2047 then
    if fraction = 0 then .infinite negative else .nan
  else if exponent = 0 then .finite negative fraction (-1074)
  else .finite negative (fullMagnitude + fraction) ((exponent : Int) - 1075)

end Binary

namespace Decimal

/-- The quotient `a · 2 ^ q / 10 ^ k` as numerator and denominator. -/
def ratio (a : Nat) (q k : Int) : Nat × Nat :=
  ((a <<< q.toNat) * Nat.pow 10 (-k).toNat, (1 <<< (-q).toNat) * Nat.pow 10 k.toNat)

/-- The number of decimal places before the point of `m · 2 ^ q`, for `m > 0`: the least `e` with
`m · 2 ^ q < 10 ^ e`. -/
def magnitude (m : Nat) (q : Int) : Int :=
  let guess : Int := (m.log2 + q) * 30103 / 100000
  let reaches (e : Int) : Bool := let (n, d) := ratio m q e; d ≤ n
  if reaches (guess + 1) then guess + 2 else if reaches guess then guess + 1 else guess

/-- Of the points of the grid `10 ^ k` next to `m · 2 ^ q`, the nearest that reads back as this
number; a tie goes up. -/
def nearest? (m : Nat) (q k : Int) : Option Nat :=
  let lowest := if m = Binary.fullMagnitude ∧ q > -1074 then 4 * m - 1 else 4 * m - 2
  let highest := 4 * m + 2
  let inside (d : Nat) : Bool :=
    let (low, unit) := ratio lowest (q - 2) k
    let (high, _) := ratio highest (q - 2) k
    if m % 2 = 0 then low ≤ d * unit && d * unit ≤ high
    else low < d * unit && d * unit < high
  let (n, unit) := ratio m q k
  let below := n / unit
  let above := below + 1
  match inside below, inside above with
  | true, true => if 2 * (n % unit) < unit then some below else some above
  | true, false => some below
  | false, true => some above
  | false, false => none

/-- The digits of a positive number without trailing zeros, and the power of ten of the last. -/
def trimZeros : Nat → Nat → Int → Nat × Int
  | 0, d, k => (d, k)
  | fuel + 1, d, k => if d % 10 = 0 ∧ d ≠ 0 then trimZeros fuel (d / 10) (k + 1) else (d, k)

/-- The shortest `d · 10 ^ k` that reads back as `m · 2 ^ q`. -/
def shortest (m : Nat) (q : Int) : Nat × Int :=
  let top := magnitude m q
  let found := (List.range 17).findSome? fun (i : Nat) =>
    let k := top - ((i : Int) + 1)
    (nearest? m q k).map fun d => (d, k)
  let (d, k) := found.getD (0, 0)
  trimZeros 20 d k

/-- The digits `d · 10 ^ k` in positional form, with a fraction only if there is one. -/
def positional (d : Nat) (k : Int) : List Char :=
  let ds := Nat.toDigits 10 d
  if 0 ≤ k then ds ++ List.replicate k.toNat '0'
  else
    let places := (-k).toNat
    if places < ds.length then
      ds.take (ds.length - places) ++ '.' :: ds.drop (ds.length - places)
    else '0' :: '.' :: List.replicate (places - ds.length) '0' ++ ds

/-- The digits `d · 10 ^ k` with one digit before the point and an exponent. -/
def scientific (d : Nat) (k : Int) : List Char :=
  let ds := Nat.toDigits 10 d
  let exponent := (toString (k + (ds.length - 1))).toList
  match ds with
  | [c] => c :: 'e' :: exponent
  | c :: cs => c :: '.' :: cs ++ 'e' :: exponent
  | [] => []

/-- A sign before a text. -/
def signed (negative : Bool) (cs : List Char) : List Char :=
  if negative then '-' :: cs else cs

/-- A number in positional form at any size. -/
def write (x : Float) : String :=
  String.ofList <|
    match Binary.ofFloat x with
    | .finite negative m q =>
      signed negative (if m = 0 then ['0'] else let (d, k) := shortest m q; positional d k)
    | .infinite negative => signed negative "inf".toList
    | .nan => "NaN".toList

/-- A number with at least one place after the point; with an exponent from ten to the sixteenth, and
also when its first digit stands more than `places` places after the point. -/
def writeMarked (places : Nat) (x : Float) : String :=
  String.ofList <|
    match Binary.ofFloat x with
    | .finite negative m q =>
      signed negative <|
        if m = 0 then "0.0".toList
        else
          let (d, k) := shortest m q
          let top := k + (Nat.toDigits 10 d).length
          if top ≤ -(places : Int) ∨ 17 ≤ top then scientific d k
          else positional d k ++ if 0 ≤ k then ['.', '0'] else []
    | .infinite negative => signed negative "inf".toList
    | .nan => "NaN".toList

/-- The number `digits · 10 ^ exponent`, rounded to the nearest. -/
def ofScientific (digits : Nat) (exponent : Int) : Float :=
  if digits = 0 then 0.0
  else
    let size : Int := (Nat.toDigits 10 digits).length + exponent
    if size > 400 then 1.0 / 0.0
    else if size < -400 then 0.0
    else if 0 ≤ exponent then Float.ofScientific digits false exponent.toNat
    else Float.ofScientific digits true (-exponent).toNat

/-- The number that digits stand for. -/
def valueOf (cs : List Char) : Nat :=
  cs.foldl (fun n c => 10 * n + (c.toNat - 48)) 0

/-- Reads the exponent that may follow the digits. -/
def readExponent? : List Char → Option Int
  | [] => some 0
  | c :: cs =>
    if c = 'e' ∨ c = 'E' then
      let (negative, ds) :=
        match cs with
        | '-' :: ds => (true, ds)
        | '+' :: ds => (false, ds)
        | ds => (false, ds)
      if ds.isEmpty ∨ ds.any (fun c => ¬c.isDigit) then none
      else some (if negative then -(valueOf ds : Int) else valueOf ds)
    else none

/-- Reads digits with an optional point among them and an optional exponent. -/
def readMagnitude? (cs : List Char) : Option Float :=
  let whole := cs.takeWhile Char.isDigit
  let rest := cs.dropWhile Char.isDigit
  let (fraction, tail) :=
    match rest with
    | '.' :: more => (more.takeWhile Char.isDigit, more.dropWhile Char.isDigit)
    | _ => ([], rest)
  if whole.isEmpty ∧ fraction.isEmpty then none
  else
    (readExponent? tail).map fun e =>
      ofScientific (valueOf (whole ++ fraction)) (e - fraction.length)

/-- Reads a number: an optional sign, then digits, `inf`, `infinity` or `nan` in any case. -/
def read? (cs : List Char) : Option Float :=
  let (negative, body) :=
    match cs with
    | '-' :: ds => (true, ds)
    | '+' :: ds => (false, ds)
    | ds => (false, ds)
  let word := String.ofList (Text.lower body)
  let magnitude? :=
    if word = "inf" ∨ word = "infinity" then some (1.0 / 0.0)
    else if word = "nan" then some (0.0 / 0.0)
    else readMagnitude? body
  magnitude?.map fun x => if negative then -x else x

end Decimal

namespace Binary

/-- The whole part of a number, between zero and `max`. -/
def clamp (max : Nat) : Binary → Nat
  | .finite true _ _ => 0
  | .finite false m q => min max (if 0 ≤ q then m <<< q.toNat else m >>> (-q).toNat)
  | .infinite true => 0
  | .infinite false => max
  | .nan => 0

end Binary
end CosmosClient
