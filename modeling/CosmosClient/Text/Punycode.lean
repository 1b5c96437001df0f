/-!
# Punycode

A text as ASCII: its ASCII characters, a hyphen, and for every other character, in increasing order,
the number of steps to it. A step goes to the next place in the text, and from its end to the next
character. The numbers have digits of varying weight, which adapts to the numbers before.
-/

namespace CosmosClient.Punycode

/-- The digit of a number below 36. -/
def digit (n : Nat) : Char :=
  if n < 26 then Char.ofNat (97 + n) else Char.ofNat (22 + n)

def value? (c : Char) : Option Nat :=
  let n := c.toNat
  if 97 ≤ n ∧ n ≤ 122 then some (n - 97)
  else if 48 ≤ n ∧ n ≤ 57 then some (n - 22)
  else none

/-- A digit below this one is the last of its number. -/
def threshold (bias place : Nat) : Nat :=
  min 26 (max 1 (36 * (place + 1) - bias))

theorem threshold_pos (bias place : Nat) : 0 < threshold bias place := by
  simp only [threshold]
  omega

/-- A number made small, with the places this has taken. -/
def shrink (n : Nat) : Nat × Nat :=
  if 455 < n then
    let (small, places) := shrink (n / 35)
    (small, places + 36)
  else (n, 0)
termination_by n
decreasing_by omega

/-- The bias for the next number, given the last one and how many characters there are by then. -/
def adapt (n count : Nat) (isFirst : Bool) : Nat :=
  let n := if isFirst then n / 700 else n / 2
  let (small, places) := shrink (n + n / count)
  places + 36 * small / (small + 38)

/-- The digits of a number from a place on. -/
def digits (bias place n : Nat) : List Char :=
  let t := threshold bias place
  if n < t then [digit n]
  else digit (t + (n - t) % (36 - t)) :: digits bias (place + 1) ((n - t) / (36 - t))
termination_by n
decreasing_by
  have ht := threshold_pos bias place
  have hd := Nat.div_le_self (n - threshold bias place) (36 - threshold bias place)
  omega

/-- What is known while a text is written. -/
structure Writing where
  /-- The digits so far, the last first. -/
  digits : List Char := []
  /-- The steps since the last character that was written. -/
  steps : Nat := 0
  bias : Nat := 72
  /-- The number of characters that have been written. -/
  count : Nat
  isFirst : Bool := true

/-- Goes past a character of the text, and writes it if it is the one that is sought. -/
def Writing.pass (sought : Nat) (w : Writing) (c : Char) : Writing :=
  if c.toNat < sought then { w with steps := w.steps + 1 }
  else if c.toNat = sought then
    { digits := (Punycode.digits w.bias 0 w.steps).reverse ++ w.digits
      steps := 0
      bias := adapt w.steps (w.count + 1) w.isFirst
      count := w.count + 1
      isFirst := false }
  else w

/-- Writes the characters of the text that are among those sought, which are given with the first
character that has not been tried. -/
def writeFrom (cs : List Char) : List Nat → Nat → Writing → Writing
  | [], _, w => w
  | sought :: more, next, w =>
    let w := { w with steps := w.steps + (sought - next) * (w.count + 1) }
    let w := cs.foldl (Writing.pass sought) w
    writeFrom cs more (sought + 1) { w with steps := w.steps + 1 }

/-- A text as ASCII. -/
def write (cs : List Char) : List Char :=
  let basic := cs.filter fun c => c.toNat < 0x80
  let others := ((cs.map Char.toNat).filter (0x80 ≤ ·)).mergeSort.eraseDups
  let w := writeFrom cs others 0x80 { count := basic.length }
  basic ++ (if basic.isEmpty then [] else ['-']) ++ w.digits.reverse

/-- What is known while a text is read. -/
structure Reading where
  text : List Char
  bias : Nat := 72
  /-- The character reached. -/
  code : Nat := 0x80
  /-- The place in the text reached. -/
  index : Nat := 0
  /-- The digits of the number so far, their weight, and their count. -/
  steps : Nat := 0
  weight : Nat := 1
  place : Nat := 0
  isFirst : Bool := true

/-- Takes a digit. -/
def Reading.take (r : Reading) (c : Char) : Option Reading := do
  let d ← value? c
  let t := threshold r.bias r.place
  let steps := r.steps + d * r.weight
  if d < t then
    let count := r.text.length + 1
    let index := r.index + steps
    let code := r.code + index / count
    if Nat.isValidChar code then
      let index := index % count
      some {
        text := r.text.take index ++ Char.ofNat code :: r.text.drop index
        bias := adapt steps count r.isFirst
        code
        index := index + 1
        isFirst := false }
    else none
  else some { r with steps, weight := r.weight * (36 - t), place := r.place + 1 }

/-- The text that was written as ASCII. -/
def read? (cs : List Char) : Option (List Char) := do
  let back := cs.reverse.takeWhile (· ≠ '-')
  let basic := cs.take (cs.length - back.length - 1)
  let r ← back.reverse.foldlM Reading.take { text := basic }
  if r.place = 0 then some r.text else none

end CosmosClient.Punycode
