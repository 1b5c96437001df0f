import CosmosClient.Text.Number
import CosmosClient.Url.Domain

/-!
# Hosts

The host of an address is a domain, or a number of 32 or 128 bits in one of its notations.
-/

namespace CosmosClient

/-- The host of an address. -/
inductive Host where
  | domain (name : List Char)
  | ipv4 (n : Nat)
  /-- Eight numbers of 16 bits. -/
  | ipv6 (pieces : List Nat)
  deriving DecidableEq, Repr

namespace Host

/-- The number that digits stand for; none stand for zero. -/
def number? (base : Nat) (cs : List Char) : Option Nat :=
  cs.foldlM (fun n c => do
    let d ← Hex.digit? c
    if d < base then some (base * n + d) else none) 0

/-- A part of an address of 32 bits: decimal, octal behind `0`, or hexadecimal behind `0x`. -/
def part? : List Char → Option Nat
  | [] => none
  | '0' :: 'x' :: cs => number? 16 cs
  | '0' :: 'X' :: cs => number? 16 cs
  | '0' :: c :: cs => number? 8 (c :: cs)
  | cs => number? 10 cs

/-- The pieces between dots, without an empty one at the end. -/
def parts (name : List Char) : List (List Char) :=
  let pieces := Text.split '.' name
  if 1 < pieces.length ∧ pieces.getLast? = some [] then pieces.dropLast else pieces

/-- Whether a name can only be a number. -/
def endsInNumber (name : List Char) : Bool :=
  match (parts name).getLast? with
  | none | some [] => false
  | some last => last.all Char.isDigit || (part? last).isSome

/-- An address of 32 bits, of whose parts the last fills what the others leave. -/
def ipv4? (name : List Char) : Option Nat := do
  let numbers ← (parts name).mapM part?
  let last ← numbers.getLast?
  let front := numbers.dropLast
  let room := Nat.pow 256 (4 - front.length)
  if front.length < 4 ∧ last < room ∧ front.all (· < 256) then
    return front.foldl (fun n x => 256 * n + x) 0 * room + last
  else none

/-- A number below 256 in decimal without needless zeros. -/
def octet? (cs : List Char) : Option Nat := do
  let n ← if cs.all Char.isDigit then number? 10 cs else none
  if n < 256 ∧ Number.digits n = cs then some n else none

/-- Four numbers between dots as two numbers of 16 bits. -/
def dotted? (cs : List Char) : Option (List Nat) := do
  match ← (Text.split '.' cs).mapM octet? with
  | [a, b, c, d] => return [256 * a + b, 256 * c + d]
  | _ => none

/-- One to four digits. -/
def piece? (cs : List Char) : Option Nat :=
  if 0 < cs.length ∧ cs.length ≤ 4 then number? 16 cs else none

/-- The numbers between colons; the last two may be dotted if `isEnd` says so. -/
def pieces? (isEnd : Bool) (cs : List Char) : Option (List Nat) :=
  if cs.isEmpty then some []
  else do
    let texts := Text.split ':' cs
    let last := texts.getLast?.getD []
    if isEnd ∧ last.contains '.' then
      return (← texts.dropLast.mapM piece?) ++ (← dotted? last)
    else texts.mapM piece?

/-- An address of 128 bits. Two colons stand for one or more zeros. -/
def ipv6? (cs : List Char) : Option (List Nat) := do
  match Text.after? "::".toList cs with
  | none =>
    let pieces ← pieces? true cs
    if pieces.length = 8 then some pieces else none
  | some back =>
    let front ← pieces? false (Text.upTo "::".toList cs)
    let back ← pieces? true back
    let count := front.length + back.length
    if count < 8 then some (front ++ List.replicate (8 - count) 0 ++ back) else none

/-- The number of zeros at the start. -/
def zeros (pieces : List Nat) : Nat :=
  (pieces.takeWhile (· == 0)).length

/-- The place and the length of the first longest row of zeros. -/
def longestZeros (pieces : List Nat) : Nat × Nat :=
  (List.range pieces.length).foldl (fun best i =>
    let count := zeros (pieces.drop i)
    if best.2 < count then (i, count) else best) (0, 0)

def writePieces (pieces : List Nat) : List Char :=
  [':'].intercalate (pieces.map (Nat.toDigits 16))

/-- An address of 128 bits, with two colons for the longest row of zeros. -/
def writeIpv6 (pieces : List Nat) : List Char :=
  let (place, count) := longestZeros pieces
  if 2 ≤ count then
    writePieces (pieces.take place) ++ [':', ':'] ++ writePieces (pieces.drop (place + count))
  else writePieces pieces

/-- The four bytes of a number, the highest first, in decimal. -/
def writeIpv4 (n : Nat) : List Char :=
  ['.'].intercalate
    ([n / 16777216 % 256, n / 65536 % 256, n / 256 % 256, n % 256].map Number.digits)

def write : Host → List Char
  | domain name => name
  | ipv4 n => writeIpv4 n
  | ipv6 pieces => ['['] ++ writeIpv6 pieces ++ [']']

/-- The host between brackets, if there are brackets. -/
def bracketed? (cs : List Char) : Option (Option Host) :=
  match cs with
  | '[' :: cs => some do
    let inner ← Text.stripEnd? [']'] cs
    return ipv6 (← ipv6? inner)
  | _ => none

/-- The host of an address on the web. -/
def read? (cs : List Char) : Option Host :=
  match bracketed? cs with
  | some host => host
  | none => do
    let name ← Domain.toAscii? cs
    if endsInNumber name then return ipv4 (← ipv4? name) else return domain name

/-- The host of any other address. -/
def readOpaque? (cs : List Char) : Option Host :=
  match bracketed? cs with
  | some host => host
  | none =>
    if cs.any fun c => c = '\x00' ∨ " #/:<>?@[\\]^|".toList.contains c then none
    else some (domain (Percent.write (fun c => 0x20 ≤ c.toNat ∧ c.toNat < 0x7F) cs))

end Host
end CosmosClient
