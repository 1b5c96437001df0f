import CosmosClient.Json.Reader
import CosmosClient.Text.Number
import CosmosClient.Text.Base64

/-!
# Decoding JSON documents

A decoder turns a document into a value of another type and reports the first fault in the order of
the text. A record is an object, or an array with the fields in their declared order.
-/

namespace CosmosClient.Json

/-- Reads a value of a type from a document. -/
abbrev Decoder (α : Type) := Json → Except Fault α

/-- The fault of a document in which another shape was wanted. -/
def mismatch {α : Type} : Decoder α
  | .flaw wanted _ => .error wanted
  | _ => .error .data

/-- Passes over a document. -/
def pass (j : Json) : Except Fault Unit :=
  match breakFault [j] with
  | some fault => .error fault
  | none => .ok ()

mutual
/-- The first fault of the text in a document. -/
def firstFlaw : Json → Option Fault
  | .flaw wanted _ => some wanted
  | .arr items => firstFlawItems items
  | .obj fields => firstFlawFields fields
  | _ => none

def firstFlawItems : List Json → Option Fault
  | [] => none
  | j :: js => (firstFlaw j).or (firstFlawItems js)

def firstFlawFields : List (String × Json) → Option Fault
  | [] => none
  | (_, j) :: rest => (firstFlaw j).or (firstFlawFields rest)
end

/-- Takes the fault of a list that is too long or of an enumeration that is not named as one for
another. -/
def settle {α : Type} (fault : Fault) (r : Except Fault α) : Except Fault α :=
  r.mapError fun
    | .misplaced => fault
    | e => e

/-- Reads the whole document first, then decodes it: every fault of the text comes before any fault
of the shape. -/
def whole {α : Type} (decode : Decoder α) : Decoder α := fun j =>
  match firstFlaw j with
  | some fault => .error fault
  | none => settle .data (decode j)

/-- Any value, with sorted fields. -/
def any : Decoder Json :=
  whole fun j => .ok j.normal

def text : Decoder String
  | .str s => .ok s
  | j => mismatch j

/-- A string in a format of its own. -/
def textOf {α : Type} (read : String → Option α) : Decoder α
  | .str s => (read s).elim (.error .data) .ok
  | j => mismatch j

/-- An integer within bounds, not in quotes. -/
def integer {α : Type} (ofInt : Int → Option α) : Decoder α
  | .int n => (ofInt n).elim (.error .data) .ok
  | j => mismatch j

/-- An integer within bounds, with or without quotes. -/
def looseInteger {α : Type} (ofInt : Int → Option α) (read : String → Option α) : Decoder α :=
  whole fun
    | .str s => (read s).elim (.error .data) .ok
    | .int n => (ofInt n).elim (.error .data) .ok
    | _ => .error .data

/-- `null` or a value. -/
def optional {α : Type} (decode : Decoder α) : Decoder (Option α)
  | .null => .ok none
  | j => (decode j).map some

/-- `null` for an empty value, or a value. -/
def nullable {α : Type} (empty : α) (decode : Decoder α) : Decoder α
  | .null => .ok empty
  | j => decode j

def list {α : Type} (decode : Decoder α) : Decoder (List α)
  | .arr items => items.mapM decode
  | j => mismatch j

/-- Bytes as a Base64 string with or without its padding. -/
def base64 : Decoder Bytes :=
  textOf fun s => Base64.readUnpadded? s.toList

def uint32? (n : Int) : Option UInt32 :=
  if 0 ≤ n ∧ n < UInt32.size then some (UInt32.ofNat n.toNat) else none

def uint64? (n : Int) : Option UInt64 :=
  if 0 ≤ n ∧ n < UInt64.size then some (UInt64.ofNat n.toNat) else none

def int64? (n : Int) : Option Int64 :=
  if Int64.minValue.toInt ≤ n ∧ n ≤ Int64.maxValue.toInt then some (Int64.ofInt n) else none

/-- A number of 32 bits, not in quotes. -/
def uint32 : Decoder UInt32 :=
  integer uint32?

/-- A signed number of 64 bits, not in quotes. -/
def int64 : Decoder Int64 :=
  integer int64?

/-- A number of 64 bits, with or without quotes. -/
def looseUInt64 : Decoder UInt64 :=
  looseInteger uint64? fun s => (Number.readUInt64 s.toList).toOption

/-- A signed number of 64 bits, with or without quotes. -/
def looseInt64 : Decoder Int64 :=
  looseInteger int64? fun s => (Number.readInt64 s.toList).toOption

/-- A field of a record that is being read into a state: its name, whether an array may end before
it, and how its value is kept. -/
structure Slot (σ : Type) where
  name : String
  omittable : Bool
  keep : Json → σ → Except Fault σ

/-- A slot that decodes its value and puts it into the state. -/
def slot {σ α : Type} (name : String) (omittable : Bool) (decode : Decoder α) (put : α → σ → σ) :
    Slot σ :=
  ⟨name, omittable, fun j s => (decode j).map fun a => put a s⟩

/-- Reads the fields of an object; unknown ones are passed over and known ones may not repeat. -/
def keepFields {σ : Type} (slots : List (Slot σ)) :
    List String → List (String × Json) → σ → Except Fault σ
  | _, [], s => .ok s
  | seen, (key, j) :: rest, s =>
    match slots.find? fun slot => slot.name == key with
    | none => do
      pass j
      keepFields slots seen rest s
    | some slot =>
      if seen.contains key then .error .data
      else do
        let s ← slot.keep j s
        keepFields slots (key :: seen) rest s

/-- Reads the items of an array into the slots in order. -/
def keepItems {σ : Type} : List (Slot σ) → List Json → σ → Except Fault σ
  | [], [], s => .ok s
  | [], .flaw wanted _ :: _, _ => .error wanted
  | [], _ :: _, _ => .error .misplaced
  | slot :: slots, [], s => if (slot :: slots).all (·.omittable) then .ok s else .error .data
  | slot :: slots, j :: js, s => do
    let s ← slot.keep j s
    keepItems slots js s

/-- Reads a record into a state. -/
def record {σ : Type} (slots : List (Slot σ)) (start : σ) : Decoder σ
  | .obj fields => keepFields slots [] fields start
  | .arr items => keepItems slots items start
  | j => mismatch j

/-- A field that must be there. -/
def require {α : Type} : Option α → Except Fault α
  | none => .error .data
  | some a => .ok a

/-- An enumeration: the name of a case, or an object with the name as its only key. `decode` is given
the value under the key, if there is one. -/
def variant {α : Type} (decode : String → Option (Option Json → Except Fault α)) : Decoder α
  | .str name =>
    match decode name with
    | none => .error .data
    | some decode => decode none
  | .obj [] => .error .misplaced
  | .obj (("", .flaw wanted _) :: _) => .error wanted
  | .obj ((name, j) :: rest) =>
    match decode name with
    | none => .error .data
    | some decode => do
      let a ← decode (some j)
      match rest with
      | [] => .ok a
      | (_, .flaw wanted _) :: _ => .error wanted
      | _ => .error .misplaced
  | .flaw wanted _ => .error wanted
  | _ => .error .misplaced

/-- Decodes a JSON text, which must hold nothing but one document. -/
def decodeText {α : Type} (decode : Decoder α) (s : String) : Except Fault α := do
  let (j, rest) := read s
  let a ← settle .syntactic (decode j)
  match rest with
  | some rest => if (skipSpace rest).isEmpty then .ok a else .error .syntactic
  | none => .error .ended

/-- Decodes a JSON value. -/
def decodeValue {α : Type} (decode : Decoder α) (j : Json) : Except Fault α :=
  settle .data (decode j.normal)

end CosmosClient.Json
