/-!
# JSON

A JSON value keeps the order of its fields and any repeated ones, so that a decoder sees a document
as it was written. `Json.normal` is the form in which field order does not matter: fields sorted by
key, and of a repeated field the last.
-/

namespace CosmosClient

/-- What is wrong with a document. -/
inductive Json.Fault where
  /-- The text is not JSON. -/
  | syntactic
  /-- The text ends early. -/
  | ended
  /-- The value has the wrong shape. -/
  | data
  /-- A list is too long, or an enumeration is not named as one: in a text this counts as not JSON,
  in a value as the wrong shape. -/
  | misplaced
  deriving DecidableEq, Repr

/-- A JSON document. -/
inductive Json where
  | null
  | bool (b : Bool)
  | int (n : Int)
  | float (x : Float)
  | str (s : String)
  | arr (items : List Json)
  | obj (fields : List (String × Json))
  /-- A place where the text is not JSON: the fault met by a reader that wants this value, and the
  fault, if any, met by one that passes over it. -/
  | flaw (wanted : Json.Fault) (passed : Option Json.Fault)
  deriving BEq, Repr, Inhabited

namespace Json

/-- Adds a field to fields sorted by key; a field of the same key gives way. -/
def insertField (key : String) (value : Json) : List (String × Json) → List (String × Json)
  | [] => [(key, value)]
  | (k, v) :: rest =>
    if key < k then (key, value) :: (k, v) :: rest
    else if key = k then (key, value) :: rest
    else (k, v) :: insertField key value rest

/-- Fields sorted by key, of a repeated key the last. -/
def sortFields (fields : List (String × Json)) : List (String × Json) :=
  fields.foldl (fun sorted (k, v) => insertField k v sorted) []

mutual
/-- The value with the fields of every object sorted by key and without repetition. -/
def normal : Json → Json
  | .arr items => .arr (normalItems items)
  | .obj fields => .obj (sortFields (normalFields fields))
  | j => j

def normalItems : List Json → List Json
  | [] => []
  | j :: js => normal j :: normalItems js

def normalFields : List (String × Json) → List (String × Json)
  | [] => []
  | (k, j) :: rest => (k, normal j) :: normalFields rest
end

mutual
/-- The number of arrays and objects around the deepest value. -/
def depth : Json → Nat
  | .arr items => depthItems items + 1
  | .obj fields => depthFields fields + 1
  | _ => 0

def depthItems : List Json → Nat
  | [] => 0
  | j :: js => max (depth j) (depthItems js)

def depthFields : List (String × Json) → Nat
  | [] => 0
  | (_, j) :: rest => max (depth j) (depthFields rest)
end

/-- The value of the last field with this key. -/
def field? (key : String) : Json → Option Json
  | .obj fields => (fields.reverse.find? fun (k, _) => k == key).map (·.2)
  | _ => none

/-- The value as text, if it is text. -/
def text? : Json → Option String
  | .str s => some s
  | _ => none

/-- An optional value; nothing is `null`. -/
def ofOption {α : Type} (write : α → Json) : Option α → Json
  | none => .null
  | some a => write a

end Json
end CosmosClient
