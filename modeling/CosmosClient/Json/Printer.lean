import CosmosClient.Json.Number
import CosmosClient.Text.Number

/-!
# Writing JSON text

The compact form has no blanks between its parts; the indented one has a line for each item and
field.
-/

namespace CosmosClient.Json

/-- A character within a string. -/
def escape (c : Char) : List Char :=
  if c = '"' then ['\\', '"']
  else if c = '\\' then ['\\', '\\']
  else if c = '\x08' then ['\\', 'b']
  else if c = '\x0c' then ['\\', 'f']
  else if c = '\n' then ['\\', 'n']
  else if c = '\r' then ['\\', 'r']
  else if c = '\t' then ['\\', 't']
  else if c.toNat < 0x20 then
    ['\\', 'u', '0', '0', Nat.digitChar (c.toNat / 16), Nat.digitChar (c.toNat % 16)]
  else [c]

/-- A string between quotes. -/
def quote (s : String) : List Char :=
  '"' :: s.toList.flatMap escape ++ ['"']

/-- A value that is neither an array nor an object. -/
def scalarChars : Json → List Char
  | .bool true => "true".toList
  | .bool false => "false".toList
  | .int n => (Number.writeInt n).toList
  | .float x => (writeFloat x).toList
  | .str s => quote s
  | _ => "null".toList

mutual
/-- The compact form. -/
def compactChars : Json → List Char
  | .arr items => '[' :: compactItems items ++ [']']
  | .obj fields => '{' :: compactFields fields ++ ['}']
  | j => scalarChars j

def compactItems : List Json → List Char
  | [] => []
  | [j] => compactChars j
  | j :: js => compactChars j ++ ',' :: compactItems js

def compactFields : List (String × Json) → List Char
  | [] => []
  | [(k, j)] => quote k ++ ':' :: compactChars j
  | (k, j) :: rest => quote k ++ ':' :: compactChars j ++ ',' :: compactFields rest
end

def compact (j : Json) : String :=
  String.ofList (compactChars j)

/-- A new line indented to a level. -/
def newline (level : Nat) : List Char :=
  '\n' :: List.replicate (2 * level) ' '

mutual
/-- The indented form at a level. -/
def indentedChars (level : Nat) : Json → List Char
  | .arr [] => ['[', ']']
  | .arr items => '[' :: indentedItems (level + 1) items ++ newline level ++ [']']
  | .obj [] => ['{', '}']
  | .obj fields => '{' :: indentedFields (level + 1) fields ++ newline level ++ ['}']
  | j => scalarChars j

def indentedItems (level : Nat) : List Json → List Char
  | [] => []
  | [j] => newline level ++ indentedChars level j
  | j :: js => newline level ++ indentedChars level j ++ ',' :: indentedItems level js

def indentedFields (level : Nat) : List (String × Json) → List Char
  | [] => []
  | [(k, j)] => newline level ++ quote k ++ ':' :: ' ' :: indentedChars level j
  | (k, j) :: rest =>
    newline level ++ quote k ++ ':' :: ' ' :: indentedChars level j ++
      ',' :: indentedFields level rest
end

def indented (j : Json) : String :=
  String.ofList (indentedChars 0 j)

end CosmosClient.Json
