/-!
# Trimming, splitting and searching text

Texts are lists of characters here, so that every function is a recursion on the data.
-/

namespace CosmosClient.Text

/-- The characters with the Unicode property White_Space. -/
def isBlank (c : Char) : Bool :=
  let n := c.toNat
  (9 ≤ n && n ≤ 13) || n == 0x20 || n == 0x85 || n == 0xA0 || n == 0x1680 ||
    (0x2000 ≤ n && n ≤ 0x200A) || n == 0x2028 || n == 0x2029 || n == 0x202F || n == 0x205F ||
    n == 0x3000

/-- The text without the blanks at its end. -/
def trimEnd (cs : List Char) : List Char :=
  (cs.reverse.dropWhile isBlank).reverse

/-- The text without the blanks around it. -/
def trim (cs : List Char) : List Char :=
  trimEnd (cs.dropWhile isBlank)

/-- The pieces between the separators, empty ones included. -/
def split (sep : Char) : List Char → List (List Char)
  | [] => [[]]
  | c :: cs =>
    if c = sep then [] :: split sep cs
    else
      match split sep cs with
      | [] => [[c]]
      | piece :: pieces => (c :: piece) :: pieces

/-- The longest pieces without blanks. -/
def words : List Char → List (List Char)
  | [] => []
  | c :: cs =>
    if isBlank c then words cs
    else
      match cs with
      | [] => [[c]]
      | d :: _ =>
        if isBlank d then [c] :: words cs
        else
          match words cs with
          | [] => [[c]]
          | piece :: pieces => (c :: piece) :: pieces

/-- The parts before and after the first separator. -/
def splitFirst? (sep : Char) : List Char → Option (List Char × List Char)
  | [] => none
  | c :: cs =>
    if c = sep then some ([], cs)
    else (splitFirst? sep cs).map fun (front, back) => (c :: front, back)

/-- The parts before and after the last separator. -/
def splitLast? (sep : Char) (cs : List Char) : Option (List Char × List Char) :=
  (splitFirst? sep cs.reverse).map fun (back, front) => (front.reverse, back.reverse)

/-- The text after a given beginning. -/
def strip? : List Char → List Char → Option (List Char)
  | [], cs => some cs
  | _ :: _, [] => none
  | p :: ps, c :: cs => if p = c then strip? ps cs else none

/-- The text before a given end. -/
def stripEnd? (ending cs : List Char) : Option (List Char) :=
  (strip? ending.reverse cs.reverse).map List.reverse

/-- The text after the first place where the phrase occurs. -/
def after? (phrase : List Char) : List Char → Option (List Char)
  | [] => strip? phrase []
  | c :: cs =>
    match strip? phrase (c :: cs) with
    | some rest => some rest
    | none => after? phrase cs

/-- The text before the first place where the phrase occurs, or all of it. -/
def upTo (phrase : List Char) : List Char → List Char
  | [] => []
  | c :: cs => if (strip? phrase (c :: cs)).isSome then [] else c :: upTo phrase cs

/-- Whether the phrase occurs in the text. -/
def holds (phrase cs : List Char) : Bool :=
  (after? phrase cs).isSome

/-- A line without the carriage return that ends it. -/
def chomp (line : List Char) : List Char :=
  (stripEnd? ['\r'] line).getD line

/-- The lines of a text. A line ends in a line feed, with or without a carriage return before it;
what follows the last line feed is a line unless it is empty. -/
def lines (cs : List Char) : List (List Char) :=
  let pieces := split '\n' cs
  pieces.dropLast.map chomp ++
    match pieces.getLast? with
    | none | some [] => []
    | some last => [last]

/-- Upper case letters of the ASCII range in lower case. -/
def lower (cs : List Char) : List Char :=
  cs.map Char.toLower

/-- Texts with a separator between each two. -/
def join (sep : String) (texts : List String) : String :=
  sep.intercalate texts

end CosmosClient.Text
