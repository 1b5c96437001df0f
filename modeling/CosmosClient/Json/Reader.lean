import CosmosClient.Json.Number

/-!
# Reading JSON text

`Json.read` turns any text into a document. Where the text is not JSON the document has a flaw, so
that a decoder that goes through the document in order meets whichever fault comes first: one of the
text or one of the shape. A reader that passes over a value does not mind a number out of range, a
lone surrogate or deep nesting.
-/

namespace CosmosClient.Json

/-- How many arrays and objects may be open at once. -/
def maxDepth : Nat := 127

/-- A value and the text after it; the text is missing where it broke off inside the value. -/
abbrev Read := Json × Option (List Char)

/-- A place where the text breaks off. -/
def broken (fault : Fault) : Read :=
  (.flaw fault (some fault), none)

/-- The blanks of JSON. -/
def isSpace (c : Char) : Bool :=
  c == ' ' || c == '\n' || c == '\t' || c == '\r'

def skipSpace (cs : List Char) : List Char :=
  cs.dropWhile isSpace

/-- The value of a digit in base sixteen. -/
def hexValue? (c : Char) : Option Nat :=
  let n := c.toNat
  if 48 ≤ n ∧ n ≤ 57 then some (n - 48)
  else if 97 ≤ n ∧ n ≤ 102 then some (n - 87)
  else if 65 ≤ n ∧ n ≤ 70 then some (n - 55)
  else none

/-- The value of four digits in base sixteen. -/
def hex4? (a b c d : Char) : Option Nat := do
  return (((← hexValue? a) * 16 + (← hexValue? b)) * 16 + (← hexValue? c)) * 16 + (← hexValue? d)

/-- The character behind a backslash and one letter. -/
def unescape? : Char → Option Char
  | '"' => some '"'
  | '\\' => some '\\'
  | '/' => some '/'
  | 'b' => some '\x08'
  | 'f' => some '\x0c'
  | 'n' => some '\n'
  | 'r' => some '\r'
  | 't' => some '\t'
  | _ => none

/-- What follows an opening quote. -/
structure Chars where
  /-- The characters up to the closing quote. -/
  text : List Char
  /-- Whether every escaped surrogate has its partner. -/
  paired : Bool
  /-- The text after the closing quote. -/
  rest : Except Fault (List Char)

/-- A character in front. -/
def Chars.cons (c : Char) (r : Chars) : Chars :=
  { r with text := c :: r.text }

/-- No further character. -/
def Chars.stop (fault : Fault) : Chars :=
  ⟨[], true, .error fault⟩

/-- Records that an escaped surrogate has no partner. -/
def Chars.unpaired (r : Chars) : Chars :=
  { r with paired := false }

/-- Reads up to the closing quote, after an escaped surrogate that waits for its partner. -/
def chars (waiting : Option Nat) : List Char → Chars
  | [] => .stop .ended
  | '"' :: rest => ⟨[], waiting.isNone, .ok rest⟩
  | '\\' :: 'u' :: a :: b :: c :: d :: rest =>
    match hex4? a b c d, waiting with
    | none, _ => .stop .syntactic
    | some n, some high =>
      if 0xDC00 ≤ n ∧ n ≤ 0xDFFF then
        (chars none rest).cons (Char.ofNat (0x10000 + (high - 0xD800) * 0x400 + (n - 0xDC00)))
      else (chars none rest).unpaired
    | some n, none =>
      if 0xD800 ≤ n ∧ n ≤ 0xDBFF then chars (some n) rest
      else if 0xDC00 ≤ n ∧ n ≤ 0xDFFF then (chars none rest).unpaired
      else (chars none rest).cons (Char.ofNat n)
  | '\\' :: 'u' :: rest =>
    .stop (if (String.ofList rest).utf8ByteSize < 4 then .ended else .syntactic)
  | '\\' :: e :: rest =>
    match unescape? e, waiting with
    | none, _ => .stop .syntactic
    | some _, some _ => (chars none rest).unpaired
    | some c, none => (chars none rest).cons c
  | ['\\'] => .stop .ended
  | c :: rest =>
    if c.toNat < 0x20 then .stop .syntactic
    else if waiting.isSome then (chars none rest).unpaired
    else (chars none rest).cons c

/-- A string, after its opening quote. -/
def string (cs : List Char) : Read :=
  match chars none cs with
  | ⟨text, true, .ok rest⟩ => (.str (String.ofList text), some rest)
  | ⟨_, false, .ok rest⟩ => (.flaw .syntactic none, some rest)
  | ⟨_, true, .error fault⟩ => broken fault
  | ⟨_, false, .error fault⟩ => (.flaw .syntactic (some fault), none)

/-- A word that is known from its first letter on. -/
def word (letters : List Char) (value : Json) : List Char → Read :=
  go letters
where
  go : List Char → List Char → Read
    | [], rest => (value, some rest)
    | _ :: _, [] => broken .ended
    | l :: ls, c :: cs => if l = c then go ls cs else broken .syntactic

/-- The exponent of a number and the text after it. -/
def exponent (cs : List Char) : Except Fault (Option (Bool × List Char) × List Char) :=
  match cs with
  | [] => .ok (none, cs)
  | c :: after =>
    if c = 'e' ∨ c = 'E' then
      let (negative, body) :=
        match after with
        | '-' :: body => (true, body)
        | '+' :: body => (false, body)
        | body => (false, body)
      match body with
      | [] => .error .ended
      | d :: _ =>
        if d.isDigit then
          .ok (some (negative, body.takeWhile Char.isDigit), body.dropWhile Char.isDigit)
        else .error .syntactic
    else .ok (none, cs)

/-- The fraction of a number and the text after it. -/
def fraction (cs : List Char) : Except Fault (Option (List Char) × List Char) :=
  match cs with
  | '.' :: body =>
    match body with
    | [] => .error .ended
    | d :: _ =>
      if d.isDigit then .ok (some (body.takeWhile Char.isDigit), body.dropWhile Char.isDigit)
      else .error .syntactic
  | _ => .ok (none, cs)

/-- A number after its sign. -/
def magnitude (negative : Bool) (cs : List Char) : Except Fault (Numeral × List Char) :=
  match cs with
  | [] => .error .ended
  | c :: more =>
    if c.isDigit then
      if c = '0' ∧ (more.head?.any Char.isDigit) then .error .syntactic
      else do
        let (frac, rest) ← fraction (cs.dropWhile Char.isDigit)
        let (exp, rest) ← exponent rest
        return (⟨negative, cs.takeWhile Char.isDigit, frac, exp⟩, rest)
    else .error .syntactic

def number (cs : List Char) : Read :=
  let parts :=
    match cs with
    | '-' :: body => magnitude true body
    | body => magnitude false body
  match parts with
  | .error fault => broken fault
  | .ok (numeral, rest) => ((numeral.value?).getD (.flaw .syntactic none), some rest)

/-- The fault at which the text breaks off inside the items or fields. -/
def breakFault (items : List Json) : Option Fault :=
  items.getLast?.bind innermost
where
  innermost : Json → Option Fault
    | .flaw _ passed => passed
    | .arr items => last items
    | .obj fields => lastField fields
    | _ => none
  last : List Json → Option Fault
    | [] => none
    | [j] => innermost j
    | _ :: js => last js
  lastField : List (String × Json) → Option Fault
    | [] => none
    | [(_, j)] => innermost j
    | _ :: rest => lastField rest

/-- Puts `found` around what was read, unless too much is open already. -/
def enclose (depth : Nat) (found : Json) (rest : Option (List Char)) : Read :=
  if depth = 0 then
    (.flaw .syntactic (if rest.isNone then breakFault [found] else none), rest)
  else (found, rest)

mutual
/-- Reads a value inside `maxDepth - depth` arrays and objects. -/
def value : Nat → Nat → List Char → Read
  | 0, _, _ => broken .ended
  | fuel + 1, depth, cs =>
    match skipSpace cs with
    | [] => broken .ended
    | 'n' :: rest => word "ull".toList .null rest
    | 't' :: rest => word "rue".toList (.bool true) rest
    | 'f' :: rest => word "alse".toList (.bool false) rest
    | '"' :: rest => string rest
    | '[' :: rest =>
      let (items, rest) := items fuel (depth - 1) true rest
      enclose depth (.arr items) rest
    | '{' :: rest =>
      let (fields, rest) := fields fuel (depth - 1) true rest
      enclose depth (.obj fields) rest
    | c :: rest => if c = '-' ∨ c.isDigit then number (c :: rest) else broken .syntactic

/-- Reads the items of an array up to its end. -/
def items : Nat → Nat → Bool → List Char → List Json × Option (List Char)
  | 0, _, _, _ => ([(broken .ended).1], none)
  | fuel + 1, depth, first, cs =>
    let stop (fault : Fault) : List Json × Option (List Char) := ([(broken fault).1], none)
    let item (cs : List Char) : List Json × Option (List Char) :=
      match value fuel depth cs with
      | (j, none) => ([j], none)
      | (j, some rest) =>
        let (js, rest) := items fuel depth false rest
        (j :: js, rest)
    match skipSpace cs with
    | [] => stop .ended
    | ']' :: rest => ([], some rest)
    | c :: rest =>
      if first then item (c :: rest)
      else if c = ',' then
        match skipSpace rest with
        | [] => stop .ended
        | ']' :: _ => stop .syntactic
        | rest => item rest
      else stop .syntactic

/-- Reads the fields of an object up to its end. -/
def fields : Nat → Nat → Bool → List Char → List (String × Json) × Option (List Char)
  | 0, _, _, _ => ([("", (broken .ended).1)], none)
  | fuel + 1, depth, first, cs =>
    let stop (fault : Fault) : List (String × Json) × Option (List Char) :=
      ([("", (broken fault).1)], none)
    let field (cs : List Char) : List (String × Json) × Option (List Char) :=
      match string cs with
      | (.str key, some rest) =>
        match skipSpace rest with
        | [] => ([(key, (broken .ended).1)], none)
        | ':' :: rest =>
          match value fuel depth rest with
          | (j, none) => ([(key, j)], none)
          | (j, some rest) =>
            let (more, rest) := fields fuel depth false rest
            ((key, j) :: more, rest)
        | _ => ([(key, (broken .syntactic).1)], none)
      | (found, _) => ([("", found)], none)
    match skipSpace cs with
    | [] => stop .ended
    | '}' :: rest => ([], some rest)
    | c :: rest =>
      if first then
        if c = '"' then field rest else stop .syntactic
      else if c = ',' then
        match skipSpace rest with
        | [] => stop .ended
        | '"' :: rest => field rest
        | _ => stop .syntactic
      else stop .syntactic
end

/-- Reads a text: the document at its start and the text after it. -/
def read (s : String) : Read :=
  let cs := s.toList
  value (2 * cs.length + 2) maxDepth cs

end CosmosClient.Json
