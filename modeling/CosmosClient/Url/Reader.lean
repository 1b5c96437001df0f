import CosmosClient.Url.Basic

/-!
# Reading addresses
-/

namespace CosmosClient.Url

/-- The schemes whose addresses have a host and a path with slashes, with their standard ports. -/
def webSchemes : List (String × Option Nat) :=
  [("http", some 80), ("https", some 443), ("ws", some 80), ("wss", some 443), ("ftp", some 21),
    ("file", none)]

def isWeb (scheme : List Char) : Bool :=
  webSchemes.any fun (name, _) => name.toList == scheme

/-- The port that need not be named. -/
def standardPort? (scheme : List Char) : Option Nat :=
  (webSchemes.find? fun (name, _) => name.toList == scheme).bind (·.2)

/-- Whether a character is no control character and within ASCII. -/
def isPlain (c : Char) : Bool := 0x20 ≤ c.toNat && c.toNat < 0x7F

def inFragment (c : Char) : Bool := isPlain c && !" \"<>`".toList.contains c

def inQuery (web : Bool) (c : Char) : Bool :=
  isPlain c && !" \"#<>".toList.contains c && !(web && c == '\'')

def inPath (c : Char) : Bool := inFragment c && !"#?\x7b\x7d".toList.contains c

/-- Whether a character may stand in the name or password of a user. -/
def inUser (c : Char) : Bool := inPath c && !"/:;=@[\\]^|".toList.contains c

/-- Whether a character separates the pieces of a path. -/
def isSlash (web : Bool) (c : Char) : Bool := c == '/' || (web && c == '\\')

def endsAuthority (web : Bool) (c : Char) : Bool := isSlash web c || c == '?' || c == '#'

def endsPath (c : Char) : Bool := c == '?' || c == '#'

/-- A text without the blanks and controls around it, and without tabs and line ends. -/
def clean (cs : List Char) : List Char :=
  let isEdge (c : Char) : Bool := c.toNat ≤ 0x20
  let inner := ((cs.dropWhile isEdge).reverse.dropWhile isEdge).reverse
  inner.filter fun c => c ≠ '\t' ∧ c ≠ '\n' ∧ c ≠ '\r'

/-- Whether a character may stand in a scheme behind its first letter. -/
def inScheme (c : Char) : Bool :=
  c.isAlphanum || c == '+' || c == '-' || c == '.'

/-- The scheme in small letters, and the text behind its colon. -/
def scheme? (cs : List Char) : Option (List Char × List Char) :=
  match Text.splitFirst? ':' cs with
  | some (c :: front, rest) =>
    if c.isAlpha ∧ front.all inScheme then some (Text.lower (c :: front), rest) else none
  | _ => none

/-- The parts before and behind the colon of a port; colons between brackets do not count. -/
def splitPort : Bool → List Char → List Char × Option (List Char)
  | _, [] => ([], none)
  | inside, c :: cs =>
    if c = ':' ∧ ¬inside then ([], some cs)
    else
      let inside := if c = '[' then true else if c = ']' then false else inside
      let (host, port) := splitPort inside cs
      (c :: host, port)

/-- A port, which the scheme may make needless. -/
def port? (scheme cs : List Char) : Option (Option Nat) :=
  if cs.isEmpty then some none
  else
    match cs.all Char.isDigit, Number.readDigits (UInt16.size - 1) 0 cs with
    | true, .ok n => some (if standardPort? scheme = some n then none else some n)
    | _, _ => none

/-- The name and the password of a user. -/
def user (cs : List Char) : List Char × List Char :=
  match Text.splitFirst? ':' cs with
  | none => (Percent.write inUser cs, [])
  | some (name, password) => (Percent.write inUser name, Percent.write inUser password)

/-- Whether a piece of a path stays where it is. -/
def isDot (cs : List Char) : Bool :=
  [".", "%2e"].any fun s => s.toList == Text.lower cs

/-- Whether a piece of a path steps back. -/
def isDoubleDot (cs : List Char) : Bool :=
  ["..", ".%2e", "%2e.", "%2e%2e"].any fun s => s.toList == Text.lower cs

/-- The pieces between slashes. -/
def pieces (web : Bool) : List Char → List (List Char)
  | [] => [[]]
  | c :: cs =>
    match isSlash web c, pieces web cs with
    | true, rest => [] :: rest
    | false, piece :: rest => (c :: piece) :: rest
    | false, [] => [[c]]

/-- Whether a text names a drive by a letter and one of some marks. -/
def isDrive (marks : List Char) : List Char → Bool
  | [c, mark] => c.isAlpha && marks.contains mark
  | _ => false

/-- What is left of a path after a step back; a drive is not left. -/
def stepBack (drives : Bool) (reached : List (List Char)) : List (List Char) :=
  match reached with
  | [piece] => if drives ∧ isDrive [':'] piece then [piece] else []
  | _ => reached.tail

/-- A path with one more piece; the mark of a drive at its start is a colon. -/
def stepTo (drives : Bool) (reached : List (List Char)) (piece : List Char) : List (List Char) :=
  if drives ∧ reached.isEmpty ∧ isDrive ['|'] piece then [piece.take 1 ++ [':']]
  else Percent.write inPath piece :: reached

/-- Takes the steps of a path, given what has been reached, the last piece first. -/
def walk (drives : Bool) (reached : List (List Char)) : List (List Char) → List (List Char)
  | [] => reached.reverse
  | [last] =>
    if isDoubleDot last then ([] :: stepBack drives reached).reverse
    else if isDot last then ([] :: reached).reverse
    else (stepTo drives reached last).reverse
  | piece :: rest =>
    if isDoubleDot piece then walk drives (stepBack drives reached) rest
    else if isDot piece then walk drives reached rest
    else walk drives (stepTo drives reached piece) rest

/-- A path with slashes, of which the first is not looked at. The path of a file may begin with a
drive. -/
def pathOf (scheme cs : List Char) : UrlPath :=
  .segments (walk (scheme == "file".toList) [] (pieces (isWeb scheme) cs))

/-- The query and the fragment, with which the text begins. -/
def tail (web : Bool) (cs : List Char) : Option (List Char) × Option (List Char) :=
  let fragment (cs : List Char) : Option (List Char) :=
    match cs with
    | '#' :: cs => some (Percent.write inFragment cs)
    | _ => none
  match cs with
  | '?' :: cs =>
    (some (Percent.write (inQuery web) (cs.takeWhile (· ≠ '#'))), fragment (cs.dropWhile (· ≠ '#')))
  | cs => (none, fragment cs)

/-- Adds the path, the query and the fragment to an address with a host. -/
def withPath (u : Url) (cs : List Char) : Url :=
  let web := isWeb u.scheme
  let front := cs.takeWhile fun c => ¬endsPath c
  let (query, fragment) := tail web (cs.dropWhile fun c => ¬endsPath c)
  let path :=
    match front with
    | [] => if web then .segments [[]] else .segments []
    | c :: rest => pathOf u.scheme (if isSlash web c then rest else c :: rest)
  { u with path, query, fragment }

/-- An address with the user, host and port with which the text begins. -/
def withAuthority? (scheme cs : List Char) : Option Url := do
  let web := isWeb scheme
  let front := cs.takeWhile fun c => ¬endsAuthority web c
  let rest := cs.dropWhile fun c => ¬endsAuthority web c
  let (userText, place) := match Text.splitLast? '@' front with
    | some (userText, place) => (some userText, place)
    | none => (none, front)
  let (username, password) := user (userText.getD [])
  let (name, portText) := splitPort false place
  if name.isEmpty ∧ (web ∨ userText.isSome ∨ portText.isSome) then none
  else do
    let host ← if web then Host.read? name else Host.readOpaque? name
    let port ← match portText with
      | some cs => port? scheme cs
      | none => some none
    return withPath { scheme, username, password, host, port, path := .segments [] } rest

/-- An address of a file. -/
def file? (cs : List Char) : Option Url := do
  let scheme := "file".toList
  let start : Url := { scheme, host := some (.domain []), path := .segments [] }
  match cs with
  | a :: b :: rest =>
    if isSlash true a ∧ isSlash true b then do
      let name := rest.takeWhile fun c => ¬endsAuthority true c
      if isDrive [':', '|'] name then return withPath start rest
      else do
        let host ← if name.isEmpty then some (.domain []) else Host.read? name
        let host := if host = .domain "localhost".toList then .domain [] else host
        return withPath { start with host := some host }
          (rest.dropWhile fun c => ¬endsAuthority true c)
    else return withPath start (a :: b :: rest)
  | cs => return withPath start cs

def read? (s : String) : Option Url := do
  let (scheme, rest) ← scheme? (clean s.toList)
  if scheme = "file".toList then file? rest
  else if isWeb scheme then withAuthority? scheme (rest.dropWhile (isSlash true))
  else
    match rest with
    | '/' :: '/' :: rest => withAuthority? scheme rest
    | '/' :: _ => return withPath { scheme, path := .segments [] } rest
    | rest =>
      let text := Percent.write isPlain (rest.takeWhile fun c => ¬endsPath c)
      let (query, fragment) := tail false (rest.dropWhile fun c => ¬endsPath c)
      return { scheme, path := .plain text, query, fragment }

end CosmosClient.Url
