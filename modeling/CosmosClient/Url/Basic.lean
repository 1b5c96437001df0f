import CosmosClient.Url.Host

/-!
# Addresses of endpoints

A URL names a scheme and, behind it, a host with a path, or a text of which only the scheme knows the
meaning. Reading brings it into one form: unneeded parts are left out, the steps `.` and `..` of its
path are taken, and characters that may not stand in a part are escaped.
-/

namespace CosmosClient

/-- The path of a URL. -/
inductive UrlPath where
  /-- A text without structure. -/
  | plain (text : List Char)
  /-- The pieces behind each slash. -/
  | segments (pieces : List (List Char))
  deriving DecidableEq, Repr

/-- An address. -/
structure Url where
  scheme : List Char
  username : List Char := []
  password : List Char := []
  /-- The host, which may be an empty domain. -/
  host : Option Host := none
  port : Option Nat := none
  path : UrlPath
  query : Option (List Char) := none
  fragment : Option (List Char) := none
  deriving DecidableEq, Repr

namespace Url

def writePath : UrlPath → List Char
  | .plain text => text
  | .segments pieces => pieces.flatMap ('/' :: ·)

def hasHost (u : Url) : Bool :=
  match u.host with
  | none | some (.domain []) => false
  | _ => true

/-- The name and the password of a user. -/
def writeUser (u : Url) : List Char :=
  if u.username.isEmpty ∧ u.password.isEmpty then []
  else u.username ++ (if u.password.isEmpty then [] else ':' :: u.password) ++ ['@']

/-- What stands between the scheme and the path. A path that begins like a host is kept apart. -/
def writeAuthority (u : Url) : List Char :=
  match u.host with
  | some host =>
    ['/', '/'] ++ u.writeUser ++ host.write ++
      (match u.port with
        | some port => ':' :: Number.digits port
        | none => [])
  | none =>
    match u.path with
    | .segments ([] :: _ :: _) => ['/', '.']
    | _ => []

/-- An optional part behind its mark. -/
def writePart (mark : Char) : Option (List Char) → List Char
  | none => []
  | some text => mark :: text

/-- The path with the query. -/
def target (u : Url) : List Char :=
  writePath u.path ++ writePart '?' u.query

def write (u : Url) : String :=
  String.ofList (u.scheme ++ [':'] ++ u.writeAuthority ++ u.target ++ writePart '#' u.fragment)

/-- An address without its user, if the name of the user is text. -/
def withoutUser (u : Url) : Url :=
  let isText := (Utf8.decode? (Percent.read (Utf8.encode (String.ofList u.username)))).isSome
  if isText then { u with username := [], password := [] } else u

/-- An address with pairs behind its query; a query that stays empty is left out. -/
def addQuery (u : Url) (pairs : List (List Char)) : Url :=
  let old := (u.query.filter (¬·.isEmpty)).toList
  let query := ['&'].intercalate (old ++ pairs)
  { u with query := if query.isEmpty then none else some query }

end Url
end CosmosClient
