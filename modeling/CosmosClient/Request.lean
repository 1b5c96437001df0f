import CosmosClient.ClientConfig
import CosmosClient.Course
import CosmosClient.Error
import CosmosClient.Json.Decode
import CosmosClient.Json.Printer
import CosmosClient.Url.Reader

/-!
# Requests

A request is made in attempts. Each goes to the next of the endpoints in turn, and failures that may
pass are followed by another attempt, up to a number of them. The endpoints are given by the replies
that they will send.
-/

namespace CosmosClient

/-- What is asked of an endpoint. -/
structure Request where
  path : String
  query : List (String × String) := []
  /-- The body of a request that sends something. -/
  body : Option Json := none
  /-- The height of the block whose state is asked for. -/
  height : Option UInt64 := none
  deriving BEq

namespace Request

/-- A text within a query: a blank as a plus sign, letters, digits and four marks as they are. -/
def escape (s : String) : List Char :=
  let keeps (c : Char) : Bool := c.isAlphanum || "*-._".toList.contains c
  s.toList.flatMap fun c => if c = ' ' then ['+'] else Percent.escape keeps c

/-- A pair of a query. -/
def escapePair (pair : String × String) : List Char :=
  escape pair.1 ++ ['='] ++ escape pair.2

/-- Whether a text may stand in a header. -/
def fitsHeader (s : String) : Bool :=
  s.toList.all fun c => c = '\t' ∨ (0x20 ≤ c.toNat ∧ c.toNat ≠ 0x7F)

/-- The greatest length of an address in bytes. -/
def maxUrlSize : Nat := 65534

/-- Whether a request can be sent to an address: one of the web, without certain marks in its
host. -/
def isSendable (u : Url) : Bool :=
  let marks := "\"`\x7b\x7d".toList
  ["http", "https"].any (fun scheme => scheme.toList == u.scheme) &&
    (u.host.toList.flatMap Host.write).all (fun c => ¬marks.contains c) &&
    u.write.utf8ByteSize ≤ maxUrlSize

/-- The address that a request goes to, given the text of the address, or why it cannot be made. A
user named in the address goes into a header. -/
def address (referer : Option String) (r : Request) (text : String) : Except NetworkFault Url :=
  match Url.read? text with
  | none => .error (.unusable none)
  | some u =>
    if ¬u.hasHost then .error (.unusable (some u))
    else
      let u := u.withoutUser
      let u := if r.body.isNone then u.addQuery (r.query.map escapePair) else u
      if ¬referer.all fitsHeader then .error (.unusable none)
      else if isSendable u then .ok u
      else .error (.unusable (some u))

/-- What is wrong when there is no answer. -/
def fault (referer : Option String) (r : Request) (text : String) : NetworkFault :=
  match address referer r text with
  | .ok u => .unanswered u
  | .error fault => fault

end Request

/-- What an endpoint does on an attempt. -/
inductive Reply where
  | answer (status : Nat) (body : String)
  /-- The connection ends without an answer. -/
  | dropped
  /-- No answer comes in time. -/
  | hung
  deriving DecidableEq, Repr

/-- The content of an answer with the address it came from. -/
structure Page where
  url : String
  body : String
  deriving DecidableEq, Repr

/-- The result of a request: the first success, or the last error. -/
abbrev Response := Except RequestError Page

/-- A course of single attempts, each answered by the address that was asked and its reply. -/
abbrev Attempts := Course Request (String × Reply)

/-- A course of requests. -/
abbrev Program := Course Request Response

namespace Reply

/-- Reads the code and the message of an endpoint that reports an error. -/
def errorOfJson : Json.Decoder (Int64 × String) :=
  Json.record
    [Json.slot "code" true Json.int64 fun x s => (x, s.2),
      Json.slot "message" true Json.text fun x s => (s.1, x)]
    ((0 : Int64), "")

/-- The code and the message in the body of a reply that is no success; without a message the whole
body is the message. -/
def errorOf (body : String) : Int × String :=
  match Json.decodeText errorOfJson body with
  | .ok (code, message) => if message = "" then (0, body) else (code.toInt, message)
  | .error _ => (0, body)

/-- What a reply means for the request, given what is wrong if there is none. -/
def response (timeout : Nat) (url : String) (fault : NetworkFault) : Reply → Response
  | .answer status body =>
    if 200 ≤ status ∧ status < 300 then .ok ⟨url, body⟩
    else
      let (code, message) := errorOf body
      .error (.endpoint url status code message)
  | .dropped => .error (.network url fault)
  | .hung => .error (.timeout url timeout)

end Reply

namespace Request

/-- What a reply to a request means for a client. -/
def respond (c : ClientConfig) (r : Request) (url : String) (reply : Reply) : Response :=
  reply.response c.queryTimeout.toNat url (r.fault c.referer url)

/-- A request with a number of further attempts. -/
def attempts (c : ClientConfig) (r : Request) : Nat → Attempts Response
  | 0 => .ask r fun (url, reply) => .done (r.respond c url reply)
  | retries + 1 => .ask r fun (url, reply) =>
    match r.respond c url reply with
    | .ok page => .done (.ok page)
    | .error e => if e.isRetryable then attempts c r retries else .done (.error e)

/-- A request as the configuration wants it to be made. -/
def perform (c : ClientConfig) (r : Request) : Attempts Response :=
  r.attempts c c.queryRetries.toNat

end Request

/-- A program with its requests as they are made. -/
def Program.attempts {α : Type} (c : ClientConfig) (p : Program α) : Attempts α :=
  p.refine (Request.perform c)

/-- A request that has arrived at an endpoint. -/
structure Arrival where
  /-- The place of the endpoint. -/
  host : Nat
  /-- The address that the request went to. -/
  url : Url
  request : Request

/-- The endpoints of a client. -/
structure Hosts where
  /-- The address of each endpoint. -/
  urls : List String
  /-- The place of the endpoint that is asked next. -/
  turn : Nat := 0
  /-- What each request names as its origin. -/
  referer : Option String
  /-- Whether anything answers at an address. -/
  reaches : Url → Bool
  /-- The replies to come, whichever endpoint is asked. -/
  replies : List Reply
  /-- The reply when all of these have been sent. -/
  afterwards : Reply := .dropped
  /-- The requests that have arrived. -/
  log : List Arrival := []
  /-- The time that has passed. -/
  seconds : Nat := 0
  /-- How long a client waits for a reply. -/
  timeout : Nat

namespace Hosts

/-- An address without the slashes at its end. -/
def trimSlashes (url : String) : String :=
  String.ofList (url.toList.reverse.dropWhile fun c => c == '/').reverse

/-- The endpoints of a configuration with the replies to come. -/
def ofConfig (c : ClientConfig) (reaches : Url → Bool) (replies : List Reply) : Hosts :=
  { urls := c.urls.map trimSlashes, referer := c.referer, reaches, replies
    timeout := c.queryTimeout.toNat }

/-- Gives the turn to the next endpoint. -/
def advance (h : Hosts) : Hosts :=
  { h with turn := if h.turn + 1 < h.urls.length then h.turn + 1 else 0 }

/-- Takes a request at an address, and sends the next reply. -/
def take (h : Hosts) (arrival : Arrival) : Reply × Hosts :=
  let reply := h.replies.headD h.afterwards
  let waited := if reply = .hung then h.timeout else 0
  (reply, { h with
    replies := h.replies.tail
    log := h.log ++ [arrival]
    seconds := h.seconds + waited })

/-- The address of the endpoint whose turn it is, with the turn given to the next one. -/
def next (h : Hosts) : String × Hosts :=
  (h.urls.getD h.turn "", h.advance)

/-- Makes an attempt at the endpoint whose turn it is. -/
def attempt (h : Hosts) (r : Request) : (String × Reply) × Hosts :=
  let (base, later) := h.next
  let text := base ++ r.path
  match r.address h.referer text with
  | .ok url =>
    if h.reaches url then
      let (reply, later) := later.take ⟨h.turn, url, r⟩
      ((text, reply), later)
    else ((text, .dropped), later)
  | .error _ => ((text, .dropped), later)

/-- Lets time pass. -/
def pause (h : Hosts) (seconds : Nat) : Hosts :=
  { h with seconds := h.seconds + seconds }

/-- Runs a course of attempts. -/
def run {α : Type} (h : Hosts) (p : Attempts α) : α × Hosts :=
  p.run attempt pause h

end Hosts
end CosmosClient
