import CosmosClient.Json.Basic
import CosmosClient.Text.Base64
import CosmosClient.Text.Basic
import CosmosClient.Text.Quoted
import CosmosClient.Url.Basic
import CosmosClient.Wire.Decode

/-!
# Errors

`ParseError` arises when data of the chain is converted, `RequestError` when an endpoint is asked.
A `Failure` of a larger operation is one cause with the contexts in which it arose, outermost first.
-/

namespace CosmosClient

/-- An error converting between JSON, protocol buffers and the types of this library. -/
inductive ParseError where
  | unsupportedMessage (typeUrl : String)
  | unsupportedPublicKey (typeUrl : String)
  | invalidCoinAmount (denom amount : String)
  | missingField (field context : String)
  | unknownSignMode (mode : Int)
  | invalidValue (field value : String)
  | decode (typeUrl : String) (cause : Wire.Error)
  | json (typeUrl : String) (cause : Json.Fault)
  deriving DecidableEq, Repr

/-- The wording of an error, without the cause of a decoding error. -/
def ParseError.message : ParseError → String
  | .unsupportedMessage typeUrl => s!"Unsupported message type: {typeUrl}"
  | .unsupportedPublicKey typeUrl => s!"Unsupported public key type: {typeUrl}"
  | .invalidCoinAmount denom amount => s!"Invalid amount {Quoted.write amount} for denom {denom}"
  | .missingField field context => s!"Missing field {field} in {context}"
  | .unknownSignMode mode => s!"Unknown sign mode {mode}"
  | .invalidValue field value => s!"Invalid value for {field}: {value}"
  | .decode typeUrl _ => s!"Unable to decode protobuf for {typeUrl}"
  | .json typeUrl _ => s!"Invalid JSON for {typeUrl}"

/-- The wording of an error with the cause of a decoding error. -/
def ParseError.detail : ParseError → String
  | .decode typeUrl cause => s!"Unable to decode protobuf for {typeUrl}: {cause.message}"
  | e => e.message

/-- Why a request has no answer. -/
inductive NetworkFault where
  /-- The request cannot be made; its address is known if it is an address at all. -/
  | unusable (url : Option Url)
  /-- The request was not answered. -/
  | unanswered (url : Url)
  deriving DecidableEq, Repr

def NetworkFault.message : NetworkFault → String
  | .unusable none => "builder error"
  | .unusable (some url) => s!"builder error for url ({url.write})"
  | .unanswered url => s!"error sending request for url ({url.write})"

/-- An error asking an endpoint. -/
inductive RequestError where
  /-- The endpoint could not be reached. -/
  | network (url : String) (cause : NetworkFault)
  | timeout (url : String) (seconds : Nat)
  /-- The endpoint answered with a status that is no success. -/
  | endpoint (url : String) (status : Nat) (code : Int) (message : String)
  /-- The endpoint answered with something else than was asked for. -/
  | invalidJson (url body : String)
  /-- The request could not be encoded. -/
  | encode (cause : ParseError)
  deriving DecidableEq, Repr

/-- The code of an endpoint for entities that do not exist. -/
def notFoundCode : Int := 5

namespace RequestError

/-- The wording of an error, without the cause of a network or parse error. -/
def message : RequestError → String
  | .network url _ => s!"Network error calling {url}"
  | .timeout url seconds => s!"Request to {url} timed out after {seconds} seconds"
  | .endpoint url status code message =>
    s!"LCD endpoint {url} returned HTTP status {status}, code {code}: {message}"
  | .invalidJson url body => s!"Unable to parse JSON response from {url}. Body: {body}"
  | .encode cause => s!"Unable to encode request: {cause.message}"

/-- The wording of an error with its cause. -/
def detail : RequestError → String
  | .network url cause => s!"Network error calling {url}: {cause.message}"
  | .encode cause => s!"Unable to encode request: {cause.detail}"
  | e => e.message

/-- Whether the endpoint reported that the entity does not exist. -/
def isNotFound : RequestError → Bool
  | .endpoint _ status code message =>
    status == 404 || code == notFoundCode || Text.holds "not found".toList message.toList
  | _ => false

theorem isNotFound_iff {e : RequestError} :
    e.isNotFound ↔ ∃ url status code message, e = .endpoint url status code message ∧
      (status = 404 ∨ code = 5 ∨ Text.holds "not found".toList message.toList) := by
  constructor
  · intro h
    cases e with
    | endpoint url status code message =>
      exact ⟨url, status, code, message, rfl, by simpa [isNotFound, notFoundCode, or_assoc] using h⟩
    | _ => simp [isNotFound] at h
  · rintro ⟨url, status, code, message, rfl, h⟩
    simpa [isNotFound, notFoundCode, or_assoc] using h

/-- The message reported by the endpoint. -/
def endpointMessage : RequestError → Option String
  | .endpoint _ _ _ message => some message
  | _ => none

theorem endpointMessage_eq_some {e : RequestError} {message : String} :
    e.endpointMessage = some message ↔
      ∃ url status code, e = .endpoint url status code message := by
  cases e <;> simp [endpointMessage]

/-- Whether the request is worth another attempt. -/
def isRetryable : RequestError → Bool
  | .network _ _ | .timeout _ _ => true
  | .endpoint _ status _ _ => status == 429 || status == 502 || status == 503 || status == 504
  | .invalidJson _ _ | .encode _ => false

end RequestError

/-- What ends a chain of contexts. -/
inductive Cause where
  | text (message : String)
  | parse (e : ParseError)
  | request (e : RequestError)
  | json (fault : Json.Fault)
  | base64 (fault : Base64Fault)
  | timestamp
  deriving DecidableEq, Repr

/-- The failure of a larger operation. -/
structure Failure where
  contexts : List String
  cause : Cause
  deriving DecidableEq, Repr

namespace Failure

/-- A failure with a message of its own. -/
def text (message : String) : Failure := ⟨[], .text message⟩

/-- A failure within a context. -/
def within (context : String) (f : Failure) : Failure :=
  { f with contexts := context :: f.contexts }

/-- The outermost message. -/
def headline (f : Failure) : String :=
  match f.contexts, f.cause with
  | context :: _, _ => context
  | [], .text message => message
  | [], .parse e => e.detail
  | [], .request e => e.detail
  | [], .json _ => "json"
  | [], .base64 fault => fault.message
  | [], .timestamp => "timestamp"

end Failure

/-- A result with a failure in a context. -/
def inContext {α : Type} (context : String) (r : Except Failure α) : Except Failure α :=
  r.mapError (Failure.within context)

def ParseError.toFailure (e : ParseError) : Failure := ⟨[], .parse e⟩

def RequestError.toFailure (e : RequestError) : Failure := ⟨[], .request e⟩

end CosmosClient
