import CosmosClient.Error
import CosmosClient.Json.Decode
import CosmosClient.Text.Bech32

/-!
# Addresses

A raw address is 20 or 32 bytes. On a chain it is written in Bech32 behind the prefix of the chain.
-/

namespace CosmosClient

/-- The bytes of an address. -/
structure RawAddress where
  bytes : Bytes
  size : bytes.length = 20 ∨ bytes.length = 32
  deriving DecidableEq

namespace RawAddress

/-- Bytes as an address, if there are 20 or 32. -/
def ofBytes? (bytes : Bytes) : Option RawAddress :=
  if h : bytes.length = 20 ∨ bytes.length = 32 then some ⟨bytes, h⟩ else none

/-- Bytes as an address, or the failure that there are more or fewer. -/
def ofBytes (bytes : Bytes) : Except Failure RawAddress :=
  match ofBytes? bytes with
  | some raw => .ok raw
  | none =>
    .error ⟨["Invalid data size for a RawAddress, need either 20 or 32 bytes"],
      .text "could not convert slice to array"⟩

/-- An address in Bech32 behind any prefix. -/
def write (raw : RawAddress) (hrp : List Char) : Except Bech32Fault (List Char) :=
  Bech32.write .bech32 hrp (Bech32.groupsOfBytes raw.bytes)

/-- Reads an address behind any prefix. -/
def read (cs : List Char) : Except Failure (List Char × RawAddress) := do
  let (hrp, groups, variant) ←
    inContext "Invalid bech32 data" ((Bech32.read cs).mapError fun e => Failure.text e.message)
  if variant = .bech32m then .error (Failure.text "Must use Bech32 variant")
  else
    let bytes ← (Bech32.bytesOfGroups groups).mapError fun e => Failure.text e.message
    let raw ← inContext s!"Total bytes found: {bytes.length}" (ofBytes bytes)
    return (hrp, raw)

end RawAddress

/-- The known prefixes of addresses. -/
inductive Hrp where
  | cosmos
  | cosmosValoper
  | cosmosValcons
  | terra
  | terraValoper
  | osmo
  | juno
  deriving DecidableEq, Repr

namespace Hrp

def all : List Hrp :=
  [.cosmos, .cosmosValoper, .cosmosValcons, .terra, .terraValoper, .osmo, .juno]

def text : Hrp → String
  | .cosmos => "cosmos"
  | .cosmosValoper => "cosmosvaloper"
  | .cosmosValcons => "cosmosvalcons"
  | .terra => "terra"
  | .terraValoper => "terravaloper"
  | .osmo => "osmo"
  | .juno => "juno"

def name : Hrp → String
  | .cosmos => "Cosmos"
  | .cosmosValoper => "CosmosValoper"
  | .cosmosValcons => "CosmosValcons"
  | .terra => "Terra"
  | .terraValoper => "TerraValoper"
  | .osmo => "Osmo"
  | .juno => "Juno"

def ofText? (s : String) : Option Hrp :=
  all.find? fun hrp => hrp.text == s

def read (s : String) : Except Failure Hrp :=
  match ofText? s with
  | some hrp => .ok hrp
  | none => .error (Failure.text s!"Unsupported address prefix {Quoted.write s}")

end Hrp

/-- An address on a chain. -/
structure Address where
  raw : RawAddress
  hrp : Hrp
  deriving DecidableEq

namespace Address

def chars (a : Address) : List Char :=
  (a.raw.write a.hrp.text.toList).toOption.getD []

def write (a : Address) : String :=
  String.ofList a.chars

/-- The same bytes behind another prefix. -/
def withHrp (a : Address) (hrp : Hrp) : Address :=
  { a with hrp }

/-- Reads an address behind a known prefix. -/
def read (s : String) : Except Failure Address :=
  inContext s!"Unable to parse Cosmos address {s}" do
    let (hrp, raw) ← RawAddress.read s.toList
    let hrp ← Hrp.read (String.ofList hrp)
    return ⟨raw, hrp⟩

def toJson (a : Address) : Json := .str a.write

def ofJson : Json.Decoder Address :=
  Json.textOf fun s => (read s).toOption

end Address
end CosmosClient
