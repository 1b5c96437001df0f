import CosmosClient.Client.Basic
import CosmosClient.Timestamp
import CosmosClient.Tx

/-!
# Blocks and nodes
-/

namespace CosmosClient

/-- A block with the names of its transactions. -/
structure Block where
  height : Int64
  hash : String
  time : Timestamp
  txhashes : List String
  chainId : String
  deriving DecidableEq, Repr

/-- A node of a chain with the program that it runs. -/
structure Node where
  network : String
  moniker : String
  version : String
  appName : String
  appVersion : String
  sdkVersion : String
  deriving DecidableEq, Repr

namespace Node

def nodeOfJson : Json.Decoder (String × String × String) := fun j => do
  let (network, moniker, version) ← Json.record
    [Json.slot "network" false Json.text fun x s => (some x, s.2),
      Json.slot "moniker" true Json.text fun x s => (s.1, x, s.2.2),
      Json.slot "version" true Json.text fun x s => (s.1, s.2.1, x)]
    ((none : Option String), "", "") j
  return (← Json.require network, moniker, version)

def programOfJson : Json.Decoder (String × String × String) :=
  Json.record
    [Json.slot "app_name" true Json.text fun x s => (x, s.2),
      Json.slot "version" true Json.text fun x s => (s.1, x, s.2.2),
      Json.slot "cosmos_sdk_version" true Json.text fun x s => (s.1, s.2.1, x)]
    ("", "", "")

def ofJson : Json.Decoder Node := fun j => do
  let (node, program) ← Json.record
    [Json.slot "default_node_info" false nodeOfJson fun x s => (some x, s.2),
      Json.slot "application_version" true programOfJson fun x s => (s.1, x)]
    ((none : Option (String × String × String)), ("", "", "")) j
  let (network, moniker, version) ← Json.require node
  let (appName, appVersion, sdkVersion) := program
  return ⟨network, moniker, version, appName, appVersion, sdkVersion⟩

end Node

/-- A block as an endpoint reports it: the transactions are in Base64. -/
structure BlockReport where
  hash : Bytes
  chainId : String
  height : Int64
  time : Timestamp
  txs : List String
  deriving DecidableEq, Repr

namespace BlockReport

def hashOfJson : Json.Decoder Bytes := fun j => do
  Json.require (← Json.record [Json.slot "hash" false Json.base64 fun x _ => some x] none j)

def headerOfJson : Json.Decoder (String × Int64 × Timestamp) := fun j => do
  let (chainId, height, time) ← Json.record
    [Json.slot "chain_id" false Json.text fun x s => (some x, s.2),
      Json.slot "height" false (Json.textOf fun s => (Number.readInt64 s.toList).toOption)
        fun x s => (s.1, some x, s.2.2),
      Json.slot "time" false (Json.textOf fun s => Timestamp.readLoose? s.toList)
        fun x s => (s.1, s.2.1, some x)]
    ((none : Option String), (none : Option Int64), (none : Option Timestamp)) j
  return (← Json.require chainId, ← Json.require height, ← Json.require time)

/-- Reads the transactions; there may be none. -/
def txsOfJson : Json.Decoder (List String) := fun j => do
  let txs ← Json.record
    [Json.slot "txs" true (Json.optional (Json.list Json.text)) fun x _ => x]
    (none : Option (List String)) j
  return txs.getD []

/-- Reads the header and the transactions. -/
def contentOfJson : Json.Decoder ((String × Int64 × Timestamp) × List String) := fun j => do
  let (header, txs) ← Json.record
    [Json.slot "header" false headerOfJson fun x s => (some x, s.2),
      Json.slot "data" false txsOfJson fun x s => (s.1, some x)]
    ((none : Option (String × Int64 × Timestamp)), (none : Option (List String))) j
  return (← Json.require header, ← Json.require txs)

def ofJson : Json.Decoder BlockReport := fun j => do
  let (hash, content) ← Json.record
    [Json.slot "block_id" false hashOfJson fun x s => (some x, s.2),
      Json.slot "block" false contentOfJson fun x s => (s.1, some x)]
    ((none : Option Bytes), (none : Option ((String × Int64 × Timestamp) × List String))) j
  let hash ← Json.require hash
  let ((chainId, height, time), txs) ← Json.require content
  return ⟨hash, chainId, height, time, txs⟩

/-- The name of a transaction in a block. -/
def txhash (tx : String) : Except Failure String :=
  match Base64.readCanonical tx with
  | .ok b => .ok (Tx.hashBytes b)
  | .error fault => .error ⟨[s!"Invalid base64 transaction in block: {tx}"], .base64 fault⟩

/-- The block that is reported. -/
def block (r : BlockReport) : Except Failure Block :=
  (r.txs.mapM txhash).map fun txhashes =>
    ⟨r.height, Hex.writeUpper r.hash, r.time, txhashes, r.chainId⟩

end BlockReport

namespace Client

/-- What a node says of itself. -/
def nodeInfo : ExceptT RequestError Program Node :=
  get Node.ofJson "/cosmos/base/tendermint/v1beta1/node_info"

def blockPath (name : String) : String :=
  "/cosmos/base/tendermint/v1beta1/blocks/" ++ name

def latestBlock : ExceptT Failure Program Block := do
  let report ← failing (get BlockReport.ofJson (blockPath "latest"))
  report.block

/-- The block at a height, which must be the one that is reported. -/
def blockAt (height : Int64) : ExceptT Failure Program Block := do
  let report ← failing (get BlockReport.ofJson (blockPath (Number.writeInt height.toInt)))
  let block ← report.block
  if height = block.height then return block
  else
    let got := Number.writeInt block.height.toInt
    let expected := Number.writeInt height.toInt
    throw (Failure.text s!"Mismatched height from blockchain. Got {got}, expected {expected}")

/-- The text between the first two places where a phrase occurs, or after the only one. -/
def afterPhrase? (phrase cs : List Char) : Option (List Char) :=
  (Text.after? phrase cs).map (Text.upTo phrase)

/-- Reads the number behind a phrase, which may be in parentheses. -/
def heightAfter? (phrase message : List Char) : Option Int64 := do
  let cs := Text.trim (← afterPhrase? phrase message)
  (Number.readInt64 ((Text.stripEnd? [')'] cs).getD cs)).toOption

/-- The lowest height of which a node without older blocks complains. -/
def lowestHeight? (message : String) : Option Int64 :=
  ["lowest height is", "base height: "].findSome? fun phrase =>
    heightAfter? phrase.toList message.toList

/-- The earliest block that the node still has. -/
def earliestBlock : ExceptT Failure Program Block := do
  match ← ExceptT.lift (get BlockReport.ofJson (blockPath "1")).run with
  | .ok report => report.block
  | .error e =>
    match e.endpointMessage.bind lowestHeight? with
    | some height => blockAt height
    | none => throw e.toFailure

/-- Checks that the node serves the chain of the configuration. -/
def sanityCheck (c : ClientConfig) : ExceptT Failure Program Unit := do
  let actual := (← latestBlock).chainId
  let expected := c.chainId
  if actual = expected then return ()
  else throw (Failure.text s!"Mismatched chain IDs. Actual: {actual}. Expected: {expected}.")

end Client
end CosmosClient
