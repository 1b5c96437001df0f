import CosmosClient.Client.Basic
import CosmosClient.TxDraft
import CosmosClient.TxInfo

/-!
# Transactions on a chain

Transactions are simulated, broadcast, and looked for until they are in a block.
-/

namespace CosmosClient

/-- How long a broadcast takes. -/
inductive BroadcastMode where
  /-- Until the transaction has been checked. -/
  | sync
  /-- Not at all. -/
  | async
  /-- Until the transaction is in a block. -/
  | block
  deriving DecidableEq, Repr

def BroadcastMode.requestName : BroadcastMode → String
  | .sync | .block => "BROADCAST_MODE_SYNC"
  | .async => "BROADCAST_MODE_ASYNC"

/-- What a node says of a transaction that is broadcast. -/
structure Broadcast where
  /-- The block, or 0. -/
  height : Int64
  txhash : String
  /-- Why the transaction is not accepted, or 0. -/
  code : UInt32
  codespace : String
  rawLog : String
  /-- The transaction in its block, if it was waited for. -/
  info : Option TxInfo
  deriving BEq

namespace Broadcast

def isSuccess (b : Broadcast) : Bool := b.code == 0

def ofJson : Json.Decoder Broadcast := fun j => do
  let (txhash, b) ← Json.record
    [Json.slot "height" true Json.looseInt64
        fun x (s : Option String × Broadcast) => (s.1, { s.2 with height := x }),
      Json.slot "txhash" false Json.text fun x s => (some x, s.2),
      Json.slot "code" true Json.uint32 fun x s => (s.1, { s.2 with code := x }),
      Json.slot "codespace" true Json.text fun x s => (s.1, { s.2 with codespace := x }),
      Json.slot "raw_log" true Json.text fun x s => (s.1, { s.2 with rawLog := x })]
    (none, ⟨0, "", 0, "", "", none⟩) j
  return { b with txhash := ← Json.require txhash }

end Broadcast

/-- The gas that a simulation wanted and used. -/
structure GasInfo where
  wanted : UInt64
  used : UInt64
  deriving DecidableEq, Repr

def GasInfo.ofJson : Json.Decoder GasInfo := fun j => do
  let (wanted, used) ← Json.record
    [Json.slot "gas_wanted" false Json.looseUInt64 fun x s => (some x, s.2),
      Json.slot "gas_used" false Json.looseUInt64 fun x s => (s.1, some x)]
    ((none : Option UInt64), (none : Option UInt64)) j
  return ⟨← Json.require wanted, ← Json.require used⟩

namespace Client

/-- Reads an answer that is one field. -/
def only {α : Type} (name : String) (decode : Json.Decoder α) : Json.Decoder α := fun j => do
  Json.require (← Json.record [Json.slot name false decode fun x _ => some x] none j)

def simulatePath : String := "/cosmos/tx/v1beta1/simulate"

def txsPath : String := "/cosmos/tx/v1beta1/txs"

/-- Simulates a transaction; its signatures need not be valid. -/
def simulate (t : Tx) : ExceptT RequestError Program GasInfo := do
  let text ← t.toBase64.mapError RequestError.encode
  post (only "gas_info" GasInfo.ofJson) simulatePath (.obj [("tx_bytes", .str text)])

/-- The gas to ask for when a simulation has used some. -/
def adjustedGas (used : UInt64) (adjustment : Float) : UInt64 :=
  UInt64.ofNat (Binary.clamp (UInt64.size - 1) (Binary.ofFloat (used.toFloat * adjustment).ceil))

/-- The fee for an amount of gas at a multiple of the prices. -/
def feeForGas (c : ClientConfig) (d : TxDraft) (gas : UInt64) (multiplier : Option Float) : Fee :=
  let prices := d.gasPrices.getD c.gasPrices
  let prices := match multiplier with
    | none => prices
    | some multiplier => prices.scaled multiplier
  Fee.ofGas gas (prices.feeFor gas (d.feeDenoms.or c.feeDenoms))

/-- The transaction of a draft with a fee and a place for each signer. -/
def unsignedTx (d : TxDraft) (fee : Fee) (signers : List SignerData) : Tx :=
  (Tx.unsigned d.body fee).appendEmptySignatures signers

/-- Estimates the fee of a draft by simulating it. -/
def estimateFee (c : ClientConfig) (signers : List SignerData) (d : TxDraft) :
    ExceptT RequestError Program Fee := do
  let gas ← simulate (unsignedTx d (Fee.ofGas 0 Coins.empty) signers)
  let adjustment := d.gasAdjustment.getD c.gasAdjustment
  return feeForGas c d (adjustedGas gas.used adjustment) none

/-- Looks for a transaction. -/
def txInfo (txhash : String) : ExceptT RequestError Program TxInfo :=
  get (only "tx_response" TxInfo.ofJson) (txsPath ++ "/" ++ txhash)

/-- The seconds between two looks for a transaction. -/
def delay : Nat := 2

/-- Looks for a transaction up to a number of times. -/
def waitFor (txhash : String) : Nat → ExceptT Failure Program TxInfo
  | 0 => throw (Failure.text s!"Timed out waiting for {txhash} to be ready")
  | attempts + 1 => do
    match ← ExceptT.lift (txInfo txhash).run with
    | .ok info => return info
    | .error e =>
      if e.isNotFound then
        pause delay
        waitFor txhash attempts
      else throw (e.toFailure.within s!"Unable to get transaction {txhash}")

/-- Looks for a transaction as often as the configuration says. -/
def waitForTx (c : ClientConfig) (txhash : String) : ExceptT Failure Program TxInfo :=
  waitFor txhash c.transactionAttempts.toNat

/-- Sends a signed transaction to the chain. -/
def sendTx (t : Tx) (mode : BroadcastMode) : ExceptT Failure Program Broadcast := do
  let text ← t.toBase64.mapError ParseError.toFailure
  failingIn "Unable to broadcast transaction"
    (post (only "tx_response" Broadcast.ofJson) txsPath
      (.obj [("tx_bytes", .str text), ("mode", .str mode.requestName)]))

/-- Broadcasts a signed transaction; in block mode it is then waited for. -/
def broadcast (c : ClientConfig) (t : Tx) (mode : BroadcastMode) :
    ExceptT Failure Program Broadcast := do
  let b ← sendTx t mode
  if mode ≠ .block ∨ ¬b.isSuccess then return b
  else
    let info ← waitForTx c b.txhash
    return { b with
      height := info.height
      code := info.code.getD 0
      codespace := info.codespace.getD ""
      rawLog := info.rawLog
      info := some info }

def txListOfJson : Json.Decoder (List TxInfo) :=
  Json.record [Json.slot "tx_responses" true (Json.list TxInfo.ofJson) fun x _ => x] []

/-- The transactions that an address has sent, the oldest first. -/
def txsBySender (address : String) (limit offset : Option UInt64) :
    ExceptT RequestError Program (List TxInfo) :=
  fetch txListOfJson {
    path := txsPath
    query := [("events", s!"message.sender='{address}'"),
      ("pagination.limit", Number.write (limit.getD 10).toNat),
      ("pagination.offset", Number.write (offset.getD 0).toNat),
      ("order_by", "ORDER_BY_ASC")] }

end Client
end CosmosClient
