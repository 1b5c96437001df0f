import CosmosClient.GasPrices
import CosmosClient.Tx

/-!
# Drafts of transactions

The messages of a transaction with the options to create, sign and broadcast it. What is left open
is asked of the chain or taken from the configuration of the client.
-/

namespace CosmosClient

/-- A transaction to be made. -/
structure TxDraft where
  messages : List Message := []
  memo : Option String := none
  /-- The last block that may hold the transaction. -/
  timeoutHeight : Option UInt64 := none
  /-- A fee that is used as it is. -/
  fee : Option Fee := none
  /-- The gas to ask for instead of simulating. -/
  gasLimit : Option UInt64 := none
  gasPrices : Option GasPrices := none
  gasAdjustment : Option Float := none
  feeDenoms : Option (List String) := none
  accountNumber : Option UInt64 := none
  sequence : Option UInt64 := none
  signMode : Option SignMode := none
  /-- Whether a transaction that failed counts as success. -/
  skipCodeCheck : Bool := false

namespace TxDraft

def ofMessage (m : Message) : TxDraft := { messages := [m] }

def addMessage (d : TxDraft) (m : Message) : TxDraft :=
  { d with messages := d.messages ++ [m] }

def addSend (d : TxDraft) (source target : Address) (amount : Coins) : TxDraft :=
  d.addMessage (.send source.write target.write amount)

/-- How the transaction is to be signed. -/
def mode (d : TxDraft) : SignMode := d.signMode.getD .direct

/-- The messages and the memo in words. -/
def describe (d : TxDraft) : String :=
  Text.join "; " (d.messages.map Message.describe) ++
    match d.memo with
    | none => ""
    | some memo => s!" (memo: {memo})"

def body (d : TxDraft) : TxBody :=
  ⟨d.messages, d.memo.getD "", d.timeoutHeight.getD 0⟩

end TxDraft
end CosmosClient
