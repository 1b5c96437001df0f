import CosmosClient.Client.Account
import CosmosClient.Client.Tx
import CosmosClient.Key

/-!
# Wallets

A wallet signs with its key for the chain of a client. The number and the sequence of its account are
asked of the chain unless a draft has them. When the chain expects another sequence, simulating and
broadcasting are repeated once with that one; when it wants a higher fee, the transaction is signed
again at higher gas prices.
-/

namespace CosmosClient

/-- A key with the client for a chain. -/
structure Wallet where
  config : ClientConfig
  key : Key

/-- A failure, with the sequence that the chain expects if it is about that. -/
structure Setback where
  expected : Option UInt64
  failure : Failure
  deriving DecidableEq, Repr

namespace Setback

/-- What precedes the expected sequence in a message. -/
def phrase : String := "account sequence mismatch, expected "

/-- The sequence that a line says is expected. -/
def expectedInLine? (line : List Char) : Option UInt64 := do
  let rest ← Text.after? phrase.toList line
  let (digits, _) ← Text.splitFirst? ',' rest
  (Number.readUInt64 digits).toOption

/-- The sequence that a message says is expected. -/
def expected? (message : String) : Option UInt64 :=
  (Text.lines message.toList).findSome? expectedInLine?

/-- A failure about something else. -/
def ofFailure (f : Failure) : Setback := ⟨none, f⟩

end Setback

/-- Why a transaction was not accepted. -/
inductive Refusal where
  | insufficientFee (failure : Failure)
  | setback (s : Setback)
  deriving DecidableEq, Repr

namespace Refusal

/-- The code of a transaction whose fee does not suffice. -/
def insufficientFeeCode : UInt32 := 13

/-- A refusal when no higher fee is to be tried. -/
def toSetback : Refusal → Setback
  | .insufficientFee f => Setback.ofFailure f
  | .setback s => s

/-- A failure as a refusal. -/
def ofFailure (f : Failure) : Refusal := .setback (Setback.ofFailure f)

end Refusal

/-- How the fees of a broadcast are found. -/
inductive FeePlan where
  /-- One fee as it is. -/
  | fixed (fee : Fee)
  /-- An amount of gas, at rising prices. -/
  | gas (amount : UInt64)
  deriving DecidableEq

namespace Wallet

variable {α : Type}

def address (w : Wallet) : Address := w.key.address w.config.hrp

/-- The number and the sequence of the account. -/
def numbers (w : Wallet) : ExceptT Failure Program (UInt64 × UInt64) := do
  let address := w.address.write
  let account ← Client.failingIn s!"Unable to load account {address}" (Client.account address)
  return (account.number, account.sequence)

/-- What is known of the wallet as a signer. -/
def signerData (w : Wallet) (sequence : UInt64) : SignerData := ⟨sequence, some w.key.publicKey⟩

/-- The number and the sequence to sign with. -/
def signingNumbers (w : Wallet) (d : TxDraft) : ExceptT Failure Program (UInt64 × UInt64) :=
  match d.accountNumber, d.sequence with
  | some number, some sequence => return (number, sequence)
  | number, sequence => do
    let (chainNumber, chainSequence) ← w.numbers
    return (number.getD chainNumber, sequence.getD chainSequence)

/-- The sequence to simulate with; an account that the chain does not know has the first one. -/
def simulationSequence (w : Wallet) (d : TxDraft) : ExceptT Failure Program UInt64 :=
  match d.sequence with
  | some sequence => return sequence
  | none => do
    let address := w.address.write
    match ← ExceptT.lift (Client.account address).run with
    | .ok account => return account.sequence
    | .error e =>
      if e.isNotFound then return 0
      else throw (e.toFailure.within s!"Unable to load account {address}")

/-- Estimates the fee at a sequence. -/
def estimateAt (w : Wallet) (d : TxDraft) (sequence : UInt64) : ExceptT Setback Program Fee :=
  (Client.estimateFee w.config [w.signerData sequence] d).adapt fun e =>
    ⟨e.endpointMessage.bind Setback.expected?,
      e.toFailure.within "Unable to simulate transaction"⟩

/-- Does something at a sequence, and once more if the chain expects another one. -/
def withSequence (sequence : UInt64) (step : UInt64 → ExceptT Setback Program α) :
    ExceptT Failure Program (α × UInt64) := do
  match ← ExceptT.lift (step sequence).run with
  | .ok a => return (a, sequence)
  | .error ⟨none, f⟩ => throw f
  | .error ⟨some expected, _⟩ =>
    let a ← (step expected).adapt Setback.failure
    return (a, expected)

/-- Estimates the fee, and finds the sequence at which that works. -/
def estimateWithSequence (w : Wallet) (d : TxDraft) (sequence : UInt64) :
    ExceptT Failure Program (Fee × UInt64) :=
  withSequence sequence (w.estimateAt d)

/-- Estimates the fee of a draft. -/
def estimateFee (w : Wallet) (d : TxDraft) : ExceptT Failure Program Fee := do
  let sequence ← w.simulationSequence d
  return (← w.estimateWithSequence d sequence).1

/-- The fee of a draft, for its gas, or estimated. -/
def resolveFee (w : Wallet) (d : TxDraft) (sequence : UInt64) :
    ExceptT Failure Program (Fee × UInt64) :=
  match d.fee, d.gasLimit with
  | some fee, _ => return (fee, sequence)
  | none, some gas => return (Client.feeForGas w.config d gas none, sequence)
  | none, none => w.estimateWithSequence d sequence

/-- The transaction of a draft, not signed yet. -/
def createTx (w : Wallet) (d : TxDraft) : ExceptT Failure Program Tx := do
  let sequence ← w.simulationSequence d
  let (fee, sequence) ← w.resolveFee d sequence
  return Client.unsignedTx d fee [w.signerData sequence]

/-- The transaction of a draft, signed. -/
def signWith (w : Wallet) (d : TxDraft) (fee : Fee) (accountNumber sequence : UInt64) :
    Except Failure Tx :=
  let (t, result) := w.key.signTx (Client.unsignedTx d fee [w.signerData sequence])
    ⟨w.config.chainId, accountNumber, sequence, d.mode⟩
  result.map fun _ => t

/-- The transaction of a draft, signed and ready to be broadcast. -/
def createAndSign (w : Wallet) (d : TxDraft) : ExceptT Failure Program Tx := do
  let (number, sequence) ← w.signingNumbers d
  let (fee, sequence) ← w.resolveFee d sequence
  w.signWith d fee number sequence

/-- The refusal of a transaction by the node that it was sent to. -/
def refusal (b : Broadcast) : Refusal :=
  let code := Number.write b.code.toNat
  let f := Failure.text
    s!"Initial transaction broadcast failed with code {code}. Raw log: {b.rawLog}"
  if b.code = Refusal.insufficientFeeCode then .insufficientFee f
  else .setback ⟨Setback.expected? b.rawLog, f⟩

/-- Signs a draft with a fee, broadcasts it and waits for it. -/
def submit (w : Wallet) (d : TxDraft) (accountNumber sequence : UInt64) (fee : Fee) :
    ExceptT Refusal Program TxInfo := do
  let t ← (w.signWith d fee accountNumber sequence).mapError Refusal.ofFailure
  let b ← (Client.broadcast w.config t .sync).adapt Refusal.ofFailure
  if ¬d.skipCodeCheck ∧ ¬b.isSuccess then throw (refusal b)
  else
    let info ← (Client.waitForTx w.config b.txhash).adapt Refusal.ofFailure
    if ¬d.skipCodeCheck ∧ ¬info.isSuccess then
      let code := Number.write (info.code.getD 0).toNat
      throw (Refusal.ofFailure
        (Failure.text s!"Transaction failed with code {code}. Raw log: {info.rawLog}"))
    else return info

/-- The multiple of the gas prices on an attempt: from 1 in even steps to the greatest. -/
def priceMultiplier (attempt attempts : UInt64) (greatest : Float) : Float :=
  if attempts ≤ attempt then greatest
  else
    let step := (greatest - 1.0) / attempts.toFloat
    1.0 + step * attempt.toFloat

/-- Submits a draft at rising prices, with as many attempts left before the highest one. -/
def climb (w : Wallet) (d : TxDraft) (accountNumber sequence gas : UInt64) :
    Nat → ExceptT Setback Program TxInfo
  | 0 =>
    let fee := Client.feeForGas w.config d gas (some w.config.gasPriceMaxMultiplier)
    (w.submit d accountNumber sequence fee).adapt Refusal.toSetback
  | left + 1 => do
    let attempts := w.config.gasPriceRetries
    let attempt := attempts - UInt64.ofNat (left + 1)
    let multiplier := priceMultiplier attempt attempts w.config.gasPriceMaxMultiplier
    let fee := Client.feeForGas w.config d gas (some multiplier)
    match ← ExceptT.lift (w.submit d accountNumber sequence fee).run with
    | .ok info => return info
    | .error (.insufficientFee _) => climb w d accountNumber sequence gas left
    | .error (.setback s) => throw s

/-- Signs and broadcasts a draft at a sequence with the fees of a plan. -/
def submitPlan (w : Wallet) (d : TxDraft) (accountNumber : UInt64) (plan : FeePlan)
    (sequence : UInt64) : ExceptT Setback Program TxInfo :=
  match plan with
  | .fixed fee => (w.submit d accountNumber sequence fee).adapt Refusal.toSetback
  | .gas amount => w.climb d accountNumber sequence amount w.config.gasPriceRetries.toNat

/-- The plan for a draft, with the sequence to begin with. -/
def plan (w : Wallet) (d : TxDraft) (sequence : UInt64) :
    ExceptT Failure Program (FeePlan × UInt64) :=
  match d.fee, d.gasLimit with
  | some fee, _ => return (.fixed fee, sequence)
  | none, some gas => return (.gas gas, sequence)
  | none, none => do
    let (fee, sequence) ← w.estimateWithSequence d sequence
    return (.gas fee.gasLimit, sequence)

/-- Signs and broadcasts a draft, and waits until it is in a block. -/
def broadcast (w : Wallet) (d : TxDraft) : ExceptT Failure Program TxInfo := do
  let (number, sequence) ← w.signingNumbers d
  let (plan, sequence) ← w.plan d sequence
  return (← withSequence sequence (w.submitPlan d number plan)).1

/-- Broadcasts one message. -/
def broadcastMessage (w : Wallet) (m : Message) : ExceptT Failure Program TxInfo :=
  w.broadcast (TxDraft.ofMessage m)

/-- Sends coins of the wallet to an address. -/
def sendCoins (w : Wallet) (target : Address) (amount : Coins) : ExceptT Failure Program TxInfo :=
  w.broadcast (({} : TxDraft).addSend w.address target amount)

end Wallet
end CosmosClient
