import CosmosClient.Client.Balance
import CosmosClient.Client.Block
import CosmosClient.CommandLine.Command
import CosmosClient.Dump
import CosmosClient.Wallet

/-!
# Running commands

A command writes a text and succeeds or fails; what was written before a failure stays.
-/

namespace CosmosClient.CommandLine

/-- What a command has written and how it ended. -/
structure Outcome where
  output : String
  result : Except Failure Unit

namespace Outcome

/-- Success with a text. -/
def wrote (output : String) : Outcome := ⟨output, .ok ()⟩

/-- Success with a text, or failure without one. -/
def ofExcept : Except Failure String → Outcome
  | .ok output => wrote output
  | .error f => ⟨"", .error f⟩

/-- A text before an outcome. -/
def after (output : String) (o : Outcome) : Outcome := { o with output := output ++ o.output }

end Outcome

def line (s : String) : String := s ++ "\n"

/-- The seed phrase and the path of a wallet: a coin type that is given is used in any case, and that
of the network where the wallet has no path. -/
def keySource (wallet : String) (coinType : Option UInt32) (standard : UInt32) :
    Except Failure KeySource := do
  let source ← KeySource.read wallet
  match coinType with
  | some coinType => return { source with path := { source.path with coinType } }
  | none =>
    if (Text.strip? "m/".toList (Text.trim wallet.toList)).isSome then return source
    else return { source with path := { source.path with coinType := standard } }

/-- The key of a wallet. -/
def deriveKey (wallet : String) (coinType : Option UInt32) (standard : UInt32) :
    Except Failure Key := do
  (← keySource wallet coinType standard).derive

/-- The text of a transaction before the place of the message that has no JSON form. -/
def textBeforeFault (messages : List Message) : List Char :=
  let level := 3
  let written := ((messages.map Message.toJson).takeWhile fun r => r.toOption.isSome).filterMap
    Except.toOption
  ['\x7b'] ++ Json.newline 1 ++ "\"body\": \x7b".toList ++ Json.newline 2 ++
    "\"messages\": [".toList ++
    written.flatMap (fun j => Json.newline level ++ Json.indentedChars level j ++ [',']) ++
    Json.newline level

/-- Writes a transaction, up to the first message that has no JSON form. -/
def writeTx (t : Tx) : Outcome :=
  match t.toJson with
  | .ok j => .wrote (line (Json.indented j))
  | .error e =>
    ⟨String.ofList (textBeforeFault t.body.messages), .error (Failure.text e.detail)⟩

def writeBlock (b : Block) : String :=
  let time := Timestamp.writeWith " " " UTC" b.time
  line s!"Chain ID: {b.chainId}" ++
    line s!"Height: {Number.writeInt b.height.toInt}" ++
    line s!"Timestamp: {time}" ++
    line s!"Block hash: {b.hash}" ++
    String.join (b.txhashes.zipIdx.map fun (txhash, i) =>
      line s!"Transaction #{Number.write (i + 1)}: {txhash}")

/-- The raw log of a transaction, indented if it is JSON. -/
def writeRawLog (rawLog : String) (pretty : Bool) : String :=
  if pretty then
    match Json.decodeText Json.any rawLog with
    | .error _ => line s!"Raw log is not JSON: {rawLog}"
    | .ok j => line (Json.indented j)
  else line s!"Raw log: {rawLog}"

def writeTxInfo (info : TxInfo) (complete pretty : Bool) : Outcome :=
  let head :=
    line s!"Height: {Number.writeInt info.height.toInt}" ++
      line s!"Code: {Number.write (info.code.getD 0).toNat}" ++
      String.join (info.codespace.toList.map fun codespace => line s!"Codespace: {codespace}") ++
      writeRawLog info.rawLog pretty ++
      line s!"Gas wanted: {Number.writeInt info.gasWanted.toInt}" ++
      line s!"Gas used: {Number.writeInt info.gasUsed.toInt}" ++
      line s!"Timestamp: {info.timestamp}" ++
      String.join (info.tx.body.messages.map fun m => line s!"Message: {m.describe}")
  if complete then
    let logs := (info.logs.getD []).zipIdx.map fun (l, i) =>
      line s!"Log #{Number.write i}: {l.dump.line}"
    let events := info.events.zipIdx.map fun (e, i) =>
      line s!"Event #{Number.write i}: {e.dump.line}"
    (writeTx info.tx).after (head ++ String.join logs ++ String.join events)
  else .wrote head

def writeAccount (a : Account) : String :=
  let key := match a.publicKey with
    | some key => Json.compact key.toJson
    | none => "none"
  line s!"Address: {a.address}" ++ line s!"Account number: {Number.write a.number.toNat}" ++
    line s!"Sequence: {Number.write a.sequence.toNat}" ++ line s!"Public key: {key}"

def writeNode (n : Node) : String :=
  line s!"Network: {n.network}" ++ line s!"Moniker: {n.moniker}" ++
    line s!"Version: {n.version}" ++ line s!"Application: {n.appName} {n.appVersion}" ++
    line s!"Cosmos SDK: {n.sdkVersion}"

/-- The wallet of a transaction. -/
def walletOf (c : ClientConfig) (o : TxOptions) : Except Failure Wallet :=
  (deriveKey o.wallet o.coinType c.coinType).map fun key => ⟨c, key⟩

/-- The draft of a transaction that sends coins. -/
def sendDraft (w : Wallet) (o : TxOptions) (target : Address) (coins : List Coin) : TxDraft :=
  ({ memo := o.memo } : TxDraft).addSend w.address target (Coins.ofList coins)

/-- The number of pages of a balance that are followed. -/
def pageLimit : Nat := UInt64.size

/-- A command that asks a network. -/
def Command.ask (c : ClientConfig) : Command → ExceptT Failure Program Outcome
  | .printBalances address height => do
    Client.sanityCheck c
    match ← Client.failing (Client.balance pageLimit address.write height) with
    | none => throw (Failure.text "Too many pages")
    | some coins =>
      if coins.toList.isEmpty then return .wrote (line "0")
      else return .wrote (String.join (coins.toList.map fun coin => line coin.write))
  | .accountInfo address => do
    Client.sanityCheck c
    let account ← Client.failing (Client.account address.write)
    return .wrote (writeAccount account)
  | .sendCoins options target coins => do
    Client.sanityCheck c
    let w ← walletOf c options
    let info ← w.broadcast (sendDraft w options target coins)
    return .wrote (line info.txhash)
  | .simulateSend options target coins => do
    Client.sanityCheck c
    let w ← walletOf c options
    let fee ← w.estimateFee (sendDraft w options target coins)
    return .wrote (line s!"Sender: {w.address.write}" ++
      line s!"Gas limit: {Number.write fee.gasLimit.toNat}" ++
      line s!"Fee: {fee.amount.write}")
  | .showTx txhash complete pretty => do
    Client.sanityCheck c
    let info ← Client.waitForTx c txhash
    return writeTxInfo info complete pretty
  | .listTxsFor address limit offset => do
    Client.sanityCheck c
    let infos ← Client.failing (Client.txsBySender address.write limit offset)
    return .wrote (String.join (infos.map fun info => line info.txhash))
  | .nodeInfo => do
    let node ← Client.failing Client.nodeInfo
    return .wrote (writeNode node)
  | .latestBlock => do
    let block ← Client.latestBlock
    return .wrote (writeBlock block)
  | .showBlock height => do
    Client.sanityCheck c
    let block ← Client.blockAt height
    return .wrote (writeBlock block)
  | _ => return .wrote ""

/-- A command that needs no network; the bytes make up a new seed phrase. Nothing for other
commands. -/
def Command.answer? (network : NetworkOptions) (entropy : Bytes) : Command → Option Outcome
  | .showConfig => some <| .ofExcept <| network.config.map fun c => line c.dump.indented
  | .genWallet hrp coinType =>
    some <| .ofExcept <|
      match SeedPhrase.ofEntropy? entropy with
      | none => .error (Failure.text "Unable to parse mnemonic from phrase")
      | some phrase =>
        (KeySource.mk phrase { DerivationPath.standard with coinType }).derive.map fun key =>
          line s!"Mnemonic: {phrase.write}" ++ line s!"Address: {(key.address hrp).write}"
  | .printAddress hrp phrase coinType =>
    some <| .ofExcept <| (deriveKey phrase none coinType).map fun key =>
      line (key.address hrp).write
  | .encodeTx json =>
    some <| .ofExcept <|
      match Json.decodeText Tx.ofJson json with
      | .error fault => .error ⟨["Invalid transaction JSON"], .json fault⟩
      | .ok t => (t.toBase64.mapError ParseError.toFailure).map line
  | .decodeTx text =>
    some <|
      match Tx.ofBase64 text with
      | .error f => ⟨"", .error f⟩
      | .ok t =>
        match t.hash with
        | .error e => ⟨"", .error e.toFailure⟩
        | .ok hash => (writeTx t).after (line s!"Hash: {hash}")
  | _ => none

/-- Runs a command. One that asks a network does so at the endpoints of its configuration, and what
becomes of these is returned as well. -/
def Invocation.run (i : Invocation) (entropy : Bytes) (hosts : ClientConfig → Hosts) :
    Outcome × Option Hosts :=
  match i.command.answer? i.network entropy with
  | some outcome => (outcome, none)
  | none =>
    match i.network.config with
    | .error f => (⟨"", .error f⟩, none)
    | .ok c =>
      match (hosts c).run (Program.attempts c (i.command.ask c).run) with
      | (.ok outcome, h) => (outcome, some h)
      | (.error f, h) => (⟨"", .error f⟩, some h)

end CosmosClient.CommandLine
