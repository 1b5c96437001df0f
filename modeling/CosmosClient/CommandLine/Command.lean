import CosmosClient.CommandLine.NetworkOptions
import CosmosClient.Coins
import CosmosClient.KeySource

/-!
# Commands

The name of a command is followed by its operands and options. Options for connecting to a network
may stand before or behind the name; those behind it win. Where an operand of the command has the name
of such an option, the option stands before the command only, and takes the place of the operand if
that is left out.
-/

namespace CosmosClient.CommandLine

/-- How to sign a transaction. -/
structure TxOptions where
  /-- A seed phrase, with or without a path before it. -/
  wallet : String
  coinType : Option UInt32
  memo : Option String
  deriving DecidableEq, Repr

/-- What is to be done. -/
inductive Command where
  | showConfig
  | genWallet (hrp : Hrp) (coinType : UInt32)
  | printAddress (hrp : Hrp) (phrase : String) (coinType : UInt32)
  | printBalances (address : Address) (height : Option UInt64)
  | accountInfo (address : Address)
  | sendCoins (options : TxOptions) (target : Address) (coins : List Coin)
  | simulateSend (options : TxOptions) (target : Address) (coins : List Coin)
  | showTx (txhash : String) (complete pretty : Bool)
  | listTxsFor (address : Address) (limit offset : Option UInt64)
  | nodeInfo
  | latestBlock
  | showBlock (height : Int64)
  | encodeTx (json : String)
  | decodeTx (text : String)
  deriving DecidableEq

namespace Command

def uint32? (s : String) : Option UInt32 :=
  (Number.readInt64 s.toList).toOption.bind fun n => Json.uint32? n.toInt

def uint64? (s : String) : Option UInt64 := (Number.readUInt64 s.toList).toOption

def int64? (s : String) : Option Int64 := (Number.readInt64 s.toList).toOption

def address? (s : String) : Option Address := (Address.read s).toOption

def coin? (s : String) : Option Coin := (Coin.read s.toList).toOption

/-- An operand that is an address. -/
def addressOperand (name about : String) : OperandSpec :=
  { name, about, accepts := fun s => (address? s).isSome }

/-- An operand that is the prefix of addresses. -/
def hrpOperand (about : String) : OperandSpec :=
  { name := "hrp", about, accepts := NetworkOptions.reads Hrp.read }

/-- An option that is a number of 64 bits. -/
def numberOption (name about : String) : OptionSpec :=
  { name, about, accepts := fun s => (uint64? s).isSome }

/-- The option for a coin type. -/
def coinTypeOption (about : String) : OptionSpec :=
  { name := "coin-type", about, accepts := fun s => (uint32? s).isSome }

/-- The option for a coin type where there is a standard one. -/
def standardCoinTypeOption (about : String) : OptionSpec :=
  { coinTypeOption about with
    standard := some (Number.write DerivationPath.cosmosCoinType.toNat) }

/-- What the option for a wallet is for. -/
def aboutWallet : String :=
  "Mnemonic phrase, optionally prefixed by a derivation path such as m/44'/118'/0'/0/0"

/-- What the option for a coin type is for where a network has one. -/
def aboutCoinType : String :=
  "Coin type to derive with when the wallet has no explicit path, defaults to the network's"

def txOptions : List OptionSpec :=
  [{ name := "wallet", about := aboutWallet, variableName := some "COSMOS_WALLET"
     required := true },
    coinTypeOption aboutCoinType,
    { name := "memo", about := "Memo to put on transaction" }]

/-- The operands for sending coins. -/
def sendOperands : List OperandSpec :=
  [addressOperand "dest" "Destination address",
    { name := "coins", about := "Coins to send", many := true, required := false
      accepts := fun s => (coin? s).isSome }]

/-- How to sign a transaction, among arguments. -/
def txOptionsOf? (a : Arguments) : Option TxOptions := do
  let wallet ← a.value? "wallet"
  return ⟨wallet, (a.value? "coin-type").bind uint32?, a.value? "memo"⟩

/-- The coin type among arguments. -/
def coinTypeOf (a : Arguments) : UInt32 :=
  ((a.value? "coin-type").bind uint32?).getD DerivationPath.cosmosCoinType

/-- The prefix of addresses among arguments. -/
def hrpOf (a : Arguments) : Hrp :=
  ((a.operands.head?.or (a.value? "hrp")).bind Hrp.ofText?).getD .cosmos

/-- A command with its options and operands, and how it is made of arguments. -/
structure Spec where
  name : String
  /-- What it does. -/
  about : String
  options : List OptionSpec := []
  operands : List OperandSpec := []
  make : Arguments → Option Command

/-- Whether a command gives a meaning of its own to a name. -/
def Spec.names (c : Spec) (name : String) : Bool :=
  c.options.any (·.name == name) || c.operands.any (·.name == name)

def specs : List Spec :=
  [{ name := "show-config"
     about := "Show config"
     make := fun _ => some .showConfig },
    { name := "gen-wallet"
      about := "Generate wallet"
      options := [standardCoinTypeOption "BIP-44 coin type"]
      operands := [{ hrpOperand "Address prefix to print the address with" with
        required := false, standard := some Hrp.cosmos.text }]
      make := fun a => some (.genWallet (hrpOf a) (coinTypeOf a)) },
    { name := "print-address"
      about := "Print the address for the given phrase"
      options := [standardCoinTypeOption
        "BIP-44 coin type, when the phrase has no explicit path"]
      operands := [hrpOperand "Address prefix",
        { name := "phrase", about := "Phrase, optionally prefixed by a derivation path" }]
      make := fun a => match a.operands with
        | [_, phrase] => some (.printAddress (hrpOf a) phrase (coinTypeOf a))
        | _ => none },
    { name := "print-balances"
      about := "Print balances"
      options := [numberOption "height" "Optional height to do the query at"]
      operands := [addressOperand "address" "Address on COSMOS blockchain"]
      make := fun a => match a.operands with
        | [address] =>
          (address? address).map fun address =>
            .printBalances address ((a.value? "height").bind uint64?)
        | _ => none },
    { name := "account-info"
      about := "Show account number, sequence and public key"
      operands := [addressOperand "address" ""]
      make := fun a => match a.operands with
        | [address] => (address? address).map .accountInfo
        | _ => none },
    { name := "send-coins"
      about := "Send coins to the given address"
      options := txOptions
      operands := sendOperands
      make := fun a => match a.operands with
        | target :: coins => do
          return .sendCoins (← txOptionsOf? a) (← address? target) (← coins.mapM coin?)
        | [] => none },
    { name := "simulate-send"
      about := "Simulate sending coins and print the estimated fee"
      options := txOptions
      operands := sendOperands
      make := fun a => match a.operands with
        | target :: coins => do
          return .simulateSend (← txOptionsOf? a) (← address? target) (← coins.mapM coin?)
        | [] => none },
    { name := "show-tx"
      about := "Show transaction details"
      options := [
        { name := "complete", kind := .switch
          about := "Show all the data in the transaction?" },
        { name := "pretty", kind := .switch, about := "Pretty-print JSON output?" }]
      operands := [{ name := "txhash" }]
      make := fun a => match a.operands with
        | [txhash] => some (.showTx txhash (a.has "complete") (a.has "pretty"))
        | _ => none },
    { name := "list-txs-for"
      about := "List transactions sent by a given address"
      options := [numberOption "limit" "Maximum number of transactions to return",
        numberOption "offset" "Offset"]
      operands := [addressOperand "address" ""]
      make := fun a => match a.operands with
        | [address] =>
          (address? address).map fun address =>
            .listTxsFor address ((a.value? "limit").bind uint64?)
              ((a.value? "offset").bind uint64?)
        | _ => none },
    { name := "node-info"
      about := "Show information on the node"
      make := fun _ => some .nodeInfo },
    { name := "latest-block"
      about := "Show the latest block"
      make := fun _ => some .latestBlock },
    { name := "show-block"
      about := "Show block metadata and transaction hashes within the block"
      operands := [{ name := "height", about := "Height of the block to show"
                     accepts := fun s => (int64? s).isSome }]
      make := fun a => match a.operands with
        | [height] => (int64? height).map .showBlock
        | _ => none },
    { name := "encode-tx"
      about := "Encode a JSON transaction into base64 protobuf"
      operands := [{ name := "json", about := "Transaction JSON" }]
      make := fun a => match a.operands with
        | [json] => some (.encodeTx json)
        | _ => none },
    { name := "decode-tx"
      about := "Decode a base64 protobuf transaction into JSON"
      operands := [{ name := "tx-bytes", about := "Base64 encoded transaction" }]
      make := fun a => match a.operands with
        | [text] => some (.decodeTx text)
        | _ => none }]

end Command

/-- A command with the options for connecting to a network. -/
structure Invocation where
  network : NetworkOptions
  command : Command

namespace Invocation

def verboseOption : OptionSpec :=
  { name := "verbose", about := "Turn on verbose output", letter := some 'v', kind := .switch }

/-- The options that stand before the name of a command. -/
def globalOptions : List OptionSpec := NetworkOptions.specs ++ [verboseOption]

/-- Those that may also stand behind the name of a command. -/
def sharedOptions (c : Command.Spec) : List OptionSpec :=
  globalOptions.filter fun o => ¬c.names o.name

def helpName : String := "help"

def isCommand (s : String) : Bool :=
  s == helpName || Command.specs.any fun c => c.name == s

/-- The arguments before the name of a command, without the options that are given behind it. -/
def merge (before behind : Arguments) : Arguments :=
  { behind with
    options := behind.options ++ before.options.filter fun (name, _) => ¬behind.has name }

/-- Names the command on which help is asked for. -/
def onCommand (name : String) : UsageError → UsageError
  | .help _ => .help (some name)
  | e => e

/-- Reads what stands behind a request for help. -/
def readHelp : List String → UsageError
  | [] => .help none
  | [name] => if isCommand name then .help (some name) else .unknownCommand
  | _ => .unknownCommand

/-- Reads a command. What is wrong behind its name counts before what is wrong with the last option
before it, and the variables of the environment are checked for the options behind the name and then
for those before it. -/
def read (environment : List (String × String)) (arguments : List String) :
    Except UsageError Invocation := do
  let (before, rest) ← readUntil (helpOption :: globalOptions) [] isCommand {} arguments
  match rest with
  | none => do
    let _ ← before.settle
    .error .missingArgument
  | some (name, rest) =>
    match Command.specs.find? fun c => c.name == name with
    | none => .error (readHelp rest)
    | some spec => do
      let options := sharedOptions spec ++ spec.options
      let behind ← (readArguments options spec.operands rest).mapError (onCommand name)
      discard (fromEnvironment environment behind options)
      if (spec.operands.drop behind.operands.length).any (·.required) then .error .missingArgument
      else do
        let before ← before.settle
        discard (fromEnvironment environment before globalOptions)
        let a ← fromEnvironment environment (merge before behind) (globalOptions ++ spec.options)
        match spec.make a with
        | some command => return ⟨NetworkOptions.ofArguments a, command⟩
        | none => .error .missingArgument

end Invocation
end CosmosClient.CommandLine
