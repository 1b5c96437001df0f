import CosmosClient.Proto.Basic

/-!
# Messages that make up a transaction

Fields that are checked when they are read but not kept have slots that drop their content.
-/

namespace CosmosClient.Proto

/-- An amount of fee with its limit. -/
structure Fee where
  amount : List Coin := []
  gasLimit : UInt64 := 0
  payer : String := ""
  granter : String := ""
  deriving DecidableEq, Repr, Inhabited

namespace Fee

def bytes (f : Fee) : Bytes :=
  Wire.encode (coinFields 1 f.amount ++ Wire.number 2 f.gasLimit ++ Wire.text 3 f.payer ++
    Wire.text 4 f.granter)

def slots : List (Wire.Slot Fee) :=
  [coinsSlot 1 "amount" fun c f => { f with amount := f.amount ++ [c] },
    Wire.numberSlot 2 "gas_limit" fun n f => { f with gasLimit := n },
    Wire.textSlot 3 "payer" fun x f => { f with payer := x },
    Wire.textSlot 4 "granter" fun x f => { f with granter := x }]

def merge : Wire.Merge Fee := Wire.merge "Fee" slots

end Fee

/-- Packed bits. -/
structure BitArray where
  extraBitsStored : UInt32 := 0
  elems : Bytes := []
  deriving DecidableEq, Repr, Inhabited

namespace BitArray

def bytes (b : BitArray) : Bytes :=
  Wire.encode (Wire.number 1 b.extraBitsStored.toUInt64 ++ Wire.bytes 2 b.elems)

def slots : List (Wire.Slot BitArray) :=
  [Wire.numberSlot 1 "extra_bits_stored" fun n b => { b with extraBitsStored := n.toUInt32 },
    Wire.bytesSlot 2 "elems" fun x b => { b with elems := x }]

def merge : Wire.Merge BitArray :=
  Wire.merge "CompactBitArray" slots

end BitArray

/-- How a signature was made: not said, by one key, or by members of a key made of others. -/
inductive ModeInfo where
  | unset
  | single (mode : Int32)
  | multi (bitarray : Option BitArray) (modeInfos : List ModeInfo)
  deriving BEq, Repr, Inhabited

namespace ModeInfo

/-- The bytes of the field for one key. -/
def singleBytes (mode : Int32) : Bytes :=
  Wire.encode (Wire.number 1 mode.toInt64.toUInt64)

mutual
def bytes : ModeInfo → Bytes
  | .unset => []
  | .single mode => Wire.encode [Wire.item 1 (singleBytes mode)]
  | .multi bitarray modeInfos =>
    Wire.encode [Wire.item 2 (Wire.encode
      (Wire.items 1 (bitarray.toList.map BitArray.bytes) ++ Wire.items 2 (bytesOf modeInfos)))]

def bytesOf : List ModeInfo → List Bytes
  | [] => []
  | m :: ms => bytes m :: bytesOf ms
end

/-- The known fields of the part for one key. -/
def singleSlots : List (Wire.Slot Int32) :=
  [Wire.numberSlot 1 "mode" fun n _ => n.toUInt32.toInt32]

/-- The known fields of the part for several keys, with a reader for each key. -/
def multiSlots (inner : Nat → Bytes → Except Wire.Error (ModeInfo × Bytes)) :
    List (Wire.Slot (Option BitArray × List ModeInfo)) :=
  [Wire.optionSlot 1 "bitarray" {} BitArray.merge (·.1) fun b s => (some b, s.2),
    Wire.messageSlot 2 "mode_infos" fun _ behind bs s =>
      (inner behind bs).map fun (m, rest) => ((s.1, s.2 ++ [m]), rest)]

/-- The known fields; a part of the other kind gives way. -/
def slots (inner : Nat → Bytes → Except Wire.Error (ModeInfo × Bytes)) :
    List (Wire.Slot ModeInfo) :=
  [Wire.messageSlot 1 "sum" fun depth behind bs s =>
      let start := match s with | .single mode => mode | _ => 0
      (Wire.merge "Single" singleSlots depth behind bs start).map fun (mode, rest) =>
        (.single mode, rest),
    Wire.messageSlot 2 "sum" fun depth behind bs s =>
      let start := match s with | .multi bitarray modeInfos => (bitarray, modeInfos) | _ => (none, [])
      (Wire.merge "Multi" (multiSlots inner) depth behind bs start).map fun ((bits, infos), rest) =>
        (.multi bits infos, rest)]

/-- Reads encoded fields into a message; members lie two levels further down. -/
def merge : Wire.Merge ModeInfo
  | 0 => Wire.merge "ModeInfo" (slots fun _ _ => Wire.here .nesting) 0
  | 1 => Wire.merge "ModeInfo" (slots fun _ _ => Wire.here .nesting) 1
  | depth + 2 =>
    Wire.merge "ModeInfo" (slots fun behind bs => merge depth behind bs .unset) (depth + 2)

end ModeInfo

/-- One signer. -/
structure SignerInfo where
  publicKey : Option Any := none
  modeInfo : Option ModeInfo := none
  sequence : UInt64 := 0
  deriving BEq, Repr, Inhabited

namespace SignerInfo

def bytes (s : SignerInfo) : Bytes :=
  Wire.encode (Wire.items 1 (s.publicKey.toList.map Any.bytes) ++
    Wire.items 2 (s.modeInfo.toList.map ModeInfo.bytes) ++ Wire.number 3 s.sequence)

def slots : List (Wire.Slot SignerInfo) :=
  [Wire.optionSlot 1 "public_key" {} Any.merge (·.publicKey)
      fun a s => { s with publicKey := some a },
    Wire.optionSlot 2 "mode_info" .unset ModeInfo.merge (·.modeInfo)
      fun m s => { s with modeInfo := some m },
    Wire.numberSlot 3 "sequence" fun n s => { s with sequence := n }]

def merge : Wire.Merge SignerInfo :=
  Wire.merge "SignerInfo" slots

end SignerInfo

/-- The known fields of a tip. -/
def tipSlots : List (Wire.Slot Unit) :=
  [coinsSlot 1 "amount" fun _ s => s, Wire.textSlot 2 "tipper" fun _ s => s]

/-- The signers and the fee. -/
structure AuthInfo where
  signerInfos : List SignerInfo := []
  fee : Option Fee := none
  deriving BEq, Repr, Inhabited

namespace AuthInfo

def bytes (a : AuthInfo) : Bytes :=
  Wire.encode (Wire.items 1 (a.signerInfos.map SignerInfo.bytes) ++
    Wire.items 2 (a.fee.toList.map Fee.bytes))

def slots : List (Wire.Slot AuthInfo) :=
  [Wire.listSlot 1 "signer_infos" {} SignerInfo.merge
      fun x a => { a with signerInfos := a.signerInfos ++ [x] },
    Wire.optionSlot 2 "fee" {} Fee.merge (·.fee) fun f a => { a with fee := some f },
    Wire.listSlot 3 "tip" () (Wire.merge "Tip" tipSlots) fun _ a => a]

def merge : Wire.Merge AuthInfo := Wire.merge "AuthInfo" slots

end AuthInfo

/-- The content of a transaction. -/
structure TxBody where
  messages : List Any := []
  memo : String := ""
  timeoutHeight : UInt64 := 0
  deriving DecidableEq, Repr, Inhabited

namespace TxBody

def bytes (b : TxBody) : Bytes :=
  Wire.encode (Wire.items 1 (b.messages.map Any.bytes) ++ Wire.text 2 b.memo ++
    Wire.number 3 b.timeoutHeight)

def slots : List (Wire.Slot TxBody) :=
  [Wire.listSlot 1 "messages" {} Any.merge fun a t => { t with messages := t.messages ++ [a] },
    Wire.textSlot 2 "memo" fun x t => { t with memo := x },
    Wire.numberSlot 3 "timeout_height" fun n t => { t with timeoutHeight := n },
    Wire.listSlot 1023 "extension_options" {} Any.merge fun _ t => t,
    Wire.listSlot 2047 "non_critical_extension_options" {} Any.merge fun _ t => t]

def merge : Wire.Merge TxBody := Wire.merge "TxBody" slots

end TxBody

/-- A transaction. -/
structure Tx where
  body : Option TxBody := none
  authInfo : Option AuthInfo := none
  signatures : List Bytes := []
  deriving BEq, Repr, Inhabited

namespace Tx

def bytes (t : Tx) : Bytes :=
  Wire.encode (Wire.items 1 (t.body.toList.map TxBody.bytes) ++
    Wire.items 2 (t.authInfo.toList.map AuthInfo.bytes) ++ Wire.items 3 t.signatures)

def slots : List (Wire.Slot Tx) :=
  [Wire.optionSlot 1 "body" {} TxBody.merge (·.body) fun b t => { t with body := some b },
    Wire.optionSlot 2 "auth_info" {} AuthInfo.merge (·.authInfo)
      fun a t => { t with authInfo := some a },
    Wire.bytesSlot 3 "signatures" fun b t => { t with signatures := t.signatures ++ [b] }]

def merge : Wire.Merge Tx := Wire.merge "Tx" slots

end Tx

/-- What is signed directly. -/
structure SignDoc where
  bodyBytes : Bytes := []
  authInfoBytes : Bytes := []
  chainId : String := ""
  accountNumber : UInt64 := 0
  deriving DecidableEq, Repr, Inhabited

def SignDoc.bytes (d : SignDoc) : Bytes :=
  Wire.encode (Wire.bytes 1 d.bodyBytes ++ Wire.bytes 2 d.authInfoBytes ++
    Wire.text 3 d.chainId ++ Wire.number 4 d.accountNumber)

end CosmosClient.Proto
