import CosmosClient.Json.Printer
import CosmosClient.Tx

/-!
# Sign documents

What a signature is made over: the encoded transaction in direct signing, and in legacy signing a
JSON text with sorted keys, no blanks, and no characters that HTML reserves.
-/

namespace CosmosClient

/-- The document of direct signing. -/
structure SignDoc where
  body : Bytes
  authInfo : Bytes
  chainId : String
  accountNumber : UInt64
  deriving DecidableEq, Repr

namespace SignDoc

def ofTx (t : Tx) (chainId : String) (accountNumber : UInt64) : Except ParseError SignDoc :=
  t.body.toProto.map fun body => ⟨body.bytes, t.authInfo.toProto.bytes, chainId, accountNumber⟩

def bytes (d : SignDoc) : Bytes :=
  (Proto.SignDoc.mk d.body d.authInfo d.chainId d.accountNumber).bytes

end SignDoc

/-- The document of legacy signing. -/
structure LegacySignDoc where
  accountNumber : UInt64
  chainId : String
  fee : Fee
  memo : String
  messages : List Message
  sequence : UInt64
  timeoutHeight : UInt64
  deriving BEq

namespace LegacySignDoc

def ofTx (t : Tx) (chainId : String) (accountNumber sequence : UInt64) : LegacySignDoc :=
  ⟨accountNumber, chainId, t.authInfo.fee, t.body.memo, t.body.messages, sequence,
    t.body.timeoutHeight⟩

/-- The document as JSON; without a form for each message there is none. -/
def toJson (d : LegacySignDoc) : Except ParseError Json :=
  (d.messages.mapM Message.toAminoJson).map fun messages =>
    .obj ([("account_number", .str (Number.write d.accountNumber.toNat)),
        ("chain_id", .str d.chainId), ("fee", d.fee.toAminoJson), ("memo", .str d.memo),
        ("msgs", .arr messages), ("sequence", .str (Number.write d.sequence.toNat))] ++
      if d.timeoutHeight = 0 then []
      else [("timeout_height", .str (Number.write d.timeoutHeight.toNat))])

/-- A character of the text, escaped if HTML reserves it. -/
def escape (c : Char) : List Char :=
  if c = '&' then "\\u0026".toList
  else if c = '<' then "\\u003c".toList
  else if c = '>' then "\\u003e".toList
  else [c]

/-- The text that is signed. -/
def chars (d : LegacySignDoc) : Except ParseError (List Char) :=
  d.toJson.map fun j => (Json.compactChars j.normal).flatMap escape

def bytes (d : LegacySignDoc) : Except ParseError Bytes :=
  d.chars.map fun cs => Utf8.encode (String.ofList cs)

end LegacySignDoc
end CosmosClient
