import CosmosClient.ClientConfig
import CosmosClient.Event
import CosmosClient.Network
import CosmosClient.Text.Float

/-!
# Dumps of values

A dump shows a value with the names of its parts, in a line or indented.
-/

namespace CosmosClient

/-- A value with the names of its parts. -/
inductive Dump where
  | atom (text : String)
  | record (name : String) (fields : List (String × Dump))
  | tuple (name : String) (items : List Dump)
  | list (items : List Dump)
  | map (entries : List (String × Dump))
  deriving Repr, Inhabited

namespace Dump

mutual
/-- A dump in a line. -/
def line : Dump → String
  | .atom text => text
  | .record name fields => name ++ " \x7b " ++ lineFields fields ++ " \x7d"
  | .tuple name items => name ++ "(" ++ lineItems items ++ ")"
  | .list items => "[" ++ lineItems items ++ "]"
  | .map entries => "\x7b" ++ lineFields entries ++ "\x7d"

/-- Dumps with commas between them. -/
def lineItems : List Dump → String
  | [] => ""
  | [d] => line d
  | d :: ds => line d ++ ", " ++ lineItems ds

/-- Named dumps with commas between them. -/
def lineFields : List (String × Dump) → String
  | [] => ""
  | [(name, d)] => name ++ ": " ++ line d
  | (name, d) :: rest => name ++ ": " ++ line d ++ ", " ++ lineFields rest
end

/-- A new line indented to a level. -/
def newline (level : Nat) : String :=
  String.ofList ('\n' :: List.replicate (4 * level) ' ')

mutual
/-- A dump indented at a level. -/
def indentedAt (level : Nat) : Dump → String
  | .atom text => text
  | .record name fields =>
    name ++ " \x7b" ++ indentedFields (level + 1) fields ++ newline level ++ "\x7d"
  | .tuple name items => name ++ "(" ++ indentedItems (level + 1) items ++ newline level ++ ")"
  | .list [] => "[]"
  | .list items => "[" ++ indentedItems (level + 1) items ++ newline level ++ "]"
  | .map [] => "\x7b\x7d"
  | .map entries => "\x7b" ++ indentedFields (level + 1) entries ++ newline level ++ "\x7d"

/-- Dumps on lines of their own. -/
def indentedItems (level : Nat) : List Dump → String
  | [] => ""
  | d :: ds => newline level ++ indentedAt level d ++ "," ++ indentedItems level ds

/-- Named dumps on lines of their own. -/
def indentedFields (level : Nat) : List (String × Dump) → String
  | [] => ""
  | (name, d) :: rest =>
    newline level ++ name ++ ": " ++ indentedAt level d ++ "," ++ indentedFields level rest
end

/-- An indented dump. -/
def indented (d : Dump) : String := indentedAt 0 d

def ofText (s : String) : Dump := .atom (Quoted.write s)

def ofNat (n : Nat) : Dump := .atom (Number.write n)

def ofFloat (x : Float) : Dump := .atom (Decimal.writeMarked 4 x)

def ofList {α : Type} (dump : α → Dump) (items : List α) : Dump := .list (items.map dump)

def ofOption {α : Type} (dump : α → Dump) : Option α → Dump
  | none => .atom "None"
  | some a => .tuple "Some" [dump a]

end Dump

def GasPrices.dump (prices : GasPrices) : Dump :=
  .tuple "GasPrices"
    [.map (prices.toList.map fun (denom, price) => (Quoted.write denom, Dump.ofFloat price))]

def ClientConfig.dump (c : ClientConfig) : Dump :=
  .record "LcdClientBuilder"
    [("lcd_url", Dump.ofText c.url),
      ("fallback_urls", Dump.ofList Dump.ofText c.fallbackUrls),
      ("chain_id", Dump.ofText c.chainId),
      ("gas_prices", c.gasPrices.dump),
      ("hrp", .atom c.hrp.name),
      ("coin_type", Dump.ofOption (fun n => Dump.ofNat n.toNat) c.setCoinType),
      ("gas_adjustment", Dump.ofOption Dump.ofFloat c.setGasAdjustment),
      ("gas_price_retry_attempts",
        Dump.ofOption (fun n => Dump.ofNat n.toNat) c.setGasPriceRetries),
      ("gas_price_max_multiplier", Dump.ofOption Dump.ofFloat c.setGasPriceMaxMultiplier),
      ("fee_denoms", Dump.ofOption (Dump.ofList Dump.ofText) c.feeDenoms),
      ("transaction_attempts",
        Dump.ofOption (fun n => Dump.ofNat n.toNat) c.setTransactionAttempts),
      ("referer_header", Dump.ofOption Dump.ofText c.referer),
      ("query_timeout_seconds", Dump.ofOption (fun n => Dump.ofNat n.toNat) c.setQueryTimeout),
      ("query_retries", Dump.ofOption (fun n => Dump.ofNat n.toNat) c.setQueryRetries)]

def Attribute.dump (a : Attribute) : Dump :=
  .record "Attribute" [("key", Dump.ofText a.key), ("value", Dump.ofText a.value)]

def Event.dump (e : Event) : Dump :=
  .record "StringEvent"
    [("type_", Dump.ofText e.kind), ("attributes", Dump.ofList Attribute.dump e.attributes)]

def EventIndex.dump (index : EventIndex) : Dump :=
  .map (index.toList.map fun (kind, keys) =>
    (Quoted.write kind, .map (keys.map fun (key, values) =>
      (Quoted.write key, Dump.ofList Dump.ofText values))))

def MessageLog.dump (l : MessageLog) : Dump :=
  .record "TxLog"
    [("msg_index", Dump.ofNat l.index.toNat), ("log", Dump.ofText l.log),
      ("events", Dump.ofList Event.dump l.events), ("events_by_type", l.byKind.dump)]

end CosmosClient
