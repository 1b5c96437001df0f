import CosmosClient.CommandLine.Options
import CosmosClient.Network

/-!
# Options for connecting to a network

The network gives a configuration, of which the other options replace parts. Each option may also be
given by a variable of the environment.
-/

namespace CosmosClient.CommandLine

/-- How to connect to a network. -/
structure NetworkOptions where
  network : Option Network := none
  url : Option String := none
  fallbackUrls : List String := []
  chainId : Option String := none
  hrp : Option Hrp := none
  gasPrices : Option GasPrices := none
  gasAdjustment : Option Float := none
  referer : Option String := none

namespace NetworkOptions

/-- Whether a text is read without failure. -/
def reads {α : Type} (read : String → Except Failure α) (s : String) : Bool :=
  (read s).toOption.isSome

def specs : List OptionSpec :=
  [{ name := "network", variableName := some "COSMOS_NETWORK"
     about := "Which blockchain to connect to"
     accepts := reads Network.read },
    { name := "lcd-url", variableName := some "COSMOS_LCD"
      about := "Optional LCD endpoint override" },
    { name := "lcd-fallbacks", variableName := some "COSMOS_LCD_FALLBACKS", kind := .list
      about := "Additional LCD endpoints used in round-robin order" },
    { name := "chain-id", variableName := some "COSMOS_CHAIN_ID"
      about := "Optional chain ID override" },
    { name := "hrp", variableName := some "COSMOS_HRP"
      about := "Optional address prefix override"
      accepts := reads Hrp.read },
    { name := "gas-prices", variableName := some "COSMOS_GAS_PRICES"
      about := "Optional gas prices override, e.g. 0.025uatom"
      accepts := reads fun s => GasPrices.read s.toList },
    { name := "gas-adjustment", variableName := some "COSMOS_GAS_ADJUSTMENT"
      about := "Optional gas adjustment override"
      accepts := fun s => (Decimal.read? s.toList).isSome },
    { name := "referer-header", letter := some 'r', variableName := some "COSMOS_REFERER_HEADER"
      about := "Referer header" }]

/-- The options among arguments. -/
def ofArguments (a : Arguments) : NetworkOptions where
  network := (a.value? "network").bind Network.ofText?
  url := a.value? "lcd-url"
  fallbackUrls := (a.values? "lcd-fallbacks").getD []
  chainId := a.value? "chain-id"
  hrp := (a.value? "hrp").bind Hrp.ofText?
  gasPrices := (a.value? "gas-prices").bind fun s => (GasPrices.read s.toList).toOption
  gasAdjustment := (a.value? "gas-adjustment").bind fun s => Decimal.read? s.toList
  referer := a.value? "referer-header"

/-- Reads arguments that are nothing but options. -/
def read (arguments : List String) : Except UsageError NetworkOptions :=
  (readAll specs [] [] arguments).map ofArguments

/-- The configuration that the options describe. -/
def config (o : NetworkOptions) : Except Failure ClientConfig :=
  match o.network with
  | none =>
    .error (Failure.text
      "No network specified, either provide the COSMOS_NETWORK env var or --network option")
  | some network =>
    let c := network.config
    .ok { c with
      url := o.url.getD c.url
      fallbackUrls := c.fallbackUrls ++ o.fallbackUrls
      chainId := o.chainId.getD c.chainId
      hrp := o.hrp.getD c.hrp
      gasPrices := o.gasPrices.getD c.gasPrices
      setGasAdjustment := o.gasAdjustment
      referer := o.referer }

end NetworkOptions
end CosmosClient.CommandLine
