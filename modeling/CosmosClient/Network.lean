import CosmosClient.ClientConfig

/-!
# Well-known networks
-/

namespace CosmosClient

/-- A network with a public endpoint. -/
inductive Network where
  | cosmosHub
  | cosmosHubTestnet
  | cosmosLocal
  | terraClassic
  deriving DecidableEq, Repr

namespace Network

def all : List Network := [.cosmosHub, .cosmosHubTestnet, .cosmosLocal, .terraClassic]

def text : Network → String
  | .cosmosHub => "cosmoshub-mainnet"
  | .cosmosHubTestnet => "cosmoshub-testnet"
  | .cosmosLocal => "cosmos-local"
  | .terraClassic => "terra-classic"

def name : Network → String
  | .cosmosHub => "CosmosHubMainnet"
  | .cosmosHubTestnet => "CosmosHubTestnet"
  | .cosmosLocal => "CosmosLocal"
  | .terraClassic => "TerraClassic"

def ofText? (s : String) : Option Network :=
  all.find? fun network => network.text == s

def read (s : String) : Except Failure Network :=
  match ofText? s with
  | some network => .ok network
  | none => .error (Failure.text s!"Unknown network: {s}")

def ofJson : Json.Decoder Network := Json.textOf ofText?

/-- The configuration for a network. -/
def config : Network → ClientConfig
  | .cosmosHub =>
    { chainId := "cosmoshub-4"
      gasPrices := GasPrices.single "uatom" 0.025
      hrp := .cosmos
      url := "https://cosmos-rest.publicnode.com" }
  | .cosmosHubTestnet =>
    { chainId := "theta-testnet-001"
      gasPrices := GasPrices.single "uatom" 0.025
      hrp := .cosmos
      url := "https://rest.sentry-01.theta-testnet.polypore.xyz" }
  | .cosmosLocal =>
    { chainId := "testing"
      gasPrices := GasPrices.single "stake" 0.025
      hrp := .cosmos
      url := "http://localhost:1317"
      setTransactionAttempts := some 10 }
  | .terraClassic =>
    { chainId := "columbus-5"
      gasPrices := GasPrices.single "uluna" 28.325
      hrp := .terra
      url := "https://terra-classic-lcd.publicnode.com"
      setCoinType := some DerivationPath.terraCoinType }

end Network
end CosmosClient
