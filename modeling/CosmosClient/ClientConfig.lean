import CosmosClient.Address
import CosmosClient.DerivationPath
import CosmosClient.GasPrices

/-!
# Configuration of a client

How to reach a chain and what to expect of it. Options that are not set have standard values.
-/

namespace CosmosClient

/-- The configuration of a client. -/
structure ClientConfig where
  chainId : String
  gasPrices : GasPrices
  hrp : Hrp
  /-- The first endpoint. -/
  url : String
  /-- Further endpoints, asked in turn. -/
  fallbackUrls : List String := []
  setCoinType : Option UInt32 := none
  setGasAdjustment : Option Float := none
  setGasPriceRetries : Option UInt64 := none
  setGasPriceMaxMultiplier : Option Float := none
  /-- The denominations to pay fees in, or nothing for all that have a price. -/
  feeDenoms : Option (List String) := none
  setTransactionAttempts : Option UInt64 := none
  referer : Option String := none
  setQueryTimeout : Option UInt32 := none
  setQueryRetries : Option UInt32 := none

namespace ClientConfig

/-- The endpoints in the order in which they are asked. -/
def urls (c : ClientConfig) : List String := c.url :: c.fallbackUrls

def coinType (c : ClientConfig) : UInt32 := c.setCoinType.getD DerivationPath.cosmosCoinType

/-- By how much to exceed simulated gas. -/
def gasAdjustment (c : ClientConfig) : Float := c.setGasAdjustment.getD 1.3

/-- How many higher prices to try when a fee does not suffice. -/
def gasPriceRetries (c : ClientConfig) : UInt64 := c.setGasPriceRetries.getD 3

/-- The highest price to try, as a multiple of the first. -/
def gasPriceMaxMultiplier (c : ClientConfig) : Float := c.setGasPriceMaxMultiplier.getD 1.5

/-- How often to look for a transaction. -/
def transactionAttempts (c : ClientConfig) : UInt64 := c.setTransactionAttempts.getD 30

/-- The seconds to wait for an answer. -/
def queryTimeout (c : ClientConfig) : UInt32 := c.setQueryTimeout.getD 5

/-- How often to repeat a request. -/
def queryRetries (c : ClientConfig) : UInt32 := c.setQueryRetries.getD 3

end ClientConfig
end CosmosClient
