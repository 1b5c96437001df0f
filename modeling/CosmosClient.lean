import CosmosClient.CommandLine.Run
import CosmosClient.Main
import CosmosClient.MultiSignature
import CosmosClient.Proofs.LostReplies
import CosmosClient.Proofs.MemberSignatures
import CosmosClient.Proofs.SignDocuments
import CosmosClient.Proofs.TxJson
import CosmosClient.Proofs.TxText
import CosmosClient.Proofs.BroadcastFinality
import CosmosClient.Proofs.CoinSums
import CosmosClient.Proofs.EndpointTurns
import CosmosClient.Proofs.LossyText
import CosmosClient.Proofs.ReportEncoding
import CosmosClient.Proofs.ReportJson
import CosmosClient.Proofs.AddressText
import CosmosClient.Proofs.SignerPlaces
import CosmosClient.Proofs.SigningOrder
import CosmosClient.Proofs.CanonicalText
import CosmosClient.Proofs.SettledEncoding
import CosmosClient.Proofs.SequenceResolution
import CosmosClient.Proofs.IndexedEvents
import CosmosClient.Proofs.CoinText
import CosmosClient.Proofs.BalancePages
import CosmosClient.Proofs.Waiting
import CosmosClient.Proofs.KeySources
import CosmosClient.Proofs.BlockHashes
import CosmosClient.Proofs.ExpectedSequences
