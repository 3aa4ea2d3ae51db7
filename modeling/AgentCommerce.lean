import AgentCommerce.Authorization.CheckoutSigner
import AgentCommerce.Storage.LegacyImport
import AgentCommerce.Concurrency.Actors
import AgentCommerce.Concurrency.JournalAgreement
import AgentCommerce.Concurrency.Mandates
import AgentCommerce.Concurrency.ReplayKeys
import AgentCommerce.Storage.Listing
import AgentCommerce.Pipeline.Laws
import AgentCommerce.Concurrency.Resolutions
import AgentCommerce.Acp.ClaimLaws
import AgentCommerce.Acp.Reach
import AgentCommerce.Reconcile.NearChain
import AgentCommerce.Reconcile.EvmChain
import AgentCommerce.Mpp.Identity
import AgentCommerce.Mcp.Slots
import AgentCommerce.A2a.PendingAgreement
import AgentCommerce.Acp.ExpiryOrder
import AgentCommerce.A2a.FollowUps
import AgentCommerce.Operator.Expiry
import AgentCommerce.Operator.Candidates
import AgentCommerce.Operator.Alignment
import AgentCommerce.Reconcile.EvmSearch
import AgentCommerce.Reconcile.SvmHistory
import AgentCommerce.Acp.Fingerprint
import AgentCommerce.Acp.Router
import AgentCommerce.Validation.SameSchema
import AgentCommerce.Validation.Semantics
import AgentCommerce.Config.ResourceSchema
import AgentCommerce.Config.Env
import AgentCommerce.Backend.RequestLaws
import AgentCommerce.Backend.Parts
import AgentCommerce.Config.SchemaKeywords
import AgentCommerce.Config.Backend
import AgentCommerce.Config.Resources
import AgentCommerce.Config.Pricing
import AgentCommerce.Config.RequestParts
import AgentCommerce.Config.Agreement
import AgentCommerce.OpenApi.Conversions
import AgentCommerce.OpenApi.Discovered
import AgentCommerce.OpenApi.Discovery
import AgentCommerce.OpenApi.Drafts
import AgentCommerce.OpenApi.Enforcement
import AgentCommerce.OpenApi.LoadedSchemas
import AgentCommerce.OpenApi.Expansion
import AgentCommerce.OpenApi.ImportedResources
import AgentCommerce.OpenApi.MappedRequests
import AgentCommerce.OpenApi.Meaning
import AgentCommerce.OpenApi.Merges
import AgentCommerce.OpenApi.Refs
import AgentCommerce.OpenApi.Requests
import AgentCommerce.OpenApi.Schema
import AgentCommerce.Pipeline.Deadlines
import AgentCommerce.Storage.Secrets
import AgentCommerce.Gateway.InvokeLaws
import AgentCommerce.Pipeline.Reports
import AgentCommerce.Gateway.Readiness
import AgentCommerce.Interaction.Yields
import AgentCommerce.X402.Amounts
import AgentCommerce.X402.LocatorRoundTrip
import AgentCommerce.Pipeline.Refusals
import AgentCommerce.Concurrency.StatusWrites
import AgentCommerce.Concurrency.UndecidedAttempts
