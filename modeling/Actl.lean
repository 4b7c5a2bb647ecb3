import Actl.Foundation.Table
import Actl.Foundation.Program
import Actl.Foundation.Run
import Actl.Foundation.Sequential
import Actl.Foundation.HashChain
import Actl.Foundation.PrefixCode
import Actl.Foundation.MerkleTree
import Actl.Foundation.WriteOnce
import Actl.Foundation.Session
import Actl.Foundation.Decimal
import Actl.Foundation.DecimalContext
import Actl.Foundation.Numerals
import Actl.Foundation.Expiring
import Actl.Foundation.Keyed
import Actl.Foundation.Keyset
import Actl.Foundation.Positional
import Actl.Foundation.Refill
import Actl.Foundation.CodeText
import Actl.Foundation.Base64
import Actl.Platform
import Actl.Platform.TraceIds
import Actl.Platform.Redaction
import Actl.Platform.Breaker
import Actl.Platform.HalfOpen
import Actl.Cache.RateLimit
import Actl.Audit.Canonical
import Actl.Audit.Loaded
import Actl.Audit.Separation
import Actl.Audit.Text
import Actl.Audit.Parser
import Actl.Audit.RoundTrip
import Actl.Audit.Equality
import Actl.Audit.Numbers
import Actl.Audit.Doubles
import Actl.Audit.Chain
import Actl.Mandates.Model
import Actl.Mandates.Draft
import Actl.Mandates.MoneyEvidence
import Actl.Mandates.Clarification
import Actl.Mandates.StateMachine
import Actl.Policy.ReasonCodes
import Actl.Policy.Rules
import Actl.Policy.Bounds
import Actl.Policy.Drift
import Actl.Policy.Authority
import Actl.Ledger.Model
import Actl.Store
import Actl.Catalog.Service
import Actl.Foundation.Sha256
import Actl.Fixture
import Actl.Audit.Tables
import Actl.Audit.Halt
import Actl.Audit.Verification
import Actl.Audit.Merkle
import Actl.Audit.Append
import Actl.Audit.Bundle
import Actl.Audit.Writers
import Actl.Audit.Tamper
import Actl.Audit.Alarms
import Actl.Ledger.Service
import Actl.Ledger.Book
import Actl.Ledger.Phases
import Actl.Ledger.Refinement
import Actl.Ledger.BudgetCap
import Actl.Ledger.Lifecycle
import Actl.Payments.Service
import Actl.Policy.IntentHash
import Actl.Payments.Webhooks
import Actl.Payments.WebhookOutcome
import Actl.Payments.Reconciliation
import Actl.UnitOfWork.Statements
import Actl.Gate.Service
import Actl.UnitOfWork.Transactions
import Actl.UnitOfWork.Alone
import Actl.Gate.Atomic
import Actl.UnitOfWork.MandateRuns
import Actl.UnitOfWork.MandateLifecycle
import Actl.Saga.Service
import Actl.World
import Actl.Programs
import Actl.Effects.Store
import Actl.Effects.Proposals
import Actl.Effects.Purchase
import Actl.Effects.Worker
import Actl.Effects.Actions
import Actl.Effects.Rows
import Actl.Effects.Holds
import Actl.Effects.Growth
import Actl.Discipline
import Actl.Obedience
import Actl.Runs.Idempotency
import Actl.Runs.Terms
import Actl.Runs.Fixture
import Actl.Runs.GateOutcome
import Actl.Runs.Proposals
import Actl.Runs.ProposalBounds
import Actl.Runs.ProposalItem
import Actl.Runs.Repetition
import Actl.Runs.Denials
import Actl.Agents.Answers
import Actl.Agents.Recovery
import Actl.Runs.Backing
import Actl.Runs.Charges
import Actl.Runs.WriteAhead
import Actl.Runs.Halt
import Actl.UnitOfWork.OrderWriters
import Actl.UnitOfWork.OrderRuns
import Actl.UnitOfWork.OrderLifecycle
import Actl.Anchor.Contract
import Actl.Anchor.Worker
import Actl.Anchor.Discipline
import Actl.Anchor.Agreement
import Actl.Anchor.Tick
import Actl.Anchor.Verifier
import Actl.Agents.Envelope
import Actl.Agents.Verification
import Actl.Agents.Schema
import Actl.Agents.Conformance
import Actl.Agents.Buyer
import Actl.Catalog.Listing
import Actl.Catalog.Paging
import Actl.Catalog.QuoteToken
import Actl.Agents.CatalogRoutes
import Actl.Agents.Ranking
import Actl.Agents.Dispatch
import Actl.Mandates.Issue
import Actl.Upsell.Addons
import Actl.Upsell.Offers
import Actl.Upsell.Transactions
import Actl.Upsell.Programs
import Actl.Upsell.Listing
import Actl.Upsell.Discipline
import Actl.Upsell.Obedience
import Actl.Runs.Settlements
import Actl.Llm.Client
import Actl.Llm.Runs
import Actl.Ledger.Sweeping
import Actl.Foundation.Regex
import Actl.Mandates.Fallback
import Actl.Mandates.Extraction
import Actl.Audit.Trail
import Actl.Effects.Trail
import Actl.Runs.Trail
import Actl.Effects.References
import Actl.Audit.Explain
import Actl.Runs.Explain
