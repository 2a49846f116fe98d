import QuantumAnalytics.Foundations.Dict
import QuantumAnalytics.Foundations.DecimalLaws
import QuantumAnalytics.Domain.Events
import QuantumAnalytics.Domain.SourceRows
import QuantumAnalytics.Ledger.Basic
import QuantumAnalytics.Ledger.Append
import QuantumAnalytics.Ledger.Validation
import QuantumAnalytics.Ledger.Indexes
import QuantumAnalytics.Ledger.Trace
import QuantumAnalytics.Foundations.VersionHistory
import QuantumAnalytics.Ledger.Revisions
import QuantumAnalytics.Foundations.Reservations
import QuantumAnalytics.Ledger.Reversals
import QuantumAnalytics.Adapter.Synthetic
import QuantumAnalytics.Ingestion.Rows
import QuantumAnalytics.Foundations.Sha256
import QuantumAnalytics.Ledger.Amounts
import QuantumAnalytics.Ledger.Replay
import QuantumAnalytics.Ledger.Parts
import QuantumAnalytics.Ledger.Examples
import QuantumAnalytics.Foundations.DependencyOrder
import QuantumAnalytics.Ingestion.Resolver
import QuantumAnalytics.Ingestion.Resolution
import QuantumAnalytics.Ingestion.Storage
import QuantumAnalytics.Ingestion.CsvReader
import QuantumAnalytics.Ingestion.CsvWriter
import QuantumAnalytics.Ingestion.Pipeline
import QuantumAnalytics.Ingestion.Completeness
import QuantumAnalytics.Ingestion.Commit
import QuantumAnalytics.Ledger.Atomicity
import QuantumAnalytics.Foundations.Isolation
import QuantumAnalytics.Ledger.Tenants
import QuantumAnalytics.Finance.Common
import QuantumAnalytics.Finance.Values
import QuantumAnalytics.Finance.Policy
import QuantumAnalytics.Finance.Expression
import QuantumAnalytics.Finance.Evaluation
import QuantumAnalytics.Foundations.Selection
import QuantumAnalytics.Finance.Rules
import QuantumAnalytics.Finance.RuleSelection
import QuantumAnalytics.Foundations.Severity
import QuantumAnalytics.Finance.Kernel
import QuantumAnalytics.Foundations.DecimalScale
import QuantumAnalytics.Finance.States
import QuantumAnalytics.Finance.Stated
import QuantumAnalytics.Finance.KernelSteps
import QuantumAnalytics.Finance.KernelStates
import QuantumAnalytics.Finance.FailClosed
import QuantumAnalytics.Finance.Precedence
import QuantumAnalytics.Foundations.DecimalExact
import QuantumAnalytics.Foundations.DecimalDivision
import QuantumAnalytics.Finance.NumberTexts
import QuantumAnalytics.Finance.Oracle
import QuantumAnalytics.Finance.Exactness
import QuantumAnalytics.Foundations.Outcomes
import QuantumAnalytics.Foundations.DecimalReach
import QuantumAnalytics.Foundations.DecimalLimits
import QuantumAnalytics.Finance.Walks
import QuantumAnalytics.Finance.TypeRules
import QuantumAnalytics.Finance.Operations
import QuantumAnalytics.Admission.History
import QuantumAnalytics.Admission.Uniqueness
import QuantumAnalytics.Admission.Soundness
import QuantumAnalytics.Foundations.DepthFirst
import QuantumAnalytics.Evidence.ListingOrder
import QuantumAnalytics.Evidence.Reachability
import QuantumAnalytics.Reconciliation.Verdicts
import QuantumAnalytics.Reporting.CsvExports
import QuantumAnalytics.Reporting.CsvLimits
import QuantumAnalytics.Reporting.Lines
import QuantumAnalytics.Ingestion.RowOrder
import QuantumAnalytics.Ingestion.Normalization
import QuantumAnalytics.Reporting.Pages
import QuantumAnalytics.Ingestion.Identities
import QuantumAnalytics.Finance.Replay
import QuantumAnalytics.Ingestion.SchemaGate
import QuantumAnalytics.ProofPipeline.Atomicity
import QuantumAnalytics.ProofPipeline.Metric
import QuantumAnalytics.Finance.ResolutionOrder
import QuantumAnalytics.Finance.PolicyClosure
import QuantumAnalytics.Finance.ExpenseOrder
import QuantumAnalytics.Finance.Noninterference
import QuantumAnalytics.Ingestion.Inspection
import QuantumAnalytics.Finance.Quantization
import QuantumAnalytics.Infrastructure.PutSafety
import QuantumAnalytics.Xlsx.Formula
import QuantumAnalytics.Xlsx.Namespaces
import QuantumAnalytics.Dependencies.Sbom
import QuantumAnalytics.Ingestion.Uploads
import QuantumAnalytics.Ingestion.Lifecycle
import QuantumAnalytics.Ux.InboxCompleteness
import QuantumAnalytics.Xlsx.SchemaAlternatives
import QuantumAnalytics.Xlsx.CellPositions
import QuantumAnalytics.Xlsx.SharedStrings
import QuantumAnalytics.Xlsx.SheetTargets
import QuantumAnalytics.Xlsx.PackageContent
import QuantumAnalytics.Xlsx.ZipCoverage
import QuantumAnalytics.Access.Contracts
import QuantumAnalytics.Access.Runs
import QuantumAnalytics.Foundations.Members
import QuantumAnalytics.Ux.FormEditing
import QuantumAnalytics.Ux.FormValidity
import QuantumAnalytics.Ux.FormRuns
import QuantumAnalytics.Evidence.Snapshots
import QuantumAnalytics.Reporting.Building
import QuantumAnalytics.Reporting.BuiltRecords
import QuantumAnalytics.Ux.Views
import QuantumAnalytics.Ux.ViewIntegrity
import QuantumAnalytics.Foundations.TextTrees
import QuantumAnalytics.Xlsx.Content
import QuantumAnalytics.Xlsx.TextCoverage
import QuantumAnalytics.ProofPipeline.Reimport
import QuantumAnalytics.Foundations.IsolatedCalls
import QuantumAnalytics.Admission.Tenants
import QuantumAnalytics.Ingestion.StorageTenants
import QuantumAnalytics.Ingestion.Tenants
import QuantumAnalytics.Foundations.Correspondence
import QuantumAnalytics.Ingestion.Representation
import QuantumAnalytics.Ingestion.ImportedUploads
import QuantumAnalytics.Ingestion.Provenance
