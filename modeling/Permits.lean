import Permits.Http.Script
import Permits.Main
import Permits.Store.Memory
import Permits.Proofs.Guard.Source
import Permits.Proofs.Policy.Access
import Permits.Proofs.Policy.Username
import Permits.Proofs.Provision.Calls
import Permits.Proofs.Provision.Contention
import Permits.Proofs.Provision.Convergence
import Permits.Proofs.Provision.GuardPair
import Permits.Proofs.Provision.Repair
import Permits.Proofs.Store.Replay
import Permits.Proofs.Store.Revisions
import Permits.Proofs.Data.Increasing
import Permits.Proofs.Store.Representation
import Permits.Proofs.Store.Journal
import Permits.Proofs.Store.Insertion
import Permits.Proofs.Http.Discipline
import Permits.Proofs.Json.RoundTrip
import Permits.Proofs.Http.Server
import Permits.Proofs.Provision.Errands
import Permits.Proofs.Http.Agreement
import Permits.Proofs.Store.Separation
import Permits.Proofs.Provision.Tenants
import Permits.Proofs.Store.Ledger
import Permits.Proofs.Provision.Accounting
import Permits.Proofs.Policy.WireForm
import Permits.Proofs.Provision.Verdict
import Permits.Proofs.Provision.Failure
import Permits.Proofs.Store.Faults
import Permits.Proofs.Store.Harmless
import Permits.Proofs.Store.ReadBack
import Permits.Proofs.Store.Unmarked
import Permits.Proofs.Provision.Renewal
import Permits.Proofs.Config.Usable
import Permits.Proofs.Duration.RoundTrip
import Permits.Proofs.Toml.Strings
import Permits.Proofs.Toml.Scalars
import Permits.Proofs.Toml.Document
import Permits.Proofs.Data.Directory
import Permits.Proofs.Data.Fallible
import Permits.Proofs.Config.RoundTrip
import Permits.Proofs.Policy.Monotone
import Permits.Proofs.Policy.Violations
import Permits.Proofs.Guard.Literal
import Permits.Proofs.Provision.Report
import Permits.Proofs.Http.Addresses
import Permits.Proofs.Provision.Overtaking
import Permits.Proofs.Policy.FirstInsertion
import Permits.Proofs.Text.Lowercase
import Permits.Proofs.Policy.Grammar
import Permits.Proofs.Config.Tables
import Permits.Proofs.Config.Sources
import Permits.Proofs.Store.Delivery
