import Arbitration.Account
import Arbitration.Amount
import Arbitration.Bytes
import Arbitration.Calendar
import Arbitration.CommandLine.Invocation
import Arbitration.CommandLine.Options
import Arbitration.CommandLine.Run
import Arbitration.Config.Basic
import Arbitration.Config.Document
import Arbitration.Digest
import Arbitration.Dispute.Basic
import Arbitration.Ed25519.Curve
import Arbitration.Ed25519.Signature
import Arbitration.Engine.Enforcement
import Arbitration.Engine.Error
import Arbitration.Engine.Filing
import Arbitration.Engine.Negotiation
import Arbitration.Engine.Operation
import Arbitration.Engine.Resolution
import Arbitration.Engine.Staking
import Arbitration.Engine.State
import Arbitration.Engine.Transaction
import Arbitration.Event
import Arbitration.Hash.Sha2
import Arbitration.Inquiry
import Arbitration.Json.Basic
import Arbitration.Json.Canonical
import Arbitration.Json.Printer
import Arbitration.Json.Reader
import Arbitration.Json.Record
import Arbitration.Main
import Arbitration.Number.Binary64
import Arbitration.Number.Shortest
import Arbitration.Oracle
import Arbitration.Parts.Ledger
import Arbitration.Parts.Registry
import Arbitration.Parts.Store
import Arbitration.Parts.Treasury
import Arbitration.Policy
import Arbitration.Proofs.Arithmetic
import Arbitration.Proofs.Atomicity
import Arbitration.Proofs.Audit
import Arbitration.Proofs.Burning
import Arbitration.Proofs.Canonical
import Arbitration.Proofs.Checks
import Arbitration.Proofs.Chronicle
import Arbitration.Proofs.Commutation
import Arbitration.Proofs.Completion
import Arbitration.Proofs.Configurations
import Arbitration.Proofs.Consent
import Arbitration.Proofs.CounterRounds
import Arbitration.Proofs.Custody
import Arbitration.Proofs.Deadlines
import Arbitration.Proofs.Defense
import Arbitration.Proofs.Earmarks
import Arbitration.Proofs.Escalation
import Arbitration.Proofs.Evolution
import Arbitration.Proofs.Exclusion
import Arbitration.Proofs.Failures
import Arbitration.Proofs.Faults
import Arbitration.Proofs.Finality
import Arbitration.Proofs.HexText
import Arbitration.Proofs.Inquiries
import Arbitration.Proofs.InstantOrder
import Arbitration.Proofs.Instants
import Arbitration.Proofs.JsonReading
import Arbitration.Proofs.JsonText
import Arbitration.Proofs.KeyOrder
import Arbitration.Proofs.Lexicographic
import Arbitration.Proofs.MemberOrder
import Arbitration.Proofs.Moves
import Arbitration.Proofs.Nonces
import Arbitration.Proofs.Operations
import Arbitration.Proofs.Parts
import Arbitration.Proofs.Payments
import Arbitration.Proofs.Persistence
import Arbitration.Proofs.Pots
import Arbitration.Proofs.Preservation
import Arbitration.Proofs.Protocol
import Arbitration.Proofs.Records
import Arbitration.Proofs.Rejection
import Arbitration.Proofs.Replay
import Arbitration.Proofs.Resolution
import Arbitration.Proofs.Rollback
import Arbitration.Proofs.Runs
import Arbitration.Proofs.Scenarios
import Arbitration.Proofs.Soundness
import Arbitration.Proofs.Splits
import Arbitration.Proofs.Steps
import Arbitration.Proofs.Stranded
import Arbitration.Proofs.Subsidies
import Arbitration.Proofs.SubsidyShares
import Arbitration.Proofs.Supply
import Arbitration.Proofs.Tables
import Arbitration.Proofs.Turns
import Arbitration.Proofs.WholeSeconds
import Arbitration.Proofs.YamlLines
import Arbitration.Record.Basic
import Arbitration.Record.Config
import Arbitration.Record.Dispute
import Arbitration.Record.Engine
import Arbitration.Record.Event
import Arbitration.Record.Scenario
import Arbitration.Scenario.Basic
import Arbitration.Scenario.Document
import Arbitration.Settlement
import Arbitration.Simulation.Basic
import Arbitration.Simulation.Report
import Arbitration.Table
import Arbitration.Text.Blank
import Arbitration.Text.Casing
import Arbitration.Text.Combining
import Arbitration.Text.Hex
import Arbitration.Text.Lowercase
import Arbitration.Text.Quoted
import Arbitration.Text.Search
import Arbitration.Text.Unprintable
import Arbitration.Timestamp.Basic
import Arbitration.Timestamp.Text
import Arbitration.Yaml.Cursor
import Arbitration.Yaml.Node
import Arbitration.Yaml.Plain
import Arbitration.Yaml.Scalar
import Arbitration.Yaml.Shape
import Arbitration.Yaml.Tag
import Arbitration.Yaml.Token
