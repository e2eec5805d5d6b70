import Provisioning.Attribute.Set
import Provisioning.Attribute.Value
import Provisioning.Calendar.Date
import Provisioning.Calendar.Instant
import Provisioning.Calendar.Pattern
import Provisioning.Calendar.Stamp
import Provisioning.Connector.Error
import Provisioning.Connector.Object
import Provisioning.Connector.Operation
import Provisioning.Crypto.Aes
import Provisioning.Crypto.Gcm
import Provisioning.Crypto.KeyDerivation
import Provisioning.Crypto.Sha256
import Provisioning.Event
import Provisioning.Execution.Action
import Provisioning.Execution.Basic
import Provisioning.Execution.Decision
import Provisioning.Execution.Request
import Provisioning.Execution.Run
import Provisioning.Execution.Status
import Provisioning.Fault
import Provisioning.Identifier
import Provisioning.Json.Basic
import Provisioning.Json.Numeral
import Provisioning.Json.Printer
import Provisioning.Json.Reader
import Provisioning.Json.Record
import Provisioning.Keyed
import Provisioning.Mapping
import Provisioning.Number.Double
import Provisioning.Number.Shortest
import Provisioning.Password.CharacterClass
import Provisioning.Password.Cipher
import Provisioning.Password.Generation
import Provisioning.Password.Policy
import Provisioning.Password.Shape
import Provisioning.Password.Stored
import Provisioning.Program
import Provisioning.Proofs.AccountIds
import Provisioning.Proofs.Addressing
import Provisioning.Proofs.Base64Text
import Provisioning.Proofs.Batches
import Provisioning.Proofs.BestEffort
import Provisioning.Proofs.ClearPasswords
import Provisioning.Proofs.Collections
import Provisioning.Proofs.Comparisons
import Provisioning.Proofs.Completeness
import Provisioning.Proofs.Days
import Provisioning.Proofs.DeclarationOrder
import Provisioning.Proofs.EncodedPasswords
import Provisioning.Proofs.Encryption
import Provisioning.Proofs.Endings
import Provisioning.Proofs.Evidence
import Provisioning.Proofs.ExecutionRuns
import Provisioning.Proofs.Expiry
import Provisioning.Proofs.FailedReads
import Provisioning.Proofs.Faults
import Provisioning.Proofs.Freshness
import Provisioning.Proofs.Generation
import Provisioning.Proofs.GuardedGeneration
import Provisioning.Proofs.Histories
import Provisioning.Proofs.Holders
import Provisioning.Proofs.Identifiers
import Provisioning.Proofs.MandatoryValues
import Provisioning.Proofs.MappingOrder
import Provisioning.Proofs.Merging
import Provisioning.Proofs.Numerals
import Provisioning.Proofs.PasswordSources
import Provisioning.Proofs.Patches
import Provisioning.Proofs.PendingChanges
import Provisioning.Proofs.Placeholders
import Provisioning.Proofs.Placing
import Provisioning.Proofs.Positions
import Provisioning.Proofs.ReadOnly
import Provisioning.Proofs.RecordKeeping
import Provisioning.Proofs.Records
import Provisioning.Proofs.Refusals
import Provisioning.Proofs.Rereading
import Provisioning.Proofs.Reshaping
import Provisioning.Proofs.ResolvedAttributes
import Provisioning.Proofs.Retry
import Provisioning.Proofs.Runs
import Provisioning.Proofs.Satisfiability
import Provisioning.Proofs.SchemaConformance
import Provisioning.Proofs.Settlements
import Provisioning.Proofs.SharedStore
import Provisioning.Proofs.SinglePlace
import Provisioning.Proofs.Stamps
import Provisioning.Proofs.StoredSubjects
import Provisioning.Proofs.StoredTasks
import Provisioning.Proofs.Stores
import Provisioning.Proofs.StrictestPolicy
import Provisioning.Proofs.Submissions
import Provisioning.Proofs.Tables
import Provisioning.Proofs.TemplatePieces
import Provisioning.Proofs.Unions
import Provisioning.Proofs.Utf8Text
import Provisioning.Proofs.Writes
import Provisioning.Report
import Provisioning.Resolution
import Provisioning.Resolution.Dates
import Provisioning.Resource
import Provisioning.Schema.Computed
import Provisioning.Schema.Datum
import Provisioning.Schema.Plain
import Provisioning.Settings
import Provisioning.Simulation.Lookups
import Provisioning.Simulation.Session
import Provisioning.Simulation.TargetSystem
import Provisioning.Simulation.World
import Provisioning.Store
import Provisioning.Subject.Basic
import Provisioning.Subject.Holder
import Provisioning.Subject.Related
import Provisioning.Task.Basic
import Provisioning.Task.Building
import Provisioning.Template
import Provisioning.Text.Base64
import Provisioning.Text.Blank
import Provisioning.Text.EscapedRanges
import Provisioning.Text.Hex
import Provisioning.Text.Numeral
import Provisioning.Text.Padded
import Provisioning.Text.Quoted
import Provisioning.Text.Ranges
import Provisioning.Text.Utf8
import Provisioning.Text.Word
import Provisioning.Text.WordRanges
import Provisioning.Virtual.Cache
import Provisioning.Virtual.Refresh
import Provisioning.Worded
