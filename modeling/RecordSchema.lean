import RecordSchema.Codec.Decoding
import RecordSchema.Codec.Encoding
import RecordSchema.Codec.Hooks
import RecordSchema.Coercion
import RecordSchema.CommandLine.Arguments
import RecordSchema.CommandLine.Run
import RecordSchema.Config
import RecordSchema.Construction
import RecordSchema.Definition.Basic
import RecordSchema.Definition.Declaration
import RecordSchema.Definition.Document
import RecordSchema.Definition.Scan
import RecordSchema.Entries
import RecordSchema.FieldType.Basic
import RecordSchema.FieldType.Parser
import RecordSchema.FieldType.Reference
import RecordSchema.Files.Basic
import RecordSchema.Files.Filter
import RecordSchema.Files.System
import RecordSchema.Handle.Basic
import RecordSchema.Handle.Record
import RecordSchema.Handle.Union
import RecordSchema.Handle.Variant
import RecordSchema.Ignore.Glob
import RecordSchema.Ignore.Levels
import RecordSchema.Ignore.Rules
import RecordSchema.Instant.Basic
import RecordSchema.Instant.Rfc3339
import RecordSchema.Json.Basic
import RecordSchema.Json.Reader
import RecordSchema.Layout
import RecordSchema.Main
import RecordSchema.Number.Binary64
import RecordSchema.Number.Power
import RecordSchema.Number.Scaled
import RecordSchema.Number.Shortest
import RecordSchema.Number.Text
import RecordSchema.Path
import RecordSchema.Pattern
import RecordSchema.Proofs.Acceptance
import RecordSchema.Proofs.BuilderCalls
import RecordSchema.Proofs.Built
import RecordSchema.Proofs.Canonical
import RecordSchema.Proofs.Closed
import RecordSchema.Proofs.Constructed
import RecordSchema.Proofs.Decoded
import RecordSchema.Proofs.Encoded
import RecordSchema.Proofs.Entries
import RecordSchema.Proofs.FirstRejection
import RecordSchema.Proofs.Grammar
import RecordSchema.Proofs.Identity
import RecordSchema.Proofs.InstantText
import RecordSchema.Proofs.Integers
import RecordSchema.Proofs.KnownTypes
import RecordSchema.Proofs.LoadOrder
import RecordSchema.Proofs.Loaded
import RecordSchema.Proofs.NestedCodecs
import RecordSchema.Proofs.NormalForms
import RecordSchema.Proofs.Outcome
import RecordSchema.Proofs.Parsed
import RecordSchema.Proofs.Parts
import RecordSchema.Proofs.Readers
import RecordSchema.Proofs.Reading
import RecordSchema.Proofs.ReadsAs
import RecordSchema.Proofs.Rejections
import RecordSchema.Proofs.Related
import RecordSchema.Proofs.RequiredCycle
import RecordSchema.Proofs.Resolution
import RecordSchema.Proofs.Restorable
import RecordSchema.Proofs.Restored
import RecordSchema.Proofs.RoundTrip
import RecordSchema.Proofs.Session
import RecordSchema.Proofs.Stored
import RecordSchema.Proofs.Tags
import RecordSchema.Proofs.Trimming
import RecordSchema.Proofs.Validity
import RecordSchema.Proofs.VariantKey
import RecordSchema.Regex.Basic
import RecordSchema.Regex.Flags
import RecordSchema.Regex.Matcher
import RecordSchema.Regex.Meaning
import RecordSchema.Regex.Parser
import RecordSchema.Regex.Size
import RecordSchema.Regex.Term
import RecordSchema.Registry.Basic
import RecordSchema.Registry.Build
import RecordSchema.Registry.Loading
import RecordSchema.Registry.Order
import RecordSchema.Rejection
import RecordSchema.Settings
import RecordSchema.Text.Blank
import RecordSchema.Text.Hex
import RecordSchema.Text.Identifier
import RecordSchema.Text.Parts
import RecordSchema.Text.Quoted
import RecordSchema.Toml.Reader
import RecordSchema.Toml.Scalar
import RecordSchema.Toml.Table
import RecordSchema.Toml.Text
import RecordSchema.TypeError
import RecordSchema.Unicode.CaseFolding
import RecordSchema.Unicode.Category
import RecordSchema.Unicode.CodeRanges
import RecordSchema.Unicode.Property
import RecordSchema.Unicode.Script
import RecordSchema.Value
import RecordSchema.Proofs.JoinedLines
import RecordSchema.Proofs.LaterData
import RecordSchema.Proofs.RejectedCalls
import RecordSchema.Proofs.SharedPatterns
import RecordSchema.Proofs.WholeMatch
import RecordSchema.Proofs.CycleSearch
import RecordSchema.Proofs.DependencyOrder
import RecordSchema.Proofs.CycleOrder
import RecordSchema.Proofs.LineBreaks
import RecordSchema.Proofs.Unambiguous
import RecordSchema.Proofs.WaysToBuild
import RecordSchema.Proofs.Updates
import RecordSchema.Proofs.WellFormedSources
import RecordSchema.Proofs.SoundCodecs
import RecordSchema.Proofs.Idempotence
import RecordSchema.Proofs.Representable
import RecordSchema.Proofs.KeyedLists
import RecordSchema.Proofs.StrayMembers
import RecordSchema.Proofs.Dispatch
import RecordSchema.Proofs.References
import RecordSchema.Proofs.Documents
import RecordSchema.Proofs.LoadErrors
import RecordSchema.Proofs.ResolvedTexts
import RecordSchema.Proofs.DeclaredNames
import RecordSchema.Proofs.UniquePlaces
import RecordSchema.Proofs.Absence
