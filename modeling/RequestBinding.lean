import RequestBinding.Argument
import RequestBinding.Binding
import RequestBinding.Compilation
import RequestBinding.Config
import RequestBinding.Decimal.Reader
import RequestBinding.Decimal.Shortest
import RequestBinding.Decimal.Style
import RequestBinding.Declaration
import RequestBinding.Decoder
import RequestBinding.Dictionary
import RequestBinding.Dispatch
import RequestBinding.Extractor.Basic
import RequestBinding.Extractor.RecordPlan
import RequestBinding.Extractor.Target
import RequestBinding.Fault
import RequestBinding.Field
import RequestBinding.Handler
import RequestBinding.Http.Form
import RequestBinding.Http.Method
import RequestBinding.Http.Request
import RequestBinding.Http.Response
import RequestBinding.Http.RoutePattern
import RequestBinding.Injector.Basic
import RequestBinding.Injector.Direct
import RequestBinding.Injector.Gathering
import RequestBinding.Injector.Plan
import RequestBinding.Json.Basic
import RequestBinding.Json.Parser
import RequestBinding.Json.Printer
import RequestBinding.Pattern.Bracket
import RequestBinding.Pattern.Compile
import RequestBinding.Pattern.Cursor
import RequestBinding.Pattern.Escape
import RequestBinding.Pattern.Fault
import RequestBinding.Pattern.Group
import RequestBinding.Pattern.Match
import RequestBinding.Pattern.Meaning
import RequestBinding.Pattern.Message
import RequestBinding.Pattern.Nesting
import RequestBinding.Pattern.Parser
import RequestBinding.Pattern.Regex
import RequestBinding.Pattern.Size
import RequestBinding.Pattern.Written
import RequestBinding.Placement
import RequestBinding.Position
import RequestBinding.Proofs.Compiled.Alike
import RequestBinding.Proofs.Compiled.Anew
import RequestBinding.Proofs.Compiled.Faithful
import RequestBinding.Proofs.Compiled.Legality
import RequestBinding.Proofs.Compiled.Objection
import RequestBinding.Proofs.Compiled.Parts
import RequestBinding.Proofs.Compiled.PathFields
import RequestBinding.Proofs.Compiled.Reuse
import RequestBinding.Proofs.Compiled.Targets
import RequestBinding.Proofs.Compiled.UnderWay
import RequestBinding.Proofs.Compiled.Uploads
import RequestBinding.Proofs.Contents.Agreement
import RequestBinding.Proofs.Contents.Basic
import RequestBinding.Proofs.Contents.Outcome
import RequestBinding.Proofs.Contents.Reading
import RequestBinding.Proofs.Contents.Views
import RequestBinding.Proofs.Decimal.Integers
import RequestBinding.Proofs.Decoder
import RequestBinding.Proofs.Dispatch.Answer
import RequestBinding.Proofs.Dispatch.Refusal
import RequestBinding.Proofs.Dispatch.Release
import RequestBinding.Proofs.Double.Order
import RequestBinding.Proofs.Double.Rounding
import RequestBinding.Proofs.Extractor.Absence
import RequestBinding.Proofs.Extractor.Attribution
import RequestBinding.Proofs.Extractor.Effects
import RequestBinding.Proofs.Extractor.Files
import RequestBinding.Proofs.Extractor.Headers
import RequestBinding.Proofs.Extractor.Integers
import RequestBinding.Proofs.Extractor.Lacking
import RequestBinding.Proofs.Extractor.Optional
import RequestBinding.Proofs.Extractor.Records
import RequestBinding.Proofs.Extractor.Refusal
import RequestBinding.Proofs.Extractor.Relocation
import RequestBinding.Proofs.Extractor.Repetition
import RequestBinding.Proofs.Feed
import RequestBinding.Proofs.Http.Addition
import RequestBinding.Proofs.Http.Cookies
import RequestBinding.Proofs.Http.Method
import RequestBinding.Proofs.Http.RoutePattern
import RequestBinding.Proofs.Http.Submission
import RequestBinding.Proofs.Injector.Arguments
import RequestBinding.Proofs.Injector.Choice
import RequestBinding.Proofs.Injector.Direct
import RequestBinding.Proofs.Injector.Rule
import RequestBinding.Proofs.Injector.Signature
import RequestBinding.Proofs.Injector.Verdict
import RequestBinding.Proofs.Json.Normal
import RequestBinding.Proofs.Json.Reading
import RequestBinding.Proofs.Json.RoundTrip
import RequestBinding.Proofs.Pattern.Match
import RequestBinding.Proofs.Pattern.Plain
import RequestBinding.Proofs.Pattern.Sequences
import RequestBinding.Proofs.Pattern.SimpleForms
import RequestBinding.Proofs.Pattern.Size
import RequestBinding.Proofs.Pattern.Texts
import RequestBinding.Proofs.Position
import RequestBinding.Proofs.Resolution.Account
import RequestBinding.Proofs.Resolution.Bodyless
import RequestBinding.Proofs.Resolution.Calls
import RequestBinding.Proofs.Resolution.Counting
import RequestBinding.Proofs.Resolution.Decoding
import RequestBinding.Proofs.Resolution.Ledger
import RequestBinding.Proofs.Resolution.Origin
import RequestBinding.Proofs.Resolution.Production
import RequestBinding.Proofs.Resolution.Replacement
import RequestBinding.Proofs.Resolution.Steps
import RequestBinding.Proofs.Resolution.Tickets
import RequestBinding.Proofs.Resolution.Upkeep
import RequestBinding.Proofs.RouteTable.WriteOnce
import RequestBinding.Proofs.Routine.Custody
import RequestBinding.Proofs.Routine.Ends
import RequestBinding.Proofs.Routine.Steps
import RequestBinding.Proofs.Schema.Conformance
import RequestBinding.Proofs.Schema.Findings
import RequestBinding.Proofs.Schema.FormatPatterns
import RequestBinding.Proofs.Schema.Formats
import RequestBinding.Proofs.Schema.InPlace
import RequestBinding.Proofs.Schema.Lacking
import RequestBinding.Proofs.Schema.Range
import RequestBinding.Proofs.Source.Shape
import RequestBinding.Proofs.Text.ByteOrder
import RequestBinding.Proofs.Text.Capitals
import RequestBinding.Proofs.Text.Pieces
import RequestBinding.Proofs.Text.SmallLetters
import RequestBinding.Proofs.Upload.Desk
import RequestBinding.Proofs.Upload.Store
import RequestBinding.Proofs.Value.Lookup
import RequestBinding.Proofs.Value.Readers
import RequestBinding.Proofs.Violation.Location
import RequestBinding.Quantity
import RequestBinding.Resolution
import RequestBinding.RouteTable
import RequestBinding.Routine.Basic
import RequestBinding.Routine.Schedule
import RequestBinding.Schema.Basic
import RequestBinding.Schema.Coercion
import RequestBinding.Schema.Format
import RequestBinding.Schema.Validation
import RequestBinding.Scope
import RequestBinding.Serializer
import RequestBinding.Session
import RequestBinding.Source.Basic
import RequestBinding.Source.Inference
import RequestBinding.Source.Shape
import RequestBinding.Text.Blank
import RequestBinding.Text.CaseTable
import RequestBinding.Text.LetterCase
import RequestBinding.Text.Quoted
import RequestBinding.Text.Ranges
import RequestBinding.Text.Split
import RequestBinding.Text.UnprintableTable
import RequestBinding.Text.Utf8
import RequestBinding.Text.Word
import RequestBinding.Text.WordTable
import RequestBinding.Unicode.AgeTable
import RequestBinding.Unicode.CaseFolding
import RequestBinding.Unicode.CategoryTable
import RequestBinding.Unicode.CharSet
import RequestBinding.Unicode.NameTable
import RequestBinding.Unicode.Newest
import RequestBinding.Unicode.Property
import RequestBinding.Unicode.PropertyTable
import RequestBinding.Unicode.Query
import RequestBinding.Unicode.ScriptTable
import RequestBinding.Upload
import RequestBinding.Value
import RequestBinding.Violation
