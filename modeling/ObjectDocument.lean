import ObjectDocument.Calendar.Date
import ObjectDocument.Calendar.DateTime
import ObjectDocument.Calendar.Fields
import ObjectDocument.Calendar.Iso
import ObjectDocument.Calendar.Pattern
import ObjectDocument.Calendar.Scan
import ObjectDocument.CommandLine
import ObjectDocument.Config
import ObjectDocument.Conversion.Read
import ObjectDocument.Conversion.Request
import ObjectDocument.Conversion.Write
import ObjectDocument.Converter.Basic
import ObjectDocument.Converter.Dates
import ObjectDocument.DateFormat
import ObjectDocument.Decimal.Reading
import ObjectDocument.Decimal.Shortest
import ObjectDocument.Definition
import ObjectDocument.Descriptor.Basic
import ObjectDocument.Descriptor.Build
import ObjectDocument.Diagnostic
import ObjectDocument.Document.Basic
import ObjectDocument.Document.Search
import ObjectDocument.EntityType
import ObjectDocument.Entries
import ObjectDocument.Error
import ObjectDocument.Field
import ObjectDocument.FieldType
import ObjectDocument.Handle
import ObjectDocument.Index.Mapping
import ObjectDocument.Index.Name
import ObjectDocument.Index.Settings
import ObjectDocument.Json.Basic
import ObjectDocument.Json.Decode
import ObjectDocument.Json.Parser
import ObjectDocument.Json.Printer
import ObjectDocument.Json.Selection
import ObjectDocument.Json.Skip
import ObjectDocument.Kind
import ObjectDocument.Lookup
import ObjectDocument.Main
import ObjectDocument.Naming
import ObjectDocument.Property
import ObjectDocument.Role
import ObjectDocument.Shape
import ObjectDocument.Text.Alphanumeric
import ObjectDocument.Text.Blank
import ObjectDocument.Text.LetterCase
import ObjectDocument.Text.Numeral
import ObjectDocument.Text.Quoted
import ObjectDocument.Text.Spans
import ObjectDocument.Text.Split
import ObjectDocument.Validation
import ObjectDocument.Value
import ObjectDocument.Proofs.Descriptor.Tables
import ObjectDocument.Proofs.Descriptor.Structure
import ObjectDocument.Proofs.Conversion.Embedding
import ObjectDocument.Proofs.Calendar.DayNumber
import ObjectDocument.Proofs.Calendar.Fields
import ObjectDocument.Proofs.Json.Equality
import ObjectDocument.Proofs.EqualData
import ObjectDocument.Proofs.Conversion.Equivalence
import ObjectDocument.Proofs.Text.Numeral
import ObjectDocument.Proofs.Calendar.Pattern
import ObjectDocument.Proofs.Calendar.Truncation
import ObjectDocument.Proofs.Converter.Dates
import ObjectDocument.Proofs.Calendar.Iso
import ObjectDocument.Proofs.Datum
import ObjectDocument.Proofs.EntityType
import ObjectDocument.Proofs.Conversion.Leaf
import ObjectDocument.Proofs.Conversion.RoundTrip
import ObjectDocument.Proofs.Descriptor.Declaration
import ObjectDocument.Proofs.Descriptor.Roles
import ObjectDocument.Proofs.Index.Name
import ObjectDocument.Proofs.Validation
import ObjectDocument.Proofs.Descriptor.Validity
import ObjectDocument.Proofs.Descriptor.WellFormed
import ObjectDocument.Proofs.Shape
import ObjectDocument.Proofs.Update
import ObjectDocument.Proofs.Conversion.Metadata
import ObjectDocument.Proofs.Conversion.Written
import ObjectDocument.Proofs.Index.Coverage
import ObjectDocument.Proofs.Conversion.Identifier
import ObjectDocument.Proofs.Conversion.Totality
import ObjectDocument.Proofs.Conversion.Tokens
import ObjectDocument.Proofs.Conversion.Populate
import ObjectDocument.Proofs.CommandLine
import ObjectDocument.Proofs.Context
import ObjectDocument.Proofs.Index.Namesakes
import ObjectDocument.Proofs.Descriptor.DateFormats
import ObjectDocument.Proofs.Descriptor.Renaming
import ObjectDocument.Proofs.Conversion.Renaming
import ObjectDocument.Proofs.Descriptor.Errors
import ObjectDocument.Proofs.Conversion.Errors
import ObjectDocument.Proofs.Document
import ObjectDocument.Proofs.Calendar.Slots
import ObjectDocument.Proofs.Calendar.Resolution
import ObjectDocument.Proofs.Converter.Reading
import ObjectDocument.Proofs.Converter.FirstForm
import ObjectDocument.Proofs.Calendar.Range
import ObjectDocument.Proofs.Calendar.Layout
import ObjectDocument.Proofs.Converter.Epoch
import ObjectDocument.Proofs.Converter.OptionalTime
import ObjectDocument.Proofs.Conversion.DefaultForms
import ObjectDocument.Proofs.Conversion.Memberwise
import ObjectDocument.Proofs.Conversion.JsonValues
import ObjectDocument.Proofs.Entries
import ObjectDocument.Proofs.Index.Parameters
import ObjectDocument.Proofs.Index.Declarations
import ObjectDocument.Proofs.Index.Formats
import ObjectDocument.Proofs.Construction
import ObjectDocument.Proofs.Text.Split
import ObjectDocument.Proofs.Report
import ObjectDocument.Proofs.Naming
import ObjectDocument.Proofs.Descriptor.SnakeCase
import ObjectDocument.Proofs.Index.Substitution
import ObjectDocument.Proofs.Calendar.Language
import ObjectDocument.Proofs.Converter.Compilation
import ObjectDocument.Proofs.Converter.Quoting
import ObjectDocument.Proofs.Config
import ObjectDocument.Proofs.Json.Places
import ObjectDocument.Proofs.Absence
import ObjectDocument.Proofs.Conversion.Omission
import ObjectDocument.Proofs.Conversion.Nulls
