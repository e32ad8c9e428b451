import MessageCatalog.Catalog.Entry
import MessageCatalog.Catalog.Error
import MessageCatalog.Catalog.Library
import MessageCatalog.Catalog.Message
import MessageCatalog.Catalog.Resolution
import MessageCatalog.Catalog.Source
import MessageCatalog.CodedError
import MessageCatalog.Document.Node
import MessageCatalog.Document.Reader
import MessageCatalog.Document.Selection
import MessageCatalog.Files.Path
import MessageCatalog.Files.Tree
import MessageCatalog.Http.Formatter
import MessageCatalog.Http.Response
import MessageCatalog.Http.Router
import MessageCatalog.Insert.Basic
import MessageCatalog.Insert.Datum
import MessageCatalog.Insert.Error
import MessageCatalog.Insert.Named
import MessageCatalog.Insert.Positional
import MessageCatalog.Json.Basic
import MessageCatalog.Json.Printer
import MessageCatalog.Json.Reader
import MessageCatalog.Json.Token
import MessageCatalog.Keyed
import MessageCatalog.Locale
import MessageCatalog.Main
import MessageCatalog.Number.Basic
import MessageCatalog.Number.Binary
import MessageCatalog.Number.Decimal
import MessageCatalog.Number.Shortest
import MessageCatalog.Settings.Basic
import MessageCatalog.Settings.Loading
import MessageCatalog.Settings.LogFilter
import MessageCatalog.Settings.Overrides
import MessageCatalog.Settings.SocketAddress
import MessageCatalog.Settings.Validation
import MessageCatalog.Startup.Arguments
import MessageCatalog.Startup.Failure
import MessageCatalog.Startup.Launch
import MessageCatalog.Startup.Logging
import MessageCatalog.Template.Placeholder
import MessageCatalog.Template.Replacement
import MessageCatalog.Template.Substitution
import MessageCatalog.Text.Alphanumeric
import MessageCatalog.Text.Alphanumeric.Table
import MessageCatalog.Text.Blank
import MessageCatalog.Text.CaseFold
import MessageCatalog.Text.CaseFold.Table
import MessageCatalog.Text.Digits
import MessageCatalog.Text.Pattern
import MessageCatalog.Text.Utf8
import MessageCatalog.Yaml.Anchor
import MessageCatalog.Yaml.CoreSchema
import MessageCatalog.Yaml.Cursor
import MessageCatalog.Yaml.Expansion
import MessageCatalog.Yaml.Property
import MessageCatalog.Yaml.Reader
import MessageCatalog.Yaml.ScalarText
import MessageCatalog.Yaml.Token
import MessageCatalog.Yaml.Token.Lexer
import MessageCatalog.Yaml.Tree
import MessageCatalog.Proofs.Catalog.Blame
import MessageCatalog.Proofs.Catalog.Documents
import MessageCatalog.Proofs.Catalog.EntryPoints
import MessageCatalog.Proofs.Catalog.Fallback
import MessageCatalog.Proofs.Catalog.Isolation
import MessageCatalog.Proofs.Catalog.LoadOrder
import MessageCatalog.Proofs.Catalog.Loading
import MessageCatalog.Proofs.Catalog.LocalPath
import MessageCatalog.Proofs.Catalog.OwnInserts
import MessageCatalog.Proofs.Catalog.Source
import MessageCatalog.Proofs.Catalog.Stages
import MessageCatalog.Proofs.Catalog.Verbosity
import MessageCatalog.Proofs.Catalog.WireForm
import MessageCatalog.Proofs.CodedError
import MessageCatalog.Proofs.Document.Members
import MessageCatalog.Proofs.Document.Record
import MessageCatalog.Proofs.Http.Formatting
import MessageCatalog.Proofs.Http.Idempotence
import MessageCatalog.Proofs.Http.OlderPayload
import MessageCatalog.Proofs.Http.Refusal
import MessageCatalog.Proofs.Insert.Decoding
import MessageCatalog.Proofs.Insert.Leaves
import MessageCatalog.Proofs.Insert.Overlay
import MessageCatalog.Proofs.Insert.Runs
import MessageCatalog.Proofs.Json.Reading
import MessageCatalog.Proofs.Json.Tokens
import MessageCatalog.Proofs.Json.Writing
import MessageCatalog.Proofs.Keyed
import MessageCatalog.Proofs.Locale
import MessageCatalog.Proofs.Number.Rounding
import MessageCatalog.Proofs.Number.Shortest
import MessageCatalog.Proofs.Number.Whole
import MessageCatalog.Proofs.Number.WireText
import MessageCatalog.Proofs.Outcome
import MessageCatalog.Proofs.Settings.Loading
import MessageCatalog.Proofs.Settings.OverrideOrder
import MessageCatalog.Proofs.Settings.Overriding
import MessageCatalog.Proofs.Settings.Rules
import MessageCatalog.Proofs.Template.CaseVariants
import MessageCatalog.Proofs.Template.Compilation
import MessageCatalog.Proofs.Template.Cut
import MessageCatalog.Proofs.Template.Expansion
import MessageCatalog.Proofs.Template.Listing
import MessageCatalog.Proofs.Template.Pass
import MessageCatalog.Proofs.Template.Reordering
import MessageCatalog.Proofs.Template.Segment
import MessageCatalog.Proofs.Template.Slots
import MessageCatalog.Proofs.Text.AsciiCase
import MessageCatalog.Proofs.Text.ByteOrder
import MessageCatalog.Proofs.Text.CaseFold
import MessageCatalog.Proofs.Text.Digits
import MessageCatalog.Proofs.Text.Trimming
import MessageCatalog.Proofs.Yaml.Reading
