import StrictTransport.Check
import StrictTransport.CommandLine.Arguments
import StrictTransport.CommandLine.Option
import StrictTransport.CommandLine.Run
import StrictTransport.Domain.Name
import StrictTransport.Https.Client
import StrictTransport.Https.Response
import StrictTransport.Json
import StrictTransport.MailHost
import StrictTransport.Main
import StrictTransport.Notice
import StrictTransport.Numeric.Binary64
import StrictTransport.Numeric.Decimal
import StrictTransport.Numeric.Integer
import StrictTransport.Numeric.Seconds
import StrictTransport.Policy.Basic
import StrictTransport.Policy.Build
import StrictTransport.Policy.Document
import StrictTransport.Policy.Mask
import StrictTransport.Policy.Mode
import StrictTransport.Policy.Retrieval
import StrictTransport.Policy.Validation
import StrictTransport.Record.Basic
import StrictTransport.Record.Lookup
import StrictTransport.Record.Parsing
import StrictTransport.Resolver.Answer
import StrictTransport.Resolver.Cache
import StrictTransport.Resolver.Query
import StrictTransport.Settings
import StrictTransport.Store.Basic
import StrictTransport.Store.Fetch
import StrictTransport.Store.Flight
import StrictTransport.Text.Basic
import StrictTransport.Text.Blank
import StrictTransport.Text.Canonical
import StrictTransport.Text.CodePoint
import StrictTransport.Text.Digit
import StrictTransport.Text.Letter
import StrictTransport.Text.Lower
import StrictTransport.Text.Quoted
import StrictTransport.Text.Split
import StrictTransport.Text.Table.CaseContext
import StrictTransport.Text.Table.CombiningClass
import StrictTransport.Text.Table.Decomposition
import StrictTransport.Text.Table.Digit
import StrictTransport.Text.Table.Lowercase
import StrictTransport.Text.Table.Range
import StrictTransport.Text.Table.Unprintable
import StrictTransport.Text.Table.Uppercase
import StrictTransport.Text.Upper
import StrictTransport.Text.Utf8
import StrictTransport.World
import StrictTransport.Proofs.Check.Fetch
import StrictTransport.Proofs.Check.Outage
import StrictTransport.Proofs.Document.Line
import StrictTransport.Proofs.Document.Parse
import StrictTransport.Proofs.Document.Render
import StrictTransport.Proofs.Domain.Name
import StrictTransport.Proofs.Https.Client
import StrictTransport.Proofs.Numeric.Integer
import StrictTransport.Proofs.Policy.Build
import StrictTransport.Proofs.Policy.Extended
import StrictTransport.Proofs.Policy.Restore
import StrictTransport.Proofs.Policy.Validity
import StrictTransport.Proofs.Record.Lookup
import StrictTransport.Proofs.Record.Recent
import StrictTransport.Proofs.Record.Token
import StrictTransport.Proofs.Resolver.Cache
import StrictTransport.Proofs.Resolver.Query
import StrictTransport.Proofs.Store.Crowd
import StrictTransport.Proofs.Store.Downgrade
import StrictTransport.Proofs.Store.Entries
import StrictTransport.Proofs.Store.Flights
import StrictTransport.Proofs.Store.Lifetime
import StrictTransport.Proofs.Store.Load
import StrictTransport.Proofs.Store.Restart
import StrictTransport.Proofs.Store.Runs
import StrictTransport.Proofs.Store.SingleFlight
import StrictTransport.Proofs.Store.Texts
import StrictTransport.Proofs.Text.Blank
import StrictTransport.Proofs.Text.Digit
import StrictTransport.Proofs.Text.Fault
import StrictTransport.Proofs.Text.Lower
import StrictTransport.Proofs.Text.Split
import StrictTransport.Proofs.Text.Utf8
import StrictTransport.Proofs.World.Log
import StrictTransport.Proofs.Check.Recent
import StrictTransport.Proofs.Record.Element
import StrictTransport.Proofs.Record.Grammar
import StrictTransport.Proofs.Record.Identity
import StrictTransport.Proofs.Text.Canonical
import StrictTransport.Proofs.Domain.Line
import StrictTransport.Proofs.Document.Pairs
import StrictTransport.Proofs.Record.Splice
import StrictTransport.Proofs.Policy.Identity
import StrictTransport.Proofs.Check.Reload
import StrictTransport.Proofs.Store.Generation
import StrictTransport.Proofs.Store.Recency
import StrictTransport.Proofs.Https.Body
import StrictTransport.Proofs.Policy.Truncation
import StrictTransport.Proofs.Check.Capped
import StrictTransport.Proofs.Document.Contribution
import StrictTransport.Proofs.Policy.Rendered
import StrictTransport.Proofs.Record.Respliced
import StrictTransport.Proofs.Policy.FixedPoint
import StrictTransport.Proofs.Policy.Mask
import StrictTransport.Proofs.Policy.Pattern
import StrictTransport.Proofs.Policy.Caution
import StrictTransport.Proofs.Policy.Clamp
import StrictTransport.Proofs.Policy.Interleaving
import StrictTransport.Proofs.Policy.Draft
import StrictTransport.Proofs.Policy.Corruption
import StrictTransport.Proofs.Policy.Encoding
import StrictTransport.Proofs.Record.Language
import StrictTransport.Proofs.Document.LineEnd
import StrictTransport.Proofs.Domain.HostName
import StrictTransport.Proofs.Document.Cut
import StrictTransport.Proofs.Record.Selection
import StrictTransport.Proofs.Check.Escape
import StrictTransport.Proofs.Resolver.Retry
import StrictTransport.Proofs.Resolver.Coherence
import StrictTransport.Proofs.Text.Composition
import StrictTransport.Proofs.Text.Small
import StrictTransport.Proofs.Domain.Idempotence
import StrictTransport.Proofs.MailHost.Order
import StrictTransport.Proofs.Check.Reorder
