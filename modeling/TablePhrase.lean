import TablePhrase.Literal.Agreement
import TablePhrase.Main
import TablePhrase.Operation.Json
import TablePhrase.Proofs.Session.Refusal
import TablePhrase.Proofs.Session.Transition
import TablePhrase.Proofs.Session.Refresh
import TablePhrase.Proofs.Literal.Agreement
import TablePhrase.Proofs.Literal.RoundTrip
import TablePhrase.Proofs.Literal.Delimited
import TablePhrase.Proofs.Session.Consistency
import TablePhrase.Proofs.Entity.Decoded
import TablePhrase.Proofs.Catalog.Coverage
import TablePhrase.Proofs.Catalog.Totality
import TablePhrase.Proofs.Lifting.Cut
import TablePhrase.Proofs.Phrase.Token
import TablePhrase.Proofs.Phrase.Quote
import TablePhrase.Proofs.Phrase.Number
import TablePhrase.Proofs.Phrase.Condition
import TablePhrase.Proofs.Phrase.Lifting
import TablePhrase.Proofs.Phrase.Pattern
import TablePhrase.Proofs.Phrase.Grounding
import TablePhrase.Proofs.Session.Selection
import TablePhrase.Proofs.Session.Independence
import TablePhrase.Proofs.Session.Keywords
import TablePhrase.Proofs.Session.Typing
import TablePhrase.Proofs.Lifting.Spans
import TablePhrase.Proofs.Text.Count
import TablePhrase.Proofs.Lifting.Conservation
import TablePhrase.Proofs.Workspace.Ownership
import TablePhrase.Proofs.Session.Labels
import TablePhrase.Proofs.Catalog.Labels
import TablePhrase.Proofs.Json.RoundTrip
import TablePhrase.Proofs.Template.Slots
import TablePhrase.Proofs.Template.Substitution
import TablePhrase.Proofs.Resolution.Ranking
import TablePhrase.Proofs.Resolution.Selection
import TablePhrase.Proofs.Resolution.Independence
import TablePhrase.Proofs.Resolution.Literals
import TablePhrase.Proofs.Literal.Json
import TablePhrase.Proofs.Timestamp
import TablePhrase.Proofs.Directory
import TablePhrase.Proofs.Memory.File
import TablePhrase.Proofs.Memory.Run
import TablePhrase.Proofs.Memory.Refusal
import TablePhrase.Proofs.Command.Render
import TablePhrase.Proofs.Template.Numbering
import TablePhrase.Proofs.Text.Quoted
import TablePhrase.Proofs.Literal.Grammar
import TablePhrase.Proofs.Command.Memory
import TablePhrase.Proofs.Text.Split
import TablePhrase.Proofs.Lifting.Place
import TablePhrase.Proofs.Lifting.Guard
import TablePhrase.Proofs.Entity.Quoted
import TablePhrase.Proofs.Workspace.History
import TablePhrase.Proofs.Session.TypedLabel
import TablePhrase.Proofs.Resolution.Columns
import TablePhrase.Proofs.Lifting.NumberSpan
import TablePhrase.Proofs.Lifting.Lossless
import TablePhrase.Proofs.Lifting.NumberSearch
import TablePhrase.Proofs.Catalog.Mapping
import TablePhrase.Proofs.Workspace.Insertion
import TablePhrase.Proofs.Phrase.Occurrence
import TablePhrase.Proofs.Phrase.Replacement
