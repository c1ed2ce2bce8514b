import BoolQuery.Converter
import BoolQuery.Stemmer
import BoolQuery.Settings.Discovery
import BoolQuery.Settings.Template
import BoolQuery.Json.Value
import BoolQuery.Table
import BoolQuery.Text.Quoted
import BoolQuery.Command.Run
import BoolQuery.Main
import BoolQuery.Proofs.Postfix.Denotation
import BoolQuery.Proofs.Postfix.Accounting
import BoolQuery.Proofs.Postfix.Completion
import BoolQuery.Proofs.Expression
import BoolQuery.Proofs.Canonical
import BoolQuery.Proofs.Settings.Isolation
import BoolQuery.Proofs.Settings.Render
import BoolQuery.Proofs.Detachment
import BoolQuery.Proofs.Postfix.Markers
import BoolQuery.Proofs.Postfix.Layers
import BoolQuery.Proofs.Postfix.Substitution
import BoolQuery.Proofs.Diagnostic
import BoolQuery.Proofs.Command.Files
import BoolQuery.Proofs.Command.Record
import BoolQuery.Proofs.Command.Lines
import BoolQuery.Proofs.LetterCase
import BoolQuery.Proofs.Settings.Precedence
import BoolQuery.Proofs.Parents
import BoolQuery.Proofs.Settings.Search
import BoolQuery.Proofs.Settings.Global
import BoolQuery.Proofs.Command.Choices
import BoolQuery.Proofs.Stemming.Names
import BoolQuery.Proofs.Stemming.Idempotence
import BoolQuery.Proofs.Command.Listing
