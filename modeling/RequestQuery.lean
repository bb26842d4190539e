import RequestQuery.Main
import RequestQuery.Files.Tree
import RequestQuery.Json.Reader
import RequestQuery.Proofs.Filter.Meaning
import RequestQuery.Proofs.Filter.RoundTrip
import RequestQuery.Proofs.Filter.Composition
import RequestQuery.Proofs.Filter.Listing
import RequestQuery.Proofs.Filter.Loss
import RequestQuery.Proofs.SortKey.Demands
import RequestQuery.Proofs.SortKey.Canonical
import RequestQuery.Proofs.SortKey.Identifier
import RequestQuery.Proofs.Query
import RequestQuery.Proofs.Refusal
import RequestQuery.Proofs.Query.Outcome
import RequestQuery.Proofs.Query.Arrangement
import RequestQuery.Proofs.Query.Strict
import RequestQuery.Proofs.Query.Extension
import RequestQuery.Proofs.Query.Run
import RequestQuery.Proofs.Query.Resent
import RequestQuery.Proofs.PageNumber.Strict
import RequestQuery.Proofs.PageNumber.Text
import RequestQuery.Proofs.PageNumber.Numeral
import RequestQuery.Proofs.Bag.Form
import RequestQuery.Proofs.Bag.Run
import RequestQuery.Proofs.Registry
import RequestQuery.Proofs.Registry.Run
import RequestQuery.Proofs.Registry.Addressing
import RequestQuery.Proofs.Decimal.Literal
import RequestQuery.Proofs.Decimal.Natural
import RequestQuery.Proofs.Decimal.Numeral
import RequestQuery.Proofs.Decimal.Rounding
import RequestQuery.Proofs.Decimal.Nearest
import RequestQuery.Proofs.Decimal.Shortest
import RequestQuery.Proofs.Json.Token
import RequestQuery.Proofs.Json.Writer
import RequestQuery.Proofs.Data.Members
import RequestQuery.Proofs.Data.Codec
import RequestQuery.Proofs.Exchange
import RequestQuery.Proofs.Query.Json
import RequestQuery.Proofs.Text.Utf8
import RequestQuery.Proofs.Toml.Quoted
import RequestQuery.Proofs.Toml.Document
import RequestQuery.Proofs.Toml.Scalar
import RequestQuery.Proofs.Toml.Statement
import RequestQuery.Proofs.Settings
import RequestQuery.Proofs.Settings.Partial
import RequestQuery.Proofs.Files.Place
import RequestQuery.Proofs.Files.Tree
import RequestQuery.Proofs.Files.Modification
import RequestQuery.Proofs.Files.Confined
import RequestQuery.Proofs.Stored
import RequestQuery.Proofs.Log.Confined
import RequestQuery.Proofs.Command.Arguments
import RequestQuery.Proofs.Command.Outcome
import RequestQuery.Proofs.Command.Logging
