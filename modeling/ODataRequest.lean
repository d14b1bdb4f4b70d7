import ODataRequest.Address
import ODataRequest.Address.Json
import ODataRequest.Aliases
import ODataRequest.Calendar
import ODataRequest.Clause.Basic
import ODataRequest.Clause.Call
import ODataRequest.Clause.Catalog
import ODataRequest.Clause.Filter
import ODataRequest.Clause.Options
import ODataRequest.Client.Basic
import ODataRequest.Client.Body
import ODataRequest.Client.Config
import ODataRequest.Client.Description
import ODataRequest.Client.Error
import ODataRequest.Client.Json
import ODataRequest.Cursor
import ODataRequest.Cursor.Json
import ODataRequest.EntitySet.Basic
import ODataRequest.EntitySet.Json
import ODataRequest.Error
import ODataRequest.Error.Json
import ODataRequest.Expr.Application
import ODataRequest.Expr.Basic
import ODataRequest.Expr.Json
import ODataRequest.Expr.Order
import ODataRequest.Expr.Reduction
import ODataRequest.Expr.ReductionOrder
import ODataRequest.Fallible
import ODataRequest.Guid
import ODataRequest.Http.Headers
import ODataRequest.Http.Message
import ODataRequest.Http.Status
import ODataRequest.Http.Target
import ODataRequest.Json.Basic
import ODataRequest.Json.Number
import ODataRequest.Json.Printer
import ODataRequest.Json.Reader
import ODataRequest.Json.Record
import ODataRequest.Json.Token
import ODataRequest.Literal
import ODataRequest.Logged
import ODataRequest.Number.Binary64
import ODataRequest.Number.Decimal
import ODataRequest.Number.FloatText
import ODataRequest.Number.Shortest
import ODataRequest.Proofs.AliasBinding
import ODataRequest.Proofs.Alike
import ODataRequest.Proofs.ArithmeticTypes
import ODataRequest.Proofs.BaseChains
import ODataRequest.Proofs.BaseWalks
import ODataRequest.Proofs.CastMisuse
import ODataRequest.Proofs.CastNames
import ODataRequest.Proofs.Casts
import ODataRequest.Proofs.Causes
import ODataRequest.Proofs.ClauseOrder
import ODataRequest.Proofs.ClauseText
import ODataRequest.Proofs.Collecting
import ODataRequest.Proofs.Comparisons
import ODataRequest.Proofs.ComponentEncoding
import ODataRequest.Proofs.CompositeKeys
import ODataRequest.Proofs.ContentTypes
import ODataRequest.Proofs.Counts
import ODataRequest.Proofs.Coverage
import ODataRequest.Proofs.CursorKinds
import ODataRequest.Proofs.DerivedTypes
import ODataRequest.Proofs.Durations
import ODataRequest.Proofs.EchoedFormats
import ODataRequest.Proofs.EmptyClauses
import ODataRequest.Proofs.ErrorPreview
import ODataRequest.Proofs.Evaluation
import ODataRequest.Proofs.ExpandOptions
import ODataRequest.Proofs.ExpandOutcomes
import ODataRequest.Proofs.Expansion
import ODataRequest.Proofs.ExplicitResults
import ODataRequest.Proofs.FilterReader
import ODataRequest.Proofs.FilterTree
import ODataRequest.Proofs.FunctionArguments
import ODataRequest.Proofs.FunctionComposition
import ODataRequest.Proofs.Growth
import ODataRequest.Proofs.Interchange
import ODataRequest.Proofs.JoinedLists
import ODataRequest.Proofs.JsonIntegers
import ODataRequest.Proofs.JsonNumerals
import ODataRequest.Proofs.KeyMatching
import ODataRequest.Proofs.KeySegments
import ODataRequest.Proofs.KeyStyles
import ODataRequest.Proofs.KeyTexts
import ODataRequest.Proofs.Layouts
import ODataRequest.Proofs.LiteralTexts
import ODataRequest.Proofs.Literals
import ODataRequest.Proofs.Loading
import ODataRequest.Proofs.NestedCollections
import ODataRequest.Proofs.NestedLists
import ODataRequest.Proofs.Numerals
import ODataRequest.Proofs.Occurrences
import ODataRequest.Proofs.Outcomes
import ODataRequest.Proofs.Pairing
import ODataRequest.Proofs.ParameterNames
import ODataRequest.Proofs.PathCauses
import ODataRequest.Proofs.PathEncoding
import ODataRequest.Proofs.PathFrame
import ODataRequest.Proofs.PathStates
import ODataRequest.Proofs.PercentDecoding
import ODataRequest.Proofs.PropertyLists
import ODataRequest.Proofs.PropertyLookups
import ODataRequest.Proofs.QueryPairs
import ODataRequest.Proofs.QueryText
import ODataRequest.Proofs.References
import ODataRequest.Proofs.Rewrapping
import ODataRequest.Proofs.Rounds
import ODataRequest.Proofs.SearchPhrases
import ODataRequest.Proofs.StringLiterals
import ODataRequest.Proofs.TrailingOptions
import ODataRequest.Proofs.Traversal
import ODataRequest.Proofs.UntypedLists
import ODataRequest.Proofs.Utf8Runs
import ODataRequest.Proofs.Validation
import ODataRequest.Proofs.WellFormedSchemas
import ODataRequest.Proofs.WholeNumbers
import ODataRequest.Proofs.WrittenCalls
import ODataRequest.Rendering
import ODataRequest.Rendering.Json
import ODataRequest.Rendering.Nodes
import ODataRequest.Resource.Json
import ODataRequest.Resource.Mapping
import ODataRequest.Resource.Part
import ODataRequest.Schema.Basic
import ODataRequest.Schema.Cast
import ODataRequest.Schema.Inheritance
import ODataRequest.Schema.Json
import ODataRequest.Schema.Validation
import ODataRequest.Signature.Basic
import ODataRequest.Signature.Builtin
import ODataRequest.Signature.Json
import ODataRequest.Table
import ODataRequest.Text.Base64
import ODataRequest.Text.Blank
import ODataRequest.Text.Extender
import ODataRequest.Text.Hex
import ODataRequest.Text.Numeral
import ODataRequest.Text.Percent
import ODataRequest.Text.Quoted
import ODataRequest.Text.Record
import ODataRequest.Text.Replace
import ODataRequest.Text.Shapeless
import ODataRequest.Text.Unassigned
import ODataRequest.Text.Utf8
import ODataRequest.Traced
import ODataRequest.TypeRef
import ODataRequest.Value
import ODataRequest.Value.Json
