import FacetedSearch.Entries
import FacetedSearch.Distinct
import FacetedSearch.Number.Binary64
import FacetedSearch.Number.Shortest
import FacetedSearch.Text.Characters
import FacetedSearch.Text.Alphanumeric
import FacetedSearch.Text.Lowercase
import FacetedSearch.Text.Matching
import FacetedSearch.Json.Basic
import FacetedSearch.Json.Literal
import FacetedSearch.Json.Record
import FacetedSearch.Json.Writer
import FacetedSearch.Scalar
import FacetedSearch.Query.Basic
import FacetedSearch.Query.Json
import FacetedSearch.Settings
import FacetedSearch.Filter.Error
import FacetedSearch.Filter.Range
import FacetedSearch.Filter.Clauses
import FacetedSearch.Criteria.Basic
import FacetedSearch.Criteria.Json
import FacetedSearch.Request.Basic
import FacetedSearch.Request.Json
import FacetedSearch.Failure
import FacetedSearch.Response
import FacetedSearch.Elastic.Body
import FacetedSearch.Elastic.Answer
import FacetedSearch.Elastic.Endpoint
import FacetedSearch.Results
import FacetedSearch.Document.Path
import FacetedSearch.Document.Projection
import FacetedSearch.Document.Matching
import FacetedSearch.Document.Sorting
import FacetedSearch.Document.Tally
import FacetedSearch.Store
import FacetedSearch.Backoff
import FacetedSearch.Metrics
import FacetedSearch.Session
import FacetedSearch.Proofs.Support.Traversal
import FacetedSearch.Proofs.Support.Rearrangement
import FacetedSearch.Proofs.Json.Scalar
import FacetedSearch.Proofs.Filter.Composition
import FacetedSearch.Proofs.Filter.Range
import FacetedSearch.Proofs.Filter.Reading
import FacetedSearch.Proofs.Query.Selection
import FacetedSearch.Proofs.Filter.Meaning
import FacetedSearch.Proofs.Filter.Grammar
import FacetedSearch.Proofs.Query.Conditions
import FacetedSearch.Proofs.Query.WireForm
import FacetedSearch.Proofs.Criteria.Narrowing
import FacetedSearch.Proofs.Json.KeyOrder
import FacetedSearch.Proofs.Query.Agreement
import FacetedSearch.Proofs.Query.Algebra
import FacetedSearch.Proofs.Backoff.Attempts
import FacetedSearch.Proofs.Backoff.Outcomes
import FacetedSearch.Proofs.Backoff.Delays
import FacetedSearch.Proofs.Session.Search
import FacetedSearch.Proofs.Filter.KeyOrder
import FacetedSearch.Proofs.Session.Paging
import FacetedSearch.Proofs.Support.Entries
import FacetedSearch.Proofs.Session.Facets
import FacetedSearch.Proofs.Number.Integers
import FacetedSearch.Proofs.Number.Rounding
import FacetedSearch.Proofs.Document.DrillDown
import FacetedSearch.Proofs.Document.Ranking
import FacetedSearch.Proofs.Session.Presentation
import FacetedSearch.Proofs.Session.Retries
import FacetedSearch.Proofs.Session.Returns
import FacetedSearch.Proofs.Session.Traceless
import FacetedSearch.Proofs.Json.Record
import FacetedSearch.Proofs.Query.RoundTrip
import FacetedSearch.Proofs.Request.RoundTrip
import FacetedSearch.Proofs.Elastic.Injectivity
import FacetedSearch.Proofs.Query.Occurrences
import FacetedSearch.Proofs.Filter.Occurrences
import FacetedSearch.Proofs.Filter.Conservation
import FacetedSearch.Proofs.Store.History
import FacetedSearch.Proofs.Document.Integers
import FacetedSearch.Proofs.Metrics.Report
import FacetedSearch.Proofs.Session.Balance
import FacetedSearch.Proofs.Json.Walk
import FacetedSearch.Proofs.Document.Insertion
import FacetedSearch.Proofs.Document.Projection
import FacetedSearch.Proofs.Filter.Unbounded
import FacetedSearch.Proofs.Backoff.Pauses
import FacetedSearch.Proofs.Scalar.Comparison
import FacetedSearch.Proofs.Query.Trichotomy
import FacetedSearch.Proofs.Document.Order
import FacetedSearch.Proofs.Store.Sorting
import FacetedSearch.Proofs.Document.Buckets
import FacetedSearch.Proofs.Text.Wildcard
import FacetedSearch.Proofs.Text.Words
import FacetedSearch.Proofs.Document.Texts
import FacetedSearch.Proofs.Query.Words
import FacetedSearch.Proofs.Filter.Rewording
import FacetedSearch.Proofs.Document.Paths
import FacetedSearch.Proofs.Elastic.Buckets
import FacetedSearch.Proofs.Filter.Spelling
import FacetedSearch.Proofs.Elastic.Answer
