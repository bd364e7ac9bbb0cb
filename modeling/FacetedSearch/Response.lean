import FacetedSearch.Scalar

/-!
# `FacetedSearch.Response`: answers of a search engine

An answer gives how many documents matched, the hits of the page that
was asked for, and the counts of the aggregations by name. A hit may
come without identifier or without document.
-/

set_option autoImplicit false

namespace FacetedSearch

/-- One document of an answer. -/
structure Hit where
  id : Option String
  source : Option Document
deriving Inhabited

/-- How many documents have a value. -/
structure Bucket where
  key : Scalar
  count : Nat
deriving DecidableEq, Inhabited

/-- What came back for an aggregation. -/
inductive Aggregate where
  /-- The distinct values with their counts. -/
  | terms (buckets : List Bucket)
  /-- Anything else. -/
  | other
deriving DecidableEq, Inhabited

/-- An answer of a search engine. -/
structure Response where
  total : Nat
  hits : List Hit
  aggregations : Entries Aggregate
deriving Inhabited

end FacetedSearch
