import FacetedSearch.Criteria.Basic
import FacetedSearch.Response

/-!
# `FacetedSearch.Results`: results for a caller

The results of a search are the number of matches that the engine
reports, the documents of its hits in order, and the facets asked for. A
hit without document counts as an empty one. A facet is read from the
aggregation of its name; values whose text is blank are left out, and a
facet without such an aggregation is missing altogether.
-/

set_option autoImplicit false

namespace FacetedSearch

/-- A value of a facet and how many documents have it. -/
structure FacetValue where
  value : String
  count : Nat
deriving DecidableEq, Inhabited

/-- The results of a search. -/
structure Results where
  total : Nat
  documents : List Document
  facets : Entries (List FacetValue)
deriving Inhabited

namespace Results

/-- The values of a facet: the buckets whose text is not blank. -/
def facetValues (buckets : List Bucket) : List FacetValue :=
  (buckets.filter fun b => !Text.isBlankText b.key.render).map fun b => ⟨b.key.render, b.count⟩

/-- The facets that criteria ask for and an answer has. -/
def facetsOf (s : Settings) (c : Criteria) (r : Response) : Entries (List FacetValue) :=
  c.facetFields.filterMap fun field =>
    match r.aggregations.lookup (s.facetName field) with
    | some (.terms buckets) => some (field, facetValues buckets)
    | _ => none

/-- The results that criteria have in an answer. -/
def ofResponse (s : Settings) (c : Criteria) (r : Response) : Results where
  total := r.total
  documents := r.hits.map fun hit => hit.source.getD []
  facets := facetsOf s c r

end Results

end FacetedSearch
