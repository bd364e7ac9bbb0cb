import FacetedSearch.Json.Record

/-!
# `FacetedSearch.Settings`: settings of a search service

`Settings` are what compiling a filter, assembling a request and reading
facets depend on; every one of these takes them as an argument.
`Deployment` adds where the search engine is and which index is meant
when none is named. Both are records in which every field has a default.
-/

set_option autoImplicit false

namespace FacetedSearch

/-- What the meaning of search criteria depends on. -/
structure Settings where
  /-- The fields or patterns that free text is looked for in. -/
  freeTextFields : List String := ["*"]
  /-- The field that an exclusion without a field is about. -/
  exclusionField : String := "status"
  /-- What follows the field in the name of its aggregation. -/
  facetSuffix : String := "_agg"
  /-- How many buckets a facet has; the engine decides when it is not set. -/
  facetSize : Option UInt32 := none
deriving DecidableEq, Inhabited

/-- The name of the aggregation of a facet. -/
def Settings.facetName (s : Settings) (field : String) : String := field ++ s.facetSuffix

/-- Reads settings from a JSON value. -/
def Settings.ofJson? (j : Json) : Option Settings := do
  let standard : Settings := {}
  let ms ← j.record?
    ["free_text_fields", "exclusion_field", "facet_agg_suffix", "facet_size"] 0
  return {
    freeTextFields :=
      ← Json.optional? ms "free_text_fields" (Json.list? Json.string?) standard.freeTextFields
    exclusionField := ← Json.optional? ms "exclusion_field" Json.string? standard.exclusionField
    facetSuffix := ← Json.optional? ms "facet_agg_suffix" Json.string? standard.facetSuffix
    facetSize := ← Json.optional? ms "facet_size" (Json.nullable? Json.uint32?) none }

/-- What a search service is run with. -/
structure Deployment where
  /-- Where the search engine answers. -/
  engineUrl : Option String := none
  /-- How long one request may take, in milliseconds. -/
  requestTimeout : UInt64 := 10000
  /-- The index that is searched when none is named. -/
  defaultIndex : String := "community_entity"
  settings : Settings := {}
deriving DecidableEq, Inhabited

end FacetedSearch
