import FacetedSearch.Criteria.Basic
import FacetedSearch.Json.Literal

/-!
# `FacetedSearch.Criteria.Json`: criteria as JSON values

Criteria are a record in which every field has a default and a
collection may also be `null`. Writing always gives all seven members.
-/

set_option autoImplicit false

namespace FacetedSearch

/-- A direction as a JSON value. -/
def Direction.toJson (d : Direction) : Json := .string d.name

/-- Reads a direction: its name, or an object from its name to `null`. -/
def Direction.ofJson? : Json → Option Direction
  | .string name | .object [(name, .null)] =>
    if name = "asc" then some .ascending
    else if name = "desc" then some .descending
    else none
  | _ => none

namespace SortBy

/-- A field to sort by as a JSON value. -/
def toJson (s : SortBy) : Json :=
  .object [("field", .string s.field), ("order", s.direction.toJson)]

/-- Reads a field to sort by. -/
def ofJson? (j : Json) : Option SortBy := do
  let ms ← j.record? ["field", "order"] 1
  return {
    field := ← Json.required? ms "field" Json.string?
    direction := ← Json.optional? ms "order" Direction.ofJson? .ascending }

end SortBy

namespace Criteria

/-- Criteria as a JSON value. -/
def toJson (c : Criteria) : Json :=
  .object
    [("pageNumber", .ofOption (fun n => .integer n.toNat) c.pageNumber),
      ("pageSize", .ofOption (fun n => .integer n.toNat) c.pageSize),
      ("requestedFields", .strings c.requestedFields),
      ("filterCriteriaMap", .object c.filter),
      ("facets", .strings c.facets),
      ("searchString", .ofOption .string c.searchText),
      ("sortBy", .ofOption SortBy.toJson c.sortBy)]

/-- Reads a collection, of which `null` is the empty one. -/
def collection? {α : Type} (read : Json → Option α) (empty : α) (j : Json) : Option α :=
  (Json.nullable? read j).map (·.getD empty)

/-- Reads criteria. -/
def ofJson? (j : Json) : Option Criteria := do
  let ms ← j.record? ["pageNumber", "pageSize", "requestedFields", "filterCriteriaMap",
    "facets", "searchString", "sortBy"] 0
  return {
    pageNumber := ← Json.optional? ms "pageNumber" (Json.nullable? Json.uint32?) none
    pageSize := ← Json.optional? ms "pageSize" (Json.nullable? Json.uint32?) none
    requestedFields :=
      ← Json.optional? ms "requestedFields" (collection? (Json.list? Json.string?) []) []
    filter := ← Json.optional? ms "filterCriteriaMap" (collection? Json.object? []) []
    facets := ← Json.optional? ms "facets" (collection? (Json.list? Json.string?) []) []
    searchText := ← Json.optional? ms "searchString" (Json.nullable? Json.string?) none
    sortBy := ← Json.optional? ms "sortBy" (Json.nullable? SortBy.ofJson?) none }

/-- The members of criteria that a text may give once. -/
def shape : Json.Shape :=
  .record [("pageNumber", .any), ("pageSize", .any), ("requestedFields", .any),
    ("filterCriteriaMap", .any), ("facets", .any), ("searchString", .any),
    ("sortBy", .record [("field", .any), ("order", .choice)])]

/-- Reads criteria from a JSON text. -/
def parse? (s : String) : Option Criteria := (Json.parseFor? shape s).bind ofJson?

end Criteria

end FacetedSearch
