import FacetedSearch.Criteria.Json
import FacetedSearch.Query.Json
import FacetedSearch.Request.Basic

/-!
# `FacetedSearch.Request.Json`: requests as JSON values

Requests and aggregations are records. What is optional in them may be
missing or `null` in an object; an array gives every field.
-/

set_option autoImplicit false

namespace FacetedSearch

namespace Aggregation

/-- An aggregation as a JSON value. -/
def toJson (a : Aggregation) : Json :=
  .object [("name", .string a.name), ("field", .string a.field),
    ("size", .ofOption (fun n => .integer n.toNat) a.size)]

/-- Reads an aggregation. -/
def ofJson? (j : Json) : Option Aggregation := do
  let ms ← j.record? ["name", "field", "size"] 3
  return {
    name := ← Json.required? ms "name" Json.string?
    field := ← Json.required? ms "field" Json.string?
    size := ← Json.optional? ms "size" (Json.nullable? Json.uint32?) none }

end Aggregation

namespace Request

/-- A request as a JSON value. -/
def toJson (r : Request) : Json :=
  .object
    [("index", .string r.index),
      ("query", r.query.toJson),
      ("from", .ofOption (fun n => .integer n.toNat) r.offset),
      ("size", .ofOption (fun n => .integer n.toNat) r.size),
      ("source_includes", .ofOption .strings r.includes),
      ("sort", .ofOption SortBy.toJson r.sortBy),
      ("aggregations", .array (r.aggregations.map Aggregation.toJson))]

/-- Reads a request. -/
def ofJson? (j : Json) : Option Request := do
  let ms ← j.record?
    ["index", "query", "from", "size", "source_includes", "sort", "aggregations"] 7
  return {
    index := ← Json.required? ms "index" Json.string?
    query := ← Json.required? ms "query" Query.ofJson?
    offset := ← Json.optional? ms "from" (Json.nullable? Json.uint64?) none
    size := ← Json.optional? ms "size" (Json.nullable? Json.uint64?) none
    includes :=
      ← Json.optional? ms "source_includes" (Json.nullable? (Json.list? Json.string?)) none
    sortBy := ← Json.optional? ms "sort" (Json.nullable? SortBy.ofJson?) none
    aggregations := ← Json.required? ms "aggregations" (Json.list? Aggregation.ofJson?) }

end Request

end FacetedSearch
