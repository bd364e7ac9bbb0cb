import FacetedSearch.Query.Json
import FacetedSearch.Request.Basic
import FacetedSearch.Text.Matching

/-!
# `FacetedSearch.Elastic.Body`: requests for Elasticsearch

The body of an Elasticsearch search is a JSON object. A condition is
written under its form and its field:

    {"term": {f: v}}   {"terms": {f: [v, …]}}   {"match": {f: v}}   {"range": {f: {"gte": v}}}

A text condition on a pattern becomes a `multi_match`, since `match`
takes no patterns. A composition is written with the slots that hold
something. The index is no part of the body.
-/

set_option autoImplicit false

namespace FacetedSearch

namespace Query

mutual

/-- A query in the language of Elasticsearch. -/
def toElastic : Query → Json
  | .term field value => .object [("term", .object [(field, value.toJson)])]
  | .terms field values =>
    .object [("terms", .object [(field, .array (values.map Scalar.toJson))])]
  | .text field value =>
    if Text.isPattern field then
      .object [("multi_match",
        .object [("query", value.toJson), ("fields", .array [.string field])])]
    else .object [("match", .object [(field, value.toJson)])]
  | .range field bounds => .object [("range", .object [(field, bounds.toJson)])]
  | .bool ⟨must, filter, should, mustNot⟩ =>
    .object [("bool", .object
      (slotMember .must (listToElastic must) ++ slotMember .filter (listToElastic filter) ++
        slotMember .should (listToElastic should) ++
        slotMember .mustNot (listToElastic mustNot)))]

/-- The queries of a slot in the language of Elasticsearch. -/
def listToElastic : List Query → List Json
  | [] => []
  | q :: rest => toElastic q :: listToElastic rest

end

theorem listToElastic_eq_map (qs : List Query) : listToElastic qs = qs.map toElastic := by
  induction qs with
  | nil => rfl
  | cons q rest ih => simp [listToElastic, ih]

end Query

namespace Request

/-- The aggregations by name; of two with one name the last one counts. -/
def elasticAggregations (as : List Aggregation) : Entries Json :=
  Entries.collect <| as.map fun a =>
    let size := (a.size.map fun n => ("size", Json.integer n.toNat)).toList
    (a.name, .object [("terms", .object (("field", .string a.field) :: size))])

/-- The body of a request. -/
def elasticBody (r : Request) : Json :=
  let offset := (r.offset.map fun n => ("from", Json.integer n.toNat)).toList
  let size := (r.size.map fun n => ("size", Json.integer n.toNat)).toList
  let source := (r.includes.map fun fs =>
    ("_source", Json.object [("includes", .strings fs)])).toList
  let sort := (r.sortBy.map fun s =>
    ("sort", Json.array
      [.object [(s.field, .object [("order", .string s.direction.name)])]])).toList
  let aggs := if r.aggregations.isEmpty then []
    else [("aggs", Json.object (elasticAggregations r.aggregations))]
  .object
    ([("query", r.query.toElastic), ("track_total_hits", .bool true)] ++
      offset ++ size ++ source ++ sort ++ aggs)

end Request

end FacetedSearch
