import FacetedSearch.Proofs.Query.RoundTrip
import FacetedSearch.Request.Json

/-!
# `FacetedSearch.Proofs.Request.RoundTrip`: messages that are written and read

Everything that is handed over as JSON comes back as it was: queries,
requests, aggregations and criteria (`ofJson?_toJson` of each, and all of
them in `decode_encode`). Only the numbers of a query have to be
finite, because JSON has no others.
-/

set_option autoImplicit false

namespace FacetedSearch

theorem Direction.ofJson?_toJson (d : Direction) : ofJson? d.toJson = some d := by
  cases d <;> rfl

theorem SortBy.ofJson?_toJson (s : SortBy) : ofJson? s.toJson = some s := by
  have hfield : Json.string? (.string s.field) = some s.field := rfl
  rw [ofJson?, toJson, Json.record?]
  simp only [Option.bind_eq_bind, Option.bind_some]
  rw [Json.required?_of_member rfl hfield, Option.bind_some,
    Json.optional?_of_member rfl s.direction.ofJson?_toJson, Option.bind_some]
  rfl

theorem Aggregation.ofJson?_toJson (a : Aggregation) : ofJson? a.toJson = some a := by
  have hsize : Json.nullable? Json.uint32? (.ofOption (fun n => .integer n.toNat) a.size) =
      some a.size :=
    Json.nullable?_ofOption rfl fun n _ => Json.uint32?_toNat n
  have hstring (t : String) : Json.string? (.string t) = some t := rfl
  rw [ofJson?, toJson, Json.record?]
  simp only [Option.bind_eq_bind, Option.bind_some]
  rw [Json.required?_of_member rfl (hstring a.name), Option.bind_some,
    Json.required?_of_member rfl (hstring a.field), Option.bind_some,
    Json.optional?_of_member rfl hsize, Option.bind_some]
  rfl

/-- A request whose numbers are finite is read back as it was written. -/
theorem Request.ofJson?_toJson {r : Request} (hr : r.query.IsFinite) :
    ofJson? r.toJson = some r := by
  have hnumber (o : Option UInt64) :
      Json.nullable? Json.uint64? (.ofOption (fun n => .integer n.toNat) o) = some o :=
    Json.nullable?_ofOption rfl fun n _ => Json.uint64?_toNat n
  have hincludes :
      Json.nullable? (Json.list? Json.string?) (.ofOption .strings r.includes) =
        some r.includes :=
    Json.nullable?_ofOption rfl fun fs _ => Json.list?_strings fs
  have hsort : Json.nullable? SortBy.ofJson? (.ofOption SortBy.toJson r.sortBy) =
      some r.sortBy :=
    Json.nullable?_ofOption rfl fun s _ => s.ofJson?_toJson
  have haggregations :
      Json.list? Aggregation.ofJson? (.array (r.aggregations.map Aggregation.toJson)) =
        some r.aggregations :=
    Json.list?_map fun a _ => a.ofJson?_toJson
  have hindex : Json.string? (.string r.index) = some r.index := rfl
  rw [ofJson?, toJson, Json.record?]
  simp only [Option.bind_eq_bind, Option.bind_some]
  rw [Json.required?_of_member rfl hindex, Option.bind_some,
    Json.required?_of_member rfl (Query.ofJson?_toJson hr), Option.bind_some,
    Json.optional?_of_member rfl (hnumber r.offset), Option.bind_some,
    Json.optional?_of_member rfl (hnumber r.size), Option.bind_some,
    Json.optional?_of_member rfl hincludes, Option.bind_some,
    Json.optional?_of_member rfl hsort, Option.bind_some,
    Json.required?_of_member rfl haggregations, Option.bind_some]
  rfl

namespace Criteria

/-- A collection is read back, whether or not there is anything in it. -/
theorem collection?_of_read {α : Type} {read : Json → Option α} {empty v : α} {j : Json}
    (hnull : read .null = none) (h : read j = some v) : collection? read empty j = some v := by
  rw [collection?, Json.nullable?_of_read hnull h]
  rfl

/-- Criteria are read back as they were written. -/
theorem ofJson?_toJson (c : Criteria) : ofJson? c.toJson = some c := by
  have hnumber (o : Option UInt32) :
      Json.nullable? Json.uint32? (.ofOption (fun n => .integer n.toNat) o) = some o :=
    Json.nullable?_ofOption rfl fun n _ => Json.uint32?_toNat n
  have hstrings (ss : List String) :
      collection? (Json.list? Json.string?) [] (.strings ss) = some ss :=
    collection?_of_read rfl (Json.list?_strings ss)
  have hfilter : collection? Json.object? [] (.object c.filter) = some c.filter :=
    collection?_of_read rfl rfl
  have htext : Json.nullable? Json.string? (.ofOption .string c.searchText) =
      some c.searchText :=
    Json.nullable?_ofOption rfl fun _ _ => rfl
  have hsort : Json.nullable? SortBy.ofJson? (.ofOption SortBy.toJson c.sortBy) =
      some c.sortBy :=
    Json.nullable?_ofOption rfl fun s _ => s.ofJson?_toJson
  rw [ofJson?, toJson, Json.record?]
  simp only [Option.bind_eq_bind, Option.bind_some]
  rw [Json.optional?_of_member rfl (hnumber c.pageNumber), Option.bind_some,
    Json.optional?_of_member rfl (hnumber c.pageSize), Option.bind_some,
    Json.optional?_of_member rfl (hstrings c.requestedFields), Option.bind_some,
    Json.optional?_of_member rfl hfilter, Option.bind_some,
    Json.optional?_of_member rfl (hstrings c.facets), Option.bind_some,
    Json.optional?_of_member rfl htext, Option.bind_some,
    Json.optional?_of_member rfl hsort, Option.bind_some]
  rfl

end Criteria

/-- **What is written is read back as it was.** A query, a request, an
aggregation and criteria come back equal, integers as integers and other
numbers as such. The reader of scalars inside messages and the one that
filters are read by are the same. -/
theorem decode_encode :
    (∀ q : Query, q.IsFinite → Query.ofJson? q.toJson = some q) ∧
      (∀ r : Request, r.query.IsFinite → Request.ofJson? r.toJson = some r) ∧
      (∀ a : Aggregation, Aggregation.ofJson? a.toJson = some a) ∧
      (∀ c : Criteria, Criteria.ofJson? c.toJson = some c) ∧
      (∀ (j : Json) (v : Scalar), Scalar.decode? j = some v ↔ Scalar.ofJson? j = some v) ∧
      ∀ v : Scalar, v.IsFinite → Scalar.ofJson? v.toJson = some v := by
  refine ⟨fun q hq => Query.ofJson?_toJson hq, fun r hr => Request.ofJson?_toJson hr,
    Aggregation.ofJson?_toJson, Criteria.ofJson?_toJson, fun j v => ?_,
    fun v hv => Scalar.ofJson?_toJson hv⟩
  rw [Scalar.decode?_eq_ofJson?]

/-- A request with one as an integer and as a number, with a composition
that holds an empty one, and with options that are set and ones that are
not. -/
def mixedRequest : Request where
  index := "books"
  query := .bool {
    must := [.terms "n" [.integer 1, .float ⟨0x3ff0000000000000⟩, .text "1"], .bool {}]
    mustNot := [.range "n" { gte := some (.integer (-3)) }] }
  size := some 10
  includes := some []
  aggregations := [⟨"n_facet", "n", none⟩]

theorem decode_encode_mixed :
    mixedRequest.query.IsFinite ∧
      Query.ofJson? mixedRequest.query.toJson = some mixedRequest.query ∧
      Request.ofJson? mixedRequest.toJson = some mixedRequest ∧
      (Scalar.integer 1).IsFinite ∧
      Scalar.ofJson? (Scalar.integer 1).toJson = some (.integer 1) := by
  have hfinite : mixedRequest.query.IsFinite := by
    simp [mixedRequest, Query.IsFinite, Query.conditions, Query.conditionsOfAll, Query.values,
      Bounds.values, Scalar.IsFinite]
    decide
  obtain ⟨hquery, hrequest, -, -, -, hscalar⟩ := decode_encode
  exact ⟨hfinite, hquery _ hfinite, hrequest _ hfinite, trivial, hscalar _ trivial⟩

end FacetedSearch
