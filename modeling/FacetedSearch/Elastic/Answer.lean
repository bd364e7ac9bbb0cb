import FacetedSearch.Failure
import FacetedSearch.Response

/-!
# `FacetedSearch.Elastic.Answer`: answers of Elasticsearch

An answer is only refused when it does not say how many documents
matched. Everything else that is not as expected is read as missing: a
hit keeps its place whatever it holds, and a bucket without a usable key
has the empty text for its key.
-/

set_option autoImplicit false

namespace FacetedSearch

/-- Reads a hit. -/
def Hit.ofElastic (j : Json) : Hit where
  id := (j.get? "_id").bind Json.string?
  source := (j.get? "_source").bind Json.object?

/-- Reads a bucket; the key as a text, if there is one, is preferred. -/
def Bucket.ofElastic (j : Json) : Bucket where
  key := ((j.get? "key_as_string" <|> j.get? "key").bind Scalar.ofJson?).getD (.text "")
  count := ((j.get? "doc_count").bind (Json.natural? UInt64.size)).getD 0

/-- Reads what came back for an aggregation. -/
def Aggregate.ofElastic (j : Json) : Aggregate :=
  match (j.get? "buckets").bind Json.array? with
  | some buckets => .terms (buckets.map Bucket.ofElastic)
  | none => .other

namespace Response

/-- The number of matches that the `hits` section of an answer reports. -/
def totalOfElastic? (hits : Json) : Option Nat := do
  match ← hits.get? "total" with
  | .object members => (Json.object members).get? "value" >>= Json.natural? UInt64.size
  | total => total.natural? UInt64.size

/-- Reads an answer. -/
def ofElastic (body : Json) : Except Failure Response :=
  match body.get? "hits" with
  | none => .error (.protocol "response has no 'hits' section")
  | some hits =>
    match totalOfElastic? hits with
    | none => .error (.protocol "response has no usable 'hits.total'")
    | some total => .ok {
        total
        hits := (((hits.get? "hits").bind Json.array?).getD []).map Hit.ofElastic
        aggregations := (((body.get? "aggregations").bind Json.object?).getD []).map
          fun (name, j) => (name, Aggregate.ofElastic j) }

end Response

end FacetedSearch
