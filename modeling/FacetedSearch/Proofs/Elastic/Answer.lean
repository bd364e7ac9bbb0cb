import FacetedSearch.Proofs.Elastic.Buckets

/-!
# `FacetedSearch.Proofs.Elastic.Answer`: what is made of any answer

An answer is any JSON value. It is refused when it reports no total, and
for nothing else (`Elastic.total_eq_some_iff`). Whatever its other parts are,
each has its place in the results: there is one document for every item of
`hits`, empty where the item has no source, and a facet for every array of
buckets that was asked for. `Response.results_of_elastic` says this of all
answers, criteria and settings.
-/

set_option autoImplicit false

namespace FacetedSearch

namespace Elastic

/-- The number of matches that an answer reports, as a number of 64 bits or as
the value of an object. -/
def ReportsTotal (body : Json) (n : Nat) : Prop :=
  (body.walk ["hits", "total"] = some (.integer n) ∨
    body.walk ["hits", "total", "value"] = some (.integer n)) ∧ n < UInt64.size

/-- The items of the hits; none if they are in no array. -/
def HasItems (body : Json) : List Json → Prop :=
  Otherwise (fun items => body.walk ["hits", "hits"] = some (.array items)) []

/-- The source of a hit; the empty document if that is no object. -/
def HasSource (hit : Json) : Document → Prop :=
  Otherwise (fun doc => hit.get? "_source" = some (.object doc)) []

variable {body hit : Json}

theorem total_eq_some_iff {n : Nat} :
    (body.get? "hits").bind Response.totalOfElastic? = some n ↔ ReportsTotal body n := by
  have htotal : body.walk ["hits", "total"] = (body.get? "hits").bind (Json.get? "total") := by
    simp only [Json.walk, Option.bind_fun_some]
  have hvalue : body.walk ["hits", "total", "value"] =
      (body.walk ["hits", "total"]).bind (Json.get? "value") :=
    Json.walk_concat ["hits", "total"] "value" body
  rw [ReportsTotal, hvalue, htotal]
  cases body.get? "hits" with
  | none => simp
  | some hits =>
      rw [Option.bind_some, Option.bind_some, Response.totalOfElastic?]
      -- An object is looked into for its value, and anything else is read as it is.
      cases hits.get? "total" with
      | none => simp
      | some total =>
          cases total with
          | object members => simp [Option.bind_eq_some_iff, Json.natural?_eq_some_iff]
          | _ => simp [Json.natural?_eq_some_iff, Json.get?]

theorem hasItems_iff {items : List Json} : HasItems body items ↔
    ((body.walk ["hits", "hits"]).bind Json.array?).getD [] = items := by
  refine otherwise_iff fun items => ?_
  rw [Option.bind_eq_some_iff]
  simp [Json.array?_eq_some_iff]

theorem hasSource_iff {doc : Document} : HasSource hit doc ↔
    (Hit.ofElastic hit).source.getD [] = doc := by
  refine otherwise_iff fun doc => ?_
  rw [Hit.ofElastic, Option.bind_eq_some_iff]
  simp [Json.object?_eq_some_iff]

end Elastic

namespace Response

open Elastic (ReportsTotal HasItems HasSource Listed)

variable {body : Json}

/-- An answer that reports a total is read. -/
theorem exists_ofElastic {total : Nat} (h : ReportsTotal body total) :
    ∃ r, ofElastic body = .ok r ∧ r.total = total := by
  refine ⟨⟨total, _, _⟩, ofElastic_eq_ok_iff.mpr ⟨?_, rfl, rfl⟩, rfl⟩
  exact Elastic.total_eq_some_iff.mpr h

/-- Any other answer is refused for breaking the protocol. -/
theorem ofElastic_of_not_reportsTotal (h : ¬∃ total, ReportsTotal body total) :
    ∃ reason, ofElastic body = .error (.protocol reason) := by
  simp only [← Elastic.total_eq_some_iff] at h
  rw [ofElastic]
  cases hhits : body.get? "hits" with
  | none => exact ⟨_, rfl⟩
  | some hits =>
      have htotal : totalOfElastic? hits = none := by
        rw [hhits, Option.bind_some] at h
        exact Option.eq_none_iff_forall_ne_some.mpr fun total htotal => h ⟨total, htotal⟩
      simp only [htotal]
      exact ⟨_, rfl⟩

/-- There is one document for each item of the hits. -/
theorem documents_of_ofElastic {r : Response} (h : ofElastic body = .ok r) (s : Settings)
    (c : Criteria) :
    ∃ items, HasItems body items ∧
      List.Forall₂ HasSource items (Results.ofResponse s c r).documents := by
  obtain ⟨-, hhits, -⟩ := ofElastic_eq_ok_iff.mp h
  refine ⟨_, Elastic.hasItems_iff.mpr rfl, ?_⟩
  rw [Results.ofResponse, ← hhits, List.map_map, List.forall₂_map_right_iff, List.forall₂_same]
  exact fun _ _ => Elastic.hasSource_iff.mpr rfl

/-- **Every part of an answer keeps its place, and only the total can refuse
it.** If an answer reports a total, it is read, whatever else it holds. Then
its results have this total; one document for each item of its hits, in
their order; and exactly those of the facets asked for, each once, for which
it has an array of buckets, with the values that these are listed as. If it
reports none, it is refused for breaking the protocol, and trying again will
not help. -/
theorem results_of_elastic (body : Json) :
    (∀ total, ReportsTotal body total → ∃ r, ofElastic body = .ok r ∧
      ∀ (s : Settings) (c : Criteria),
        let results := Results.ofResponse s c r
        results.total = total ∧
        (∃ items, HasItems body items ∧ List.Forall₂ HasSource items results.documents) ∧
        (Entries.keys results.facets).Nodup ∧
        ∀ field values, results.facets.lookup field = some values ↔ field ∈ c.facets ∧
          ∃ buckets,
            body.walk ["aggregations", s.facetName field, "buckets"] = some (.array buckets) ∧
            Listed buckets values) ∧
    ((¬∃ total, ReportsTotal body total) →
      ∃ reason, ofElastic body = .error (.protocol reason) ∧
        (Failure.protocol reason).isTransient = false) := by
  constructor
  · intro total htotal
    obtain ⟨r, hr, rfl⟩ := exists_ofElastic htotal
    exact ⟨r, hr, fun s c => ⟨rfl, documents_of_ofElastic hr s c,
      Results.nodup_keys_facetsOf s c r, fun _ _ => Results.lookup_facets_iff hr⟩⟩
  · intro h
    obtain ⟨reason, hreason⟩ := ofElastic_of_not_reportsTotal h
    exact ⟨reason, hreason, rfl⟩

/-- An answer of which not much but the total is as it should be. -/
def damaged : Json :=
  .object
    [("hits", .object
      [("total", .object [("value", .integer 2)]),
      ("hits", .array [.integer 5, .object [("_source", .object [])], .object [("_id", .null)]])]),
    ("aggregations", .object
      [("colour_agg", .object [("buckets", .array
        [.null, .object [("key", .string "red"), ("doc_count", .string "9")]])]),
      ("size_agg", .array [])])]

theorem results_of_elastic_damaged :
    (∃ r, ofElastic damaged = .ok r ∧
      let results := Results.ofResponse {} { facets := ["colour", "size", "colour"] } r
      results.total = 2 ∧ results.documents.length = 3 ∧
      results.facets.lookup "colour" = some [⟨"red", 0⟩] ∧
      results.facets.lookup "size" = none) ∧
    ∃ reason, ofElastic (.object [("hits", .object [("total", .integer (-1))])]) =
      .error (.protocol reason) := by
  constructor
  · have htotal : ReportsTotal damaged 2 := ⟨.inr rfl, by decide⟩
    obtain ⟨r, hr, hresults⟩ := (results_of_elastic damaged).1 2 htotal
    obtain ⟨htotal, ⟨items, hitems, hdocuments⟩, -, hfacets⟩ :=
      hresults {} { facets := ["colour", "size", "colour"] }
    obtain rfl := Elastic.hasItems_iff.mp hitems
    refine ⟨r, hr, htotal, hdocuments.length_eq.symm, ?_, ?_⟩
    · exact (hfacets _ _).mpr ⟨by decide, _, rfl, Elastic.listed_iff.mpr rfl⟩
    · refine Option.eq_none_iff_forall_ne_some.mpr fun values hvalues => ?_
      obtain ⟨-, buckets, hbuckets, -⟩ := (hfacets _ _).mp hvalues
      cases hbuckets
  · have hnone : ¬∃ total, ReportsTotal (.object [("hits", .object [("total", .integer (-1))])])
        total := by
      rintro ⟨total, hnumber | hobject, -⟩
      · cases hnumber
      · cases hobject
    obtain ⟨reason, hreason, -⟩ := (results_of_elastic _).2 hnone
    exact ⟨reason, hreason⟩

end Response

end FacetedSearch
