import FacetedSearch.Proofs.Session.Search
import FacetedSearch.Proofs.Support.Entries
import Mathlib

/-!
# `FacetedSearch.Proofs.Session.Facets`: every facet from its own counts

A facet is asked for as an aggregation, answered under the name of that
aggregation, and looked up by the name again. Names are made of a field
and a suffix that all have in common, so different facets have different
names (`facetName_injective`), whatever the fields are called: none is
written over by another one in the answer, and none is found in another
one's place (`lookup_aggregations`).

`facets_of_search` is what follows for a search: its facets are the ones
that were asked for, each once, and each has the values that its field has
in the documents that match, but for the blank ones.
-/

set_option autoImplicit false

namespace FacetedSearch

/-! ### Names -/

/-- Different facets have aggregations of different names. -/
theorem Settings.facetName_injective (s : Settings) : Function.Injective s.facetName := by
  intro field field' h
  exact String.append_left_inj s.facetSuffix |>.mp h

namespace Request

variable {s : Settings} {index : String} {q : Query} {c : Criteria}

/-- No two aggregations of a request have the same name. -/
theorem nodup_aggregationNames :
    ((assemble s index q c).aggregations.map (·.name)).Nodup := by
  have hnames : (assemble s index q c).aggregations.map (·.name) =
      c.facetFields.map s.facetName := by
    simp [assemble, facetAggregations, Function.comp_def]
  rw [hnames]
  exact (nodup_distinct c.facets).map s.facetName_injective

end Request

/-! ### Answers -/

namespace Results

variable {s : Settings} {index : String} {q : Query} {c : Criteria} {found : List Stored}

/-- The values that a facet has in documents, blank ones left out. -/
def facetOf (s : Settings) (field : String) (docs : List Document) : List FacetValue :=
  facetValues ((Tally.ofDocuments field docs).ranked.take
    ((s.facetSize.map (·.toNat)).getD defaultSize))

/-- A facet is answered under the name of its aggregation. -/
theorem lookup_aggregations {field : String} (hfield : field ∈ c.facets) :
    (Store.respond (Request.assemble s index q c) found).aggregations.lookup
      (s.facetName field) =
      some ((⟨s.facetName field, field, s.facetSize⟩ : Aggregation).answer
        (found.map Stored.document)) := by
  -- An answer is collected from its entries, which loses none as no name is repeated.
  have hkeys : (Entries.keys ((Request.assemble s index q c).aggregations.map fun a =>
      (a.name, a.answer (found.map Stored.document)))).Nodup := by
    rw [Entries.keys, List.map_map]
    exact Request.nodup_aggregationNames
  show (Entries.collect _).lookup _ = _
  rw [Entries.collect_eq_self hkeys, Entries.lookup_eq_some_iff hkeys]
  have hmem : (⟨s.facetName field, field, s.facetSize⟩ : Aggregation) ∈
      (Request.assemble s index q c).aggregations :=
    List.mem_map.mpr ⟨field, mem_distinct.mpr hfield, rfl⟩
  exact List.mem_map.mpr ⟨_, hmem, rfl⟩

/-- Every facet that was asked for has its values, in the order of their
first mention. -/
theorem facets_respond :
    (ofResponse s c (Store.respond (Request.assemble s index q c) found)).facets =
      c.facetFields.map fun field => (field, facetOf s field (found.map Stored.document)) := by
  show facetsOf s c (Store.respond _ found) = _
  rw [facetsOf, ← List.filterMap_eq_map]
  refine List.filterMap_congr fun field hfield => ?_
  rw [lookup_aggregations (mem_distinct.mp hfield)]
  rfl

/-- The facets are the ones that were asked for. -/
theorem keys_facets_respond :
    Entries.keys (ofResponse s c (Store.respond (Request.assemble s index q c) found)).facets =
      c.facetFields := by
  rw [facets_respond, Entries.keys, List.map_map]
  exact List.map_id _

/-- Every facet shows the values that its field has in the documents that
were found. -/
theorem lookup_facets_respond {field : String} (hfield : field ∈ c.facets) :
    (ofResponse s c (Store.respond (Request.assemble s index q c) found)).facets.lookup field =
      some (facetOf s field (found.map Stored.document)) := by
  have hnodup : (Entries.keys (ofResponse s c
      (Store.respond (Request.assemble s index q c) found)).facets).Nodup := by
    rw [keys_facets_respond]
    exact nodup_distinct c.facets
  rw [Entries.lookup_eq_some_iff hnodup, facets_respond]
  exact List.mem_map.mpr ⟨field, mem_distinct.mpr hfield, rfl⟩

end Results

/-- **Every facet comes back with its own values.** -/
theorem Session.facets_of_search {s s' : Session} {index : String} {c : Criteria}
    {results : Results} (h : s.search index c = some (.ok results, s')) :
    ∃ q docs found, c.compile s.settings = .ok q ∧ s.store.indices.lookup index = some docs ∧
      let r := Request.assemble s.settings index q c
      Store.hits s.store.sorter docs r = some found ∧
      found.Perm (docs.filter fun d => q.selects d.document) ∧
      (r.aggregations.map (·.name)).Nodup ∧
      (Entries.keys results.facets).Nodup ∧
      (∀ field, field ∈ Entries.keys results.facets ↔ field ∈ c.facets) ∧
      ∀ field ∈ c.facets, results.facets.lookup field = some
        ((((Tally.ofDocuments field (found.map Stored.document)).ranked.take
          ((s.settings.facetSize.map (·.toNat)).getD 10)).filter
            fun b => !Text.isBlankText b.key.render).map fun b => ⟨b.key.render, b.count⟩) := by
  obtain ⟨q, docs, found, hq, hdocs, hfound, rfl⟩ := results_of_search h
  refine ⟨q, docs, found, hq, hdocs, hfound, Store.perm_of_hits hfound,
    Request.nodup_aggregationNames, ?_, ?_, ?_⟩
  · rw [Results.keys_facets_respond]
    exact nodup_distinct c.facets
  · intro field
    rw [Results.keys_facets_respond]
    exact mem_distinct
  · intro field hfield
    exact Results.lookup_facets_respond hfield

/-- Two documents with a field of which the name ends in the suffix. -/
def garage : List Stored :=
  [⟨"1", [("tag", .array [.string "red", .string " "]), ("tag_agg", .string "car")]⟩,
    ⟨"2", [("tag", .string "red")]⟩]

/-- A session in front of the garage. -/
def garageSession : Session where
  store := { indices := [("garage", garage)] }

/-- Facets for both fields, one of them twice. -/
def tagged : Criteria where
  facets := ["tag", "tag_agg", "tag"]

theorem Session.facets_of_search_tagged :
    ∃ results s', garageSession.search "garage" tagged = some (.ok results, s') ∧
      results.facets.lookup "tag" = some [⟨"red", 2⟩] ∧
      results.facets.lookup "tag_agg" = some [⟨"car", 1⟩] := by
  have h : garageSession.search "garage" tagged = some (.ok _, _) := search_of_answer rfl rfl
  obtain ⟨q, docs, found, hq, hdocs, hfound, -, -, -, -, hfacets⟩ := facets_of_search h
  cases hq
  cases hdocs
  cases hfound
  refine ⟨_, _, h, ?_, ?_⟩
  · rw [hfacets "tag" (by decide)]
    cbv
  · rw [hfacets "tag_agg" (by decide)]
    cbv

end FacetedSearch
