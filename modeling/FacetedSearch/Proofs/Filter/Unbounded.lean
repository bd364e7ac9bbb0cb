import FacetedSearch.Proofs.Filter.Entries
import FacetedSearch.Proofs.Query.Selection

/-!
# `FacetedSearch.Proofs.Filter.Unbounded`: ranges without bounds

A map without comparisons sets no bound, so every scalar is within it
(`Bounds.admits_of_isUnbounded`). Still it is a condition on a leaf of the
field: a document meets it when one of the leaves is a scalar
(`Query.selects_unbounded_iff`). A document that has no such field, or has
`null`, an object or an empty array there, does not
(`Filter.unbounded_misses`).

In a filter the empty map therefore asks for one thing, that the field has
a scalar, and it asks for it beside whatever the other entries ask for
(`Filter.selects_unbounded_entry`).
-/

set_option autoImplicit false

namespace FacetedSearch

variable {field : String}

/-- Where no bound is set, every scalar is within the bounds. -/
theorem Bounds.admits_of_isUnbounded {b : Bounds} (hb : b.isUnbounded = true) (v : Scalar) :
    b.admits v = true := by
  simp only [isUnbounded, Bool.and_eq_true, Option.isNone_iff_eq_none] at hb
  obtain ⟨⟨⟨hgt, hgte⟩, hlt⟩, hlte⟩ := hb
  rw [admits, hgt, hgte, hlt, hlte]
  rfl

/-- Some leaf of the field is a scalar. -/
def Document.HasScalar (doc : Document) (field : String) : Prop :=
  ∃ leaf ∈ doc.leaves field, leaf.IsScalar

/-- A range without bounds selects the documents with a scalar in the field. -/
theorem Query.selects_unbounded_iff {b : Bounds} (hb : b.isUnbounded = true) {doc : Document} :
    (Query.range field b).selects doc = true ↔ doc.HasScalar field := by
  rw [selects_range_iff]
  constructor
  · rintro ⟨v, hv, -⟩
    obtain ⟨leaf, hleaf, hscalar⟩ := Document.mem_scalars.mp hv
    exact ⟨leaf, hleaf, Scalar.exists_ofJson?_iff.mp ⟨v, hscalar⟩⟩
  · rintro ⟨leaf, hleaf, hscalar⟩
    obtain ⟨v, hv⟩ := Scalar.exists_ofJson?_iff.mpr hscalar
    exact ⟨v, Document.mem_scalars.mpr ⟨leaf, hleaf, hv⟩, Bounds.admits_of_isUnbounded hb v⟩

namespace Filter

/-- The empty map of a field is a range without bounds. -/
theorem entry_empty (s : Settings) (hmustNot : field ≠ "must_not") (hbool : field ≠ "bool") :
    entry s field (.object []) = .ok (.only .must [.range field {}]) := by
  rw [entry, if_neg hmustNot, if_neg hbool]
  rfl

theorem clauses_singleton (s : Settings) (key : String) (j : Json) :
    clauses s [(key, j)] = entry s key j := by
  have hconcat (c : Clauses Query) : Clauses.concat [c] = c := Clauses.append_empty c
  rw [clauses, List.mapM_cons, List.mapM_nil]
  simp only [bind_assoc, pure_bind, hconcat, bind_pure]

/-- What a filter compiles to with the empty map of a field among its
entries, if there are no alternatives. -/
theorem compile_insert_empty {s : Settings} {es es' : Filter} {q : Query}
    (hmustNot : field ≠ "must_not") (hbool : field ≠ "bool")
    (halternatives : "bool" ∉ Entries.keys (es ++ es')) (hq : compile s (es ++ es') = .ok q) :
    ∃ q', compile s (es ++ (field, .object []) :: es') = .ok q' ∧
      ∀ doc : Document, q'.selects doc = true ↔ q.selects doc = true ∧ doc.HasScalar field := by
  obtain ⟨c, hc, rfl⟩ := compile_eq_ok_iff.mp hq
  rw [clauses_append] at hc
  simp only [bind_eq_ok_iff, pure_eq_ok_iff] at hc
  obtain ⟨a, ha, b, hb, rfl⟩ := hc
  rw [Entries.keys, List.map_append, List.mem_append, not_or] at halternatives
  have hshould := should_of_clauses ha halternatives.1
  have hshould' := should_of_clauses hb halternatives.2
  -- The clauses before the new entry, its own, and the clauses after it.
  have hclauses : clauses s (es ++ (field, .object []) :: es') =
      .ok (a ++ (.only .must [.range field {}] ++ b)) := by
    rw [← List.singleton_append, clauses_append, clauses_append, clauses_singleton, ha, hb,
      entry_empty s hmustNot hbool]
    rfl
  refine ⟨_, compile_eq_ok_iff.mpr ⟨_, hclauses, rfl⟩, fun doc => ?_⟩
  have hrest : (Clauses.only .must [Query.range field {}] ++ b).should = [] := hshould'
  rw [Clauses.selects_append hshould hrest, Clauses.selects_append hshould hshould',
    Clauses.selects_append rfl hshould', Query.selects_only_must, Bool.and_eq_true,
    Bool.and_eq_true, Bool.and_eq_true, Query.selects_unbounded_iff rfl]
  exact (and_congr_right' and_comm).trans and_assoc.symm

/-- **A map without comparisons asks for a scalar in the field**, and for
nothing else. It is taken as a range without bounds. Alone in a filter it
selects the documents in which some leaf of the field is a scalar. Beside
entries that have no alternatives, it selects those of their documents in
which this is so. -/
theorem selects_unbounded_entry (s : Settings) (hmustNot : field ≠ "must_not")
    (hbool : field ≠ "bool") :
    (range field [] = .ok (.range field {}) ∧ ({} : Bounds).isUnbounded = true) ∧
    (∀ doc : Document, (Query.range field {}).selects doc = true ↔ doc.HasScalar field) ∧
    (∃ q, compile s [(field, .object [])] = .ok q ∧
      ∀ doc : Document, q.selects doc = true ↔ doc.HasScalar field) ∧
    ∀ (es es' : Filter) (q : Query), "bool" ∉ Entries.keys (es ++ es') →
      compile s (es ++ es') = .ok q →
      ∃ q', compile s (es ++ (field, .object []) :: es') = .ok q' ∧
        ∀ doc : Document, q'.selects doc = true ↔ q.selects doc = true ∧ doc.HasScalar field := by
  refine ⟨⟨rfl, rfl⟩, fun doc => Query.selects_unbounded_iff rfl, ?_,
    fun es es' q => compile_insert_empty hmustNot hbool⟩
  -- Alone it is added to the empty filter, which selects every document.
  have hempty : compile s ([] ++ []) = .ok (.bool {}) := rfl
  obtain ⟨q, hq, hiff⟩ := compile_insert_empty hmustNot hbool List.not_mem_nil hempty
  refine ⟨q, hq, fun doc => ?_⟩
  have hall : (Query.bool {}).selects doc = true := by simp [Query.selects_bool]
  rw [hiff, hall, eq_self, true_and]

/-- An empty map among other entries: of two documents that these select,
only the one with an age is selected. -/
theorem selects_unbounded_entry_age :
    let es : Filter := [("shape", .string "round")]
    let es' : Filter := [("must_not", .string "sold")]
    ("age" ≠ "must_not" ∧ "age" ≠ "bool" ∧ "bool" ∉ Entries.keys (es ++ es')) ∧
    ∃ q q', compile {} (es ++ es') = .ok q ∧
      compile {} (es ++ ("age", .object []) :: es') = .ok q' ∧
      (q.selects [("shape", .string "round"), ("age", .integer 7)] = true ∧
        q'.selects [("shape", .string "round"), ("age", .integer 7)] = true) ∧
      (q.selects [("shape", .string "round")] = true ∧
        ¬q'.selects [("shape", .string "round")] = true) := by
  intro es es'
  have hmustNot : "age" ≠ "must_not" := by decide
  have hbool : "age" ≠ "bool" := by decide
  have halternatives : "bool" ∉ Entries.keys (es ++ es') := by decide
  obtain ⟨-, -, -, hadded⟩ := selects_unbounded_entry {} hmustNot hbool
  obtain ⟨q', hq', hiff⟩ := hadded es es' _ halternatives rfl
  have hage : Document.HasScalar [("shape", .string "round"), ("age", .integer 7)] "age" :=
    ⟨.integer 7, List.mem_singleton_self _, by decide⟩
  refine ⟨⟨hmustNot, hbool, halternatives⟩, _, q', rfl, hq', ⟨by decide, ?_⟩, by decide, ?_⟩
  · exact (hiff _).mpr ⟨by decide, hage⟩
  · rw [hiff]
    rintro ⟨-, leaf, hleaf, -⟩
    cases hleaf

/-- A range without bounds does not select everything. -/
theorem unbounded_misses :
    range "age" [] = .ok (.range "age" {}) ∧ ({} : Bounds).isUnbounded = true ∧
    (Query.range "age" {}).selects [("shape", .string "round")] = false ∧
    (Query.range "age" {}).selects [("age", .null)] = false ∧
    (Query.range "age" {}).selects [("age", .object [])] = false ∧
    (Query.range "age" {}).selects [("age", .array [])] = false ∧
    ∃ q, compile {} [("age", .object [])] = .ok q ∧
      q.selects [("shape", .string "round")] = false :=
  ⟨rfl, rfl, by decide, by decide, by decide, by decide, _, rfl, by decide⟩

end Filter

end FacetedSearch
