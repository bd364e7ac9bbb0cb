import FacetedSearch.Document.Matching

/-!
# `FacetedSearch.Proofs.Query.Selection`: which documents a query selects

The evaluator answers with truth values. Here its answer is a statement,
one for each form of query, about the leaves of a field or about the
queries in the slots of a composition. What else is proved of queries
starts from these.
-/

set_option autoImplicit false

namespace FacetedSearch

theorem Document.mem_scalars {doc : Document} {field : String} {v : Scalar} :
    v ∈ doc.scalars field ↔ ∃ leaf ∈ doc.leaves field, Scalar.ofJson? leaf = some v :=
  List.mem_filterMap

namespace Query

variable {doc : Document}

theorem selects_term_iff {field : String} {value : Scalar} :
    (Query.term field value).selects doc = true ↔
      ∃ v ∈ doc.scalars field, v.sameValue value = true := by
  rw [selects, List.any_eq_true]

theorem selects_terms_iff {field : String} {values : List Scalar} :
    (Query.terms field values).selects doc = true ↔
      ∃ v ∈ doc.scalars field, ∃ value ∈ values, v.sameValue value = true := by
  rw [selects, List.any_eq_true]
  simp only [List.any_eq_true]

theorem selects_text_iff {field : String} {value : Scalar} :
    (Query.text field value).selects doc = true ↔
      ∃ s ∈ doc.texts field, ∃ word ∈ Text.words s, word ∈ Text.words value.render := by
  rw [selects, List.any_eq_true]
  simp only [Text.sharesWord, List.any_eq_true, List.contains_iff_mem]

theorem selects_range_iff {field : String} {bounds : Bounds} :
    (Query.range field bounds).selects doc = true ↔
      ∃ v ∈ doc.scalars field, bounds.admits v = true := by
  rw [selects, List.any_eq_true]

/-- A composition selects what is selected by everything required, by
nothing excluded and, when nothing is required, by one of the
alternatives. -/
theorem selects_bool_iff {c : Clauses Query} :
    (Query.bool c).selects doc = true ↔
      (∀ q ∈ c.must ++ c.filter, q.selects doc = true) ∧
        (¬∃ q ∈ c.mustNot, q.selects doc = true) ∧
        (c.must ++ c.filter = [] → c.should ≠ [] → ∃ q ∈ c.should, q.selects doc = true) := by
  have halternatives : (c.should.isEmpty || !c.must.isEmpty || !c.filter.isEmpty ||
      c.should.any (·.selects doc)) = true ↔
      (c.must ++ c.filter = [] → c.should ≠ [] → ∃ q ∈ c.should, q.selects doc = true) := by
    cases hmust : c.must <;> cases hfilter : c.filter <;> cases hshould : c.should <;> simp
  have hexcluded : (!c.mustNot.any (·.selects doc)) = true ↔
      ¬∃ q ∈ c.mustNot, q.selects doc = true := by
    rw [Bool.not_eq_true', ← Bool.not_eq_true, List.any_eq_true]
  rw [selects_bool, Bool.and_eq_true, Bool.and_eq_true, Bool.and_eq_true, halternatives, hexcluded,
    List.all_eq_true, List.all_eq_true, List.forall_mem_append, and_assoc]

end Query

/-- Joined compositions select what each of them does, unless there are
alternatives. -/
theorem Clauses.selects_append {a b : Clauses Query} (ha : a.should = []) (hb : b.should = [])
    (doc : Document) :
    (Query.bool (a ++ b)).selects doc =
      ((Query.bool a).selects doc && (Query.bool b).selects doc) := by
  have hmust : (a ++ b).must = a.must ++ b.must := rfl
  have hfilter : (a ++ b).filter = a.filter ++ b.filter := rfl
  have hmustNot : (a ++ b).mustNot = a.mustNot ++ b.mustNot := rfl
  have hshould : (a ++ b).should = a.should ++ b.should := rfl
  rw [Query.selects_bool, Query.selects_bool, Query.selects_bool, hmust, hfilter, hmustNot, hshould,
    ha, hb]
  simp only [List.all_append, List.any_append, List.append_nil, List.isEmpty_nil, Bool.true_or,
    Bool.and_true, Bool.not_or]
  ac_rfl

/-- A composition of one requirement selects what the requirement does. -/
theorem Query.selects_only_must (q : Query) (doc : Document) :
    (Query.bool (.only .must [q])).selects doc = q.selects doc := by
  simp [Clauses.only, selects_bool]

end FacetedSearch
