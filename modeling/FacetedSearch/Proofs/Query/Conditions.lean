import FacetedSearch.Filter.Range
import FacetedSearch.Proofs.Support.Traversal
import FacetedSearch.Text.Matching

/-!
# `FacetedSearch.Proofs.Query.Conditions`: the leaves of a query

Below its compositions a query consists of conditions on single fields.
`Query.conditions` lists them, and what is said of all numbers or of all
fields of a query is said of these.

`isFinite_bool_iff` and `isPatternFree_bool_iff` lead from a composition
to what is in its slots.
-/

set_option autoImplicit false

namespace FacetedSearch

/-- The scalar is no infinite number and no non-number. -/
def Scalar.IsFinite : Scalar → Prop
  | .float x => x.isFinite = true
  | _ => True

/-- A finite scalar comes back from JSON. -/
theorem Scalar.ofJson?_toJson {v : Scalar} (hv : v.IsFinite) : ofJson? v.toJson = some v := by
  cases v with
  | boolean b => rfl
  | text s => rfl
  | integer n =>
      have hrange : -0x8000000000000000 ≤ n.toInt ∧ n.toInt < 0x8000000000000000 :=
        ⟨n.le_toInt, n.toInt_lt⟩
      rw [toJson, ofJson?, if_pos hrange, Int64.ofInt_toInt]
  | float x =>
      have hx : x.isFinite = true := hv
      rw [toJson, if_pos hx]
      rfl

/-- The bounds that are set. -/
def Bounds.values (b : Bounds) : List Scalar := [b.gt, b.gte, b.lt, b.lte].filterMap id

theorem Bounds.mem_values_of_get {b : Bounds} {op : Operator} {v : Scalar}
    (h : b.get op = some v) : v ∈ b.values := by
  cases op <;> simp_all [values, get]

namespace Query

mutual

/-- The conditions on single fields in a query, at any depth. -/
def conditions : Query → List Query
  | .bool ⟨must, filter, should, mustNot⟩ =>
    conditionsOfAll must ++ conditionsOfAll filter ++ conditionsOfAll should ++
      conditionsOfAll mustNot
  | q => [q]

/-- The conditions in the queries of a slot. -/
def conditionsOfAll : List Query → List Query
  | [] => []
  | q :: rest => conditions q ++ conditionsOfAll rest

end

theorem conditionsOfAll_eq_flatMap (qs : List Query) :
    conditionsOfAll qs = qs.flatMap conditions := by
  induction qs with
  | nil => rfl
  | cons q rest ih => rw [conditionsOfAll, ih, List.flatMap_cons]

/-- The conditions of a composition are those in its slots. -/
theorem mem_conditions_bool {c : Clauses Query} {leaf : Query} :
    leaf ∈ (Query.bool c).conditions ↔ ∃ slot, ∃ q ∈ c.get slot, leaf ∈ q.conditions := by
  obtain ⟨must, filter, should, mustNot⟩ := c
  simp only [conditions, conditionsOfAll_eq_flatMap, List.mem_append, List.mem_flatMap]
  constructor
  · rintro (((h | h) | h) | h)
    · exact ⟨.must, h⟩
    · exact ⟨.filter, h⟩
    · exact ⟨.should, h⟩
    · exact ⟨.mustNot, h⟩
  · rintro ⟨slot, h⟩
    cases slot with
    | must => exact .inl (.inl (.inl h))
    | filter => exact .inl (.inl (.inr h))
    | should => exact .inl (.inr h)
    | mustNot => exact .inr h

/-- The scalars that a condition compares with. -/
def values : Query → List Scalar
  | .term _ value | .text _ value => [value]
  | .terms _ values => values
  | .range _ bounds => bounds.values
  | .bool _ => []

/-- Every number in a query is finite. -/
def IsFinite (q : Query) : Prop := ∀ leaf ∈ q.conditions, ∀ v ∈ leaf.values, v.IsFinite

/-- No text condition in a query is on a pattern. -/
def IsPatternFree (q : Query) : Prop :=
  ∀ field value, .text field value ∈ q.conditions → Text.isPattern field = false

theorem isFinite_bool_iff {c : Clauses Query} :
    (Query.bool c).IsFinite ↔ ∀ slot, ∀ q ∈ c.get slot, q.IsFinite := by
  simp only [IsFinite, mem_conditions_bool]
  constructor
  · intro h slot q hq leaf hleaf
    exact h leaf ⟨slot, q, hq, hleaf⟩
  · rintro h leaf ⟨slot, q, hq, hleaf⟩
    exact h slot q hq leaf hleaf

theorem isPatternFree_bool_iff {c : Clauses Query} :
    (Query.bool c).IsPatternFree ↔ ∀ slot, ∀ q ∈ c.get slot, q.IsPatternFree := by
  simp only [IsPatternFree, mem_conditions_bool]
  constructor
  · intro h slot q hq field value hleaf
    exact h field value ⟨slot, q, hq, hleaf⟩
  · rintro h field value ⟨slot, q, hq, hleaf⟩
    exact h slot q hq field value hleaf

end Query

end FacetedSearch
