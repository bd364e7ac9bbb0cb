import FacetedSearch.Query.Basic
import FacetedSearch.Proofs.Query.Conditions
import Mathlib.Algebra.BigOperators.Group.List.Basic
import Mathlib.Algebra.Order.Group.Multiset

/-!
# `FacetedSearch.Proofs.Query.Occurrences`: what a query mentions, and where

A query mentions scalars, one by one or as bounds that have to hold
together. An `Occurrence` is one such mention: the field that it is
about, and how many times it has been excluded, which is the number of
`mustNot` slots that it stands in.

The occurrences are a multiset, so `occurrences` can tell whether two
queries mention the same things as often as each other, and does not see
in which order. Joining compositions adds their occurrences
(`occurrences_append`, `occurrences_concat`), and putting queries into a
slot at most excludes theirs once more (`occurrences_only`).
-/

set_option autoImplicit false

namespace FacetedSearch

/-- What is mentioned: a scalar, or all bounds of one condition together. -/
inductive Content where
  | value (v : Scalar)
  | bounds (b : Bounds)
deriving DecidableEq

/-- One mention of a scalar or of bounds. -/
structure Occurrence where
  field : String
  /-- The number of `mustNot` slots around it. -/
  exclusions : Nat
  content : Content
deriving DecidableEq

namespace Occurrence

/-- The occurrence with one more `mustNot` slot around it. -/
def excluded (o : Occurrence) : Occurrence := { o with exclusions := o.exclusions + 1 }

/-- The occurrence as it is in a slot with this key. -/
def under (key : String) (o : Occurrence) : Occurrence :=
  if key = "must_not" then o.excluded else o

end Occurrence

namespace Query

mutual

/-- Everything a query mentions. -/
def occurrences : Query → Multiset Occurrence
  | .term field value | .text field value => {⟨field, 0, .value value⟩}
  | .terms field values => (values : Multiset Scalar).map fun v => ⟨field, 0, .value v⟩
  | .range field bounds =>
    ⟨field, 0, .bounds bounds⟩ ::ₘ
      (bounds.values : Multiset Scalar).map fun v => ⟨field, 0, .value v⟩
  | .bool ⟨must, filter, should, mustNot⟩ =>
    occurrencesOfAll must + occurrencesOfAll filter + occurrencesOfAll should +
      (occurrencesOfAll mustNot).map .excluded

/-- Everything that the queries of a slot mention. -/
def occurrencesOfAll : List Query → Multiset Occurrence
  | [] => 0
  | q :: rest => occurrences q + occurrencesOfAll rest

end

theorem occurrencesOfAll_eq_sum (qs : List Query) :
    occurrencesOfAll qs = (qs.map occurrences).sum := by
  induction qs with
  | nil => rfl
  | cons q rest ih => rw [occurrencesOfAll, ih, List.map_cons, List.sum_cons]

theorem occurrencesOfAll_singleton (q : Query) : occurrencesOfAll [q] = q.occurrences := by
  rw [occurrencesOfAll, occurrencesOfAll, add_zero]

theorem occurrencesOfAll_append (qs qs' : List Query) :
    occurrencesOfAll (qs ++ qs') = occurrencesOfAll qs + occurrencesOfAll qs' := by
  simp only [occurrencesOfAll_eq_sum, List.map_append, List.sum_append]

theorem occurrencesOfAll_flatten (qss : List (List Query)) :
    occurrencesOfAll qss.flatten = (qss.map occurrencesOfAll).sum := by
  induction qss with
  | nil => rfl
  | cons qs rest ih =>
      rw [List.flatten_cons, occurrencesOfAll_append, ih, List.map_cons, List.sum_cons]

/-- Joined compositions mention what each of them does. -/
theorem occurrences_append (c c' : Clauses Query) :
    (Query.bool (c ++ c')).occurrences =
      (Query.bool c).occurrences + (Query.bool c').occurrences := by
  show occurrencesOfAll (c.must ++ c'.must) + occurrencesOfAll (c.filter ++ c'.filter) +
    occurrencesOfAll (c.should ++ c'.should) +
    (occurrencesOfAll (c.mustNot ++ c'.mustNot)).map .excluded =
    (Query.bool c).occurrences + (Query.bool c').occurrences
  simp only [occurrences, occurrencesOfAll_append, Multiset.map_add]
  -- Slots are joined one by one, so their parts change places.
  ac_rfl

theorem occurrences_concat (cs : List (Clauses Query)) :
    (Query.bool (.concat cs)).occurrences =
      (cs.map fun c => (Query.bool c).occurrences).sum := by
  induction cs with
  | nil => rfl
  | cons c rest ih =>
      have hconcat : Clauses.concat (c :: rest) = c ++ Clauses.concat rest := rfl
      rw [hconcat, occurrences_append, ih, List.map_cons, List.sum_cons]

/-- One slot mentions what its queries do, `mustNot` once more excluded. -/
theorem occurrences_only (slot : Slot) (qs : List Query) :
    (Query.bool (.only slot qs)).occurrences =
      (occurrencesOfAll qs).map (.under slot.name) := by
  have hsame {key : String} (hkey : key ≠ "must_not") : Occurrence.under key = id := by
    funext o
    rw [Occurrence.under, if_neg hkey]
    rfl
  cases slot with
  | mustNot =>
      have hunder : Occurrence.under (Slot.mustNot).name = Occurrence.excluded := rfl
      simp [Clauses.only, occurrences, occurrencesOfAll, hunder]
  | _ => simp [Clauses.only, occurrences, occurrencesOfAll, Slot.name, hsame]

end Query

end FacetedSearch
