import FacetedSearch.Document.Sorting
import FacetedSearch.Proofs.Scalar.Comparison

/-!
# `FacetedSearch.Proofs.Document.Order`: how documents compare

Compared the other way round, two documents are in the opposite order
(`SortBy.compare_swap`), and a document without a scalar comes after every
document with one. But comparing is not transitive. Scalars of two kinds
count as equal, so a text between two numbers is equal to both of them,
whichever is the larger one. Such documents straddle, and this is the only
way in which the order breaks (`SortBy.straddles_iff`).

So the order holds for a list in which no three documents straddle
(`SortBy.consistent_iff`). Such a list is sorted, and what counts as equal
keeps its places, whatever the way of sorting is (`SortBy.exists_sort`).
Where all scalars are of one kind, no documents straddle
(`SortBy.not_straddles_of_kind`).
-/

set_option autoImplicit false

namespace FacetedSearch

/-- How two scalars compare if the first one belongs after the second. -/
def Direction.wrongWay : Direction → Ordering
  | .ascending => .gt
  | .descending => .lt

namespace SortBy

variable {s : SortBy} {u v w : Scalar} {a b c : Document}

/-! ### Scalars in a direction -/

theorem compareScalars_swap (s : SortBy) (v w : Scalar) :
    s.compareScalars w v = (s.compareScalars v w).swap := by
  rw [compareScalars, compareScalars, Scalar.compare?_swap v w]
  cases v.compare? w with
  | none => cases s.direction <;> rfl
  | some o => cases s.direction <;> cases o <;> rfl

theorem compareScalars_eq_gt_iff :
    s.compareScalars v w = .gt ↔ v.compare? w = some s.direction.wrongWay := by
  rw [compareScalars]
  cases v.compare? w with
  | none => cases s.direction <;> decide
  | some o => cases s.direction <;> cases o <;> decide

/-- Falling order is rising order with the sides exchanged. -/
theorem compareScalars_descending (field : String) (v w : Scalar) :
    compareScalars ⟨field, .descending⟩ v w = compareScalars ⟨field, .ascending⟩ w v := by
  rw [compareScalars_swap]
  exact Ordering.swap_swap

/-- Scalars of two kinds count as equal. -/
theorem compareScalars_of_not_sameKind (h : ¬v.SameKind w) : s.compareScalars v w = .eq := by
  rw [compareScalars, Scalar.compare?_eq_none_iff.mpr h]
  cases s.direction <;> rfl

/-- Within a kind, either direction is an order. -/
theorem compareScalars_trans (huv : u.SameKind v) (hvw : v.SameKind w)
    (h : s.compareScalars u v ≠ .gt) (h' : s.compareScalars v w ≠ .gt) :
    s.compareScalars u w ≠ .gt := by
  have hrising {field : String} {u v w : Scalar} (huv : u.SameKind v) (hvw : v.SameKind w)
      (h : compareScalars ⟨field, .ascending⟩ u v ≠ .gt)
      (h' : compareScalars ⟨field, .ascending⟩ v w ≠ .gt) :
      compareScalars ⟨field, .ascending⟩ u w ≠ .gt := by
    obtain ⟨o, ho⟩ := Scalar.exists_compare?_iff.mpr huv
    obtain ⟨o', ho'⟩ := Scalar.exists_compare?_iff.mpr hvw
    simp only [compareScalars, ho, ho', Option.getD_some] at h h'
    obtain ⟨o'', ho'', hle⟩ := Scalar.compare?_trans ho ho' (Ordering.isLE_iff_ne_gt.mpr h)
      (Ordering.isLE_iff_ne_gt.mpr h')
    simpa only [compareScalars, ho'', Option.getD_some] using Ordering.isLE_iff_ne_gt.mp hle
  obtain ⟨field, direction⟩ := s
  cases direction with
  | ascending => exact hrising huv hvw h h'
  | descending =>
    rw [compareScalars_descending] at h h' ⊢
    exact hrising hvw.symm huv.symm h' h

/-! ### Documents -/

theorem compare_of_scalars (ha : a.scalar? s.field = some v) (hb : b.scalar? s.field = some w) :
    s.compare a b = s.compareScalars v w := by
  rw [compare, ha, hb]

/-- One of two documents with scalars belongs after the other if its scalar does. -/
theorem compare_eq_gt_iff (ha : a.scalar? s.field = some v) (hb : b.scalar? s.field = some w) :
    s.compare a b = .gt ↔ v.compare? w = some s.direction.wrongWay := by
  rw [compare_of_scalars ha hb, compareScalars_eq_gt_iff]

/-- Documents with equal scalars tie. -/
theorem compare_eq_eq_of_sameValue (ha : (a.scalar? s.field).any (·.sameValue u) = true)
    (hb : (b.scalar? s.field).any (·.sameValue u) = true) : s.compare a b = .eq := by
  obtain ⟨v, hv, hvu⟩ := (Option.any_eq_true _ _).mp ha
  obtain ⟨w, hw, hwu⟩ := (Option.any_eq_true _ _).mp hb
  rw [Scalar.sameValue_iff_compare?] at hvu hwu
  rw [compare_of_scalars hv hw, compareScalars, Scalar.compare?_eq_of_eq hvu hwu]
  cases s.direction <;> rfl

/-- Documents without a scalar tie. -/
theorem compare_eq_eq_of_isNone (ha : (a.scalar? s.field).isNone = true)
    (hb : (b.scalar? s.field).isNone = true) : s.compare a b = .eq := by
  rw [Option.isNone_iff_eq_none] at ha hb
  rw [compare, ha, hb]

/-- Compared the other way round, documents are in the opposite order. -/
theorem compare_swap (s : SortBy) (a b : Document) : s.compare b a = (s.compare a b).swap := by
  rw [compare, compare]
  cases a.scalar? s.field with
  | none => cases b.scalar? s.field <;> rfl
  | some v =>
    cases b.scalar? s.field with
    | none => rfl
    | some w => exact compareScalars_swap s v w

/-- A document that does not come after one with a scalar has a scalar. -/
theorem exists_scalar_of_compare (h : s.compare a b ≠ .gt) (hb : ∃ w, b.scalar? s.field = some w) :
    ∃ v, a.scalar? s.field = some v := by
  obtain ⟨w, hw⟩ := hb
  cases hv : a.scalar? s.field with
  | none => exact absurd (by rw [compare, hv, hw]) h
  | some v => exact ⟨v, rfl⟩

/-- What another document comes after has a scalar. -/
theorem exists_scalar_of_compare_eq_gt (h : s.compare a b = .gt) :
    ∃ w, b.scalar? s.field = some w := by
  cases hw : b.scalar? s.field with
  | none => cases hv : a.scalar? s.field <;> simp [compare, hv, hw] at h
  | some w => exact ⟨w, rfl⟩

/-- Two documents are in the wrong order, and the scalar of the one between
them is of another kind than theirs. -/
def Straddles (s : SortBy) (a b c : Document) : Prop :=
  ∃ u v w, a.scalar? s.field = some u ∧ b.scalar? s.field = some v ∧
    c.scalar? s.field = some w ∧ ¬u.SameKind v ∧ ¬v.SameKind w ∧
      u.compare? w = some s.direction.wrongWay

/-- Documents straddle exactly when comparing them is not transitive. -/
theorem straddles_iff :
    s.Straddles a b c ↔ s.compare a b ≠ .gt ∧ s.compare b c ≠ .gt ∧ s.compare a c = .gt := by
  constructor
  · rintro ⟨u, v, w, hu, hv, hw, huv, hvw, hwrong⟩
    rw [compare_of_scalars hu hv, compare_of_scalars hv hw,
      compareScalars_of_not_sameKind huv, compareScalars_of_not_sameKind hvw]
    exact ⟨nofun, nofun, (compare_eq_gt_iff hu hw).mpr hwrong⟩
  · rintro ⟨hab, hbc, hac⟩
    -- A document without a scalar would be the last of the three, or not be compared.
    obtain ⟨w, hw⟩ := exists_scalar_of_compare_eq_gt hac
    obtain ⟨v, hv⟩ := exists_scalar_of_compare hbc ⟨w, hw⟩
    obtain ⟨u, hu⟩ := exists_scalar_of_compare hab ⟨v, hv⟩
    rw [compare_of_scalars hu hv] at hab
    rw [compare_of_scalars hv hw] at hbc
    have hwrong := (compare_eq_gt_iff hu hw).mp hac
    rw [compare_of_scalars hu hw] at hac
    have huw : u.SameKind w := Scalar.exists_compare?_iff.mp ⟨_, hwrong⟩
    -- If one of the pairs were of one kind, all three would be, and in order.
    refine ⟨u, v, w, hu, hv, hw, fun huv => ?_, fun hvw => ?_, hwrong⟩
    · exact compareScalars_trans huv (huv.symm.trans huw) hab hbc hac
    · exact compareScalars_trans (huw.trans hvw.symm) hvw hab hbc hac

/-- Where all scalars are of one kind, no documents straddle. -/
theorem not_straddles_of_kind {k : Scalar.Kind}
    (ha : ∀ v, a.scalar? s.field = some v → v.kind? = some k)
    (hb : ∀ v, b.scalar? s.field = some v → v.kind? = some k) : ¬s.Straddles a b c := by
  rintro ⟨u, v, w, hu, hv, -, hkind, -⟩
  exact hkind ⟨k, ha u hu, hb v hv⟩

/-! ### Sorting -/

section
variable {α : Type} {document : α → Document} {as bs : List α}

/-- Documents are ordered, up to ties, exactly when no three of them straddle. -/
theorem consistent_iff : Consistent (fun a b => s.compare (document a) (document b)) as ↔
    ∀ a ∈ as, ∀ b ∈ as, ∀ c ∈ as, ¬s.Straddles (document a) (document b) (document c) := by
  constructor
  · intro h a ha b hb c hc hstraddles
    obtain ⟨hab, hbc, hac⟩ := straddles_iff.mp hstraddles
    exact h.trans a ha b hb c hc hab hbc hac
  · intro h
    refine ⟨fun a _ b _ => compare_swap s (document a) (document b), ?_⟩
    exact fun a ha b hb c hc hab hbc hac =>
      h a ha b hb c hc (straddles_iff.mpr ⟨hab, hbc, hac⟩)

/-- If no documents straddle, sorting comes back, puts none before one it
belongs after, and leaves those that count as equal in their order. -/
theorem exists_sort (sorter : Sorter α)
    (h : ∀ a ∈ as, ∀ b ∈ as, ∀ c ∈ as, ¬s.Straddles (document a) (document b) (document c)) :
    ∃ bs, s.sort sorter document as = some bs ∧
      StablySorted (fun a b => s.compare (document a) (document b)) as bs :=
  sorter.stable (consistent_iff.mpr h)

end

end SortBy

end FacetedSearch
