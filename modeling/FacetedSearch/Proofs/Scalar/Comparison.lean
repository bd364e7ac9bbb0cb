import FacetedSearch.Proofs.Number.Nearest
import FacetedSearch.Scalar

/-!
# `FacetedSearch.Proofs.Scalar.Comparison`: which scalars compare, and how

There are three kinds of scalars: truth values, texts and numbers, an
integer being a number like any other (`Scalar.kind?`). Two scalars are
ordered exactly when they are of one kind (`exists_compare?_iff`), and
within a kind the order is linear up to equal values (`compare?_swap`,
`compare?_trans`).

Equality is decided apart from the order. It holds exactly where the
order finds neither of two scalars to be the smaller one
(`sameValue_iff_compare?`).
-/

set_option autoImplicit false

namespace FacetedSearch.Scalar

/-! ### Kinds -/

/-- The kinds of scalars. -/
inductive Kind where
  | boolean | number | text
deriving DecidableEq

/-- The kind of a scalar. What the number format has for no number at all
is of no kind. -/
def kind? : Scalar → Option Kind
  | .boolean _ => some .boolean
  | .integer _ => some .number
  | .float x => if x.isNaN then none else some .number
  | .text _ => some .text

/-- Both are truth values, or both are numbers, or both are texts. -/
def SameKind (v w : Scalar) : Prop := ∃ k, v.kind? = some k ∧ w.kind? = some k

variable {u v w : Scalar} {o o' : Ordering}

theorem SameKind.symm (h : SameKind v w) : SameKind w v := by
  obtain ⟨k, hv, hw⟩ := h
  exact ⟨k, hw, hv⟩

theorem SameKind.trans (huv : SameKind u v) (hvw : SameKind v w) : SameKind u w := by
  obtain ⟨k, hu, hv⟩ := huv
  obtain ⟨k', hv', hw⟩ := hvw
  obtain rfl := Option.some.inj (hv.symm.trans hv')
  exact ⟨k, hu, hw⟩

theorem natAbs_toInt_le (n : Int64) : n.toInt.natAbs ≤ 2 ^ 64 := by
  have hlow := n.le_toInt
  have hhigh := n.toInt_lt
  omega

theorem kind?_eq_boolean_iff : v.kind? = some .boolean ↔ ∃ b, v = .boolean b := by
  cases v <;> simp [kind?]

theorem kind?_eq_text_iff : v.kind? = some .text ↔ ∃ s, v = .text s := by
  cases v <;> simp [kind?]

theorem kind?_eq_number_iff :
    v.kind? = some .number ↔ ∃ x, v.number? = some x ∧ x.isNaN = false := by
  cases v with
  | boolean b => simp [kind?, number?]
  | text s => simp [kind?, number?]
  | float x => simp [kind?, number?]
  | integer n => simp [kind?, number?, Binary64.isNaN_ofInt (natAbs_toInt_le n)]

/-! ### The order within a kind -/

/-- How two scalars of one kind compare. -/
inductive Compares : Scalar → Scalar → Ordering → Prop where
  | booleans (a b : Bool) : Compares (.boolean a) (.boolean b) (compare a b)
  | texts (s t : String) : Compares (.text s) (.text t) (compare s t)
  | numbers {v w : Scalar} {x y : Binary64} (hv : v.number? = some x) (hw : w.number? = some y)
      (hx : x.isNaN = false) (hy : y.isNaN = false) : Compares v w (compare x.scaled y.scaled)

theorem compare?_of_number? {x y : Binary64} (hv : v.number? = some x) (hw : w.number? = some y) :
    v.compare? w = x.compare? y := by
  cases v <;> cases w <;> simp_all [compare?, number?]

theorem compare?_eq_some_iff_compares : v.compare? w = some o ↔ Compares v w o := by
  constructor
  · intro h
    cases hv : v.number? with
    | some x =>
      cases hw : w.number? with
      | some y =>
        rw [compare?_of_number? hv hw, Binary64.compare?] at h
        split at h
        · cases h
        · rename_i hnan
          obtain rfl := Option.some.inj h
          rw [Bool.or_eq_true, not_or, Bool.not_eq_true, Bool.not_eq_true] at hnan
          exact .numbers hv hw hnan.1 hnan.2
      | none => cases v <;> cases w <;> simp_all [compare?, number?]
    | none =>
      cases v with
      | boolean a =>
        cases w <;> simp [compare?, number?] at h
        exact h ▸ .booleans a _
      | text s =>
        cases w <;> simp [compare?, number?] at h
        exact h ▸ .texts s _
      | integer _ | float _ => cases hv
  · intro h
    cases h with
    | booleans a b => rfl
    | texts s t => rfl
    | numbers hv hw hx hy => simp [compare?_of_number? hv hw, Binary64.compare?, hx, hy]

/-- Scalars are ordered exactly when they are of one kind. -/
theorem exists_compare?_iff : (∃ o, v.compare? w = some o) ↔ SameKind v w := by
  simp only [compare?_eq_some_iff_compares]
  constructor
  · rintro ⟨o, h⟩
    cases h with
    | booleans a b => exact ⟨.boolean, rfl, rfl⟩
    | texts s t => exact ⟨.text, rfl, rfl⟩
    | numbers hv hw hx hy =>
      exact ⟨.number, kind?_eq_number_iff.mpr ⟨_, hv, hx⟩, kind?_eq_number_iff.mpr ⟨_, hw, hy⟩⟩
  · rintro ⟨k, hv, hw⟩
    cases k with
    | number =>
      obtain ⟨x, hx, hxnum⟩ := kind?_eq_number_iff.mp hv
      obtain ⟨y, hy, hynum⟩ := kind?_eq_number_iff.mp hw
      exact ⟨_, .numbers hx hy hxnum hynum⟩
    | boolean =>
      obtain ⟨a, rfl⟩ := kind?_eq_boolean_iff.mp hv
      obtain ⟨b, rfl⟩ := kind?_eq_boolean_iff.mp hw
      exact ⟨_, .booleans a b⟩
    | text =>
      obtain ⟨s, rfl⟩ := kind?_eq_text_iff.mp hv
      obtain ⟨t, rfl⟩ := kind?_eq_text_iff.mp hw
      exact ⟨_, .texts s t⟩

theorem compare?_eq_none_iff : v.compare? w = none ↔ ¬SameKind v w := by
  rw [← exists_compare?_iff, ← Option.isSome_iff_exists, Option.not_isSome_iff_eq_none]

theorem Compares.swap (h : Compares v w o) : Compares w v o.swap := by
  cases h with
  | booleans a b =>
    rw [← Std.OrientedCmp.eq_swap]
    exact .booleans b a
  | texts s t =>
    rw [← Std.OrientedCmp.eq_swap]
    exact .texts t s
  | numbers hv hw hx hy =>
    rw [← Std.OrientedCmp.eq_swap]
    exact .numbers hw hv hy hx

/-- Compared the other way round, the order is the other way round. -/
theorem compare?_swap (v w : Scalar) : w.compare? v = (v.compare? w).map Ordering.swap := by
  cases h : v.compare? w with
  | none =>
    rw [compare?_eq_none_iff] at h
    exact compare?_eq_none_iff.mpr fun hwv => h hwv.symm
  | some o => exact compare?_eq_some_iff_compares.mpr (compare?_eq_some_iff_compares.mp h).swap

/-- What is not larger than a scalar that is not larger than a third one is
not larger than this. -/
theorem compare?_trans (huv : u.compare? v = some o) (hvw : v.compare? w = some o')
    (ho : o.isLE = true) (ho' : o'.isLE = true) :
    ∃ o'', u.compare? w = some o'' ∧ o''.isLE = true := by
  rw [compare?_eq_some_iff_compares] at huv hvw
  simp only [compare?_eq_some_iff_compares]
  cases huv with
  | booleans a b =>
    cases hvw with
    | booleans b c => exact ⟨_, .booleans a c, Std.TransCmp.isLE_trans ho ho'⟩
    | numbers hv => cases hv
  | texts s t =>
    cases hvw with
    | texts t r => exact ⟨_, .texts s r, Std.TransCmp.isLE_trans ho ho'⟩
    | numbers hv => cases hv
  | numbers hu hv hx hy =>
    cases hvw with
    | booleans => cases hv
    | texts => cases hv
    | numbers hv' hw hy' hz =>
      obtain rfl := Option.some.inj (hv.symm.trans hv')
      exact ⟨_, .numbers hu hw hx hz, Std.TransCmp.isLE_trans ho ho'⟩

/-- Scalars that are equal to a third one are equal. -/
theorem compare?_eq_of_eq (hv : v.compare? u = some .eq) (hw : w.compare? u = some .eq) :
    v.compare? w = some .eq := by
  have hu : u.compare? v = some .eq := by rw [compare?_swap v u, hv]; rfl
  have hu' : u.compare? w = some .eq := by rw [compare?_swap w u, hw]; rfl
  obtain ⟨o, ho, hle⟩ := compare?_trans hv hu' rfl rfl
  obtain ⟨o', ho', hle'⟩ := compare?_trans hw hu rfl rfl
  rw [compare?_swap v w, ho] at ho'
  obtain rfl := Option.some.inj ho'
  -- Neither way round is the first one the larger one.
  cases o with
  | eq => exact ho
  | lt => cases hle'
  | gt => cases hle

/-- Equal scalars are those that compare as equal. -/
theorem sameValue_iff_compare? : v.sameValue w = true ↔ v.compare? w = some .eq := by
  cases v <;> cases w <;> simp [sameValue, compare?, number?]

end FacetedSearch.Scalar
