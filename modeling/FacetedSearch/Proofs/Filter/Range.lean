import FacetedSearch.Document.Matching
import FacetedSearch.Filter.Range
import FacetedSearch.Proofs.Json.Scalar
import FacetedSearch.Proofs.Support.Traversal

/-!
# `FacetedSearch.Proofs.Filter.Range`: a map of comparisons and its bounds

A map from operators to bounds is folded into one record of bounds. Read
backwards: the map is taken exactly when every key is an operator and
every bound a scalar (`exists_bounds_iff`), and then, no key being
repeated, the record has for each operator the bound that the map has for
it and nothing else (`get_of_bounds`).

`admits_iff` says the same of the other end: a value is within the
bounds when it stands in the right order to each bound that is set.
-/

set_option autoImplicit false

namespace FacetedSearch

/-- The orders of a value to a bound that an operator accepts. -/
def Operator.accepts : Operator → Ordering → Bool
  | .gt => Ordering.isGT
  | .gte => Ordering.isGE
  | .lt => Ordering.isLT
  | .lte => Ordering.isLE

namespace Bounds

/-- A value is within bounds when it meets each bound that is set. -/
theorem admits_iff {b : Bounds} {v : Scalar} :
    b.admits v = true ↔
      ∀ op w, b.get op = some w → ∃ o, v.compare? w = some o ∧ op.accepts o = true := by
  have hmeets (accepts : Ordering → Bool) (bound : Option Scalar) :
      meets v accepts bound = true ↔
        ∀ w, bound = some w → ∃ o, v.compare? w = some o ∧ accepts o = true := by
    cases bound with
    | none => simp [meets]
    | some w => simp [meets, Option.any_eq_true]
  simp only [admits, Bool.and_eq_true, hmeets]
  constructor
  · rintro ⟨⟨⟨hgt, hgte⟩, hlt⟩, hlte⟩ op
    cases op with
    | gt => exact hgt
    | gte => exact hgte
    | lt => exact hlt
    | lte => exact hlte
  · intro h
    exact ⟨⟨⟨h .gt, h .gte⟩, h .lt⟩, h .lte⟩

end Bounds

namespace Filter

theorem scalar_eq_ok_iff {field : String} {e : Expectation} {j : Json} {v : Scalar} :
    scalar field e j = .ok v ↔ Scalar.ofJson? j = some v := by
  unfold scalar
  cases Scalar.ofJson? j <;> simp

/-- One comparison is taken when it has an operator and a scalar. -/
theorem bound_eq_ok_iff {field : String} {b b' : Bounds} {m : String × Json} :
    bound field b m = .ok b' ↔
      ∃ op v, m.1 = op.name ∧ Scalar.ofJson? m.2 = some v ∧ b' = b.set op v := by
  unfold bound
  cases hop : Operator.named? m.1 with
  | none =>
      refine iff_of_false nofun ?_
      rintro ⟨op, v, hkey, _⟩
      rw [hkey, Operator.named?_name] at hop
      cases hop
  | some op =>
      have hkey := Operator.named?_eq_some_iff.mp hop
      simp only [bind_eq_ok_iff, scalar_eq_ok_iff, pure_eq_ok_iff]
      constructor
      · rintro ⟨v, hv, rfl⟩
        exact ⟨op, v, hkey, hv, rfl⟩
      · rintro ⟨op', v, hkey', hv, rfl⟩
        obtain rfl := Operator.name_injective (hkey.symm.trans hkey')
        exact ⟨v, hv, rfl⟩

/-- A map of comparisons is taken when every key is an operator and every
bound a scalar. -/
theorem exists_bounds_iff {field : String} {ms : Entries Json} :
    (∃ b, bounds field ms = .ok b) ↔ ∀ m ∈ ms, Operator.isName m.1 ∧ m.2.IsScalar := by
  -- The bounds set so far play no part in whether the next comparison is taken.
  suffices h : ∀ b₀ : Bounds, (∃ b, ms.foldlM (bound field) b₀ = .ok b) ↔
      ∀ m ∈ ms, Operator.isName m.1 ∧ m.2.IsScalar from h {}
  induction ms with
  | nil => exact fun b₀ => iff_of_true ⟨b₀, rfl⟩ (List.forall_mem_nil _)
  | cons m rest ih =>
      intro b₀
      rw [List.forall_mem_cons, List.foldlM_cons]
      simp only [bind_eq_ok_iff, bound_eq_ok_iff]
      constructor
      · rintro ⟨b, _, ⟨op, v, hkey, hv, rfl⟩, h⟩
        have hname : Operator.isName m.1 = true := by
          rw [Operator.isName, hkey, Operator.named?_name]
          rfl
        exact ⟨⟨hname, Scalar.exists_ofJson?_iff.mp ⟨v, hv⟩⟩, (ih _).mp ⟨b, h⟩⟩
      · rintro ⟨⟨hname, hscalar⟩, hrest⟩
        obtain ⟨op, hop⟩ := Option.isSome_iff_exists.mp hname
        obtain ⟨v, hv⟩ := Scalar.exists_ofJson?_iff.mpr hscalar
        obtain ⟨b, hb⟩ := (ih (b₀.set op v)).mpr hrest
        exact ⟨b, _, ⟨op, v, Operator.named?_eq_some_iff.mp hop, hv, rfl⟩, hb⟩

/-- The bounds of a map without repeated keys are the ones it names. -/
theorem get_of_bounds {field : String} {ms : Entries Json} {b : Bounds}
    (hkeys : (ms.map (·.1)).Nodup) (h : bounds field ms = .ok b) (op : Operator) :
    b.get op = (ms.lookup op.name).bind Scalar.ofJson? := by
  -- What the fold starts from shows only where the map names nothing.
  suffices hfold : ∀ b₀ : Bounds, ms.foldlM (bound field) b₀ = .ok b →
      b.get op = ((ms.lookup op.name).bind Scalar.ofJson?).or (b₀.get op) by
    have hempty : ({} : Bounds).get op = none := by cases op <;> rfl
    rw [hfold {} h, hempty, Option.or_none]
  clear h
  induction ms with
  | nil =>
      intro b₀ h
      cases h
      rfl
  | cons m rest ih =>
      intro b₀ h
      rw [List.map_cons, List.nodup_cons] at hkeys
      rw [List.foldlM_cons] at h
      obtain ⟨_, hm, h⟩ := bind_eq_ok_iff.mp h
      obtain ⟨op', v, hkey, hv, rfl⟩ := bound_eq_ok_iff.mp hm
      rw [ih hkeys.2 _ h, Bounds.get_set]
      obtain ⟨key, j⟩ := m
      subst hkey
      by_cases hop : op = op'
      · subst hop
        have hrest : rest.lookup op.name = none :=
          Entries.lookup_eq_none_iff.mpr fun e he hname =>
            hkeys.1 (List.mem_map.mpr ⟨e, he, hname⟩)
        simp [hrest, hv]
      · have hname : (op.name == op'.name) = false := by
          simpa using fun h => hop (Operator.name_injective h)
        simp [List.lookup_cons, hname, hop]

end Filter

end FacetedSearch
