import FacetedSearch.Proofs.Filter.Range
import FacetedSearch.Proofs.Query.Selection
import FacetedSearch.Proofs.Scalar.Comparison

/-!
# `FacetedSearch.Proofs.Query.Trichotomy`: equality and ranges on one field

A condition on equality and a range with one bound are decided by two
functions. Both are a question about how a scalar of the field compares
with the value of the condition (`selects_term_iff_compare?`,
`selects_bound_iff`), so they fit together: a value is below, equal to or
above a scalar of its kind, and nothing of this to a scalar of another
kind. A bound that may be reached is met by what is beyond it and by what
equals it, and the range from a value up to itself selects what the
condition on the value does (`Query.term_agrees_with_range`).
-/

set_option autoImplicit false

namespace FacetedSearch

variable {doc : Document} {field : String} {v s : Scalar} {op : Operator}

/-! ### One bound, and two bounds at one value -/

namespace Bounds

theorem admits_set_iff :
    (({} : Bounds).set op v).admits s = true ↔
      ∃ o, s.compare? v = some o ∧ op.accepts o = true := by
  have hget (op' : Operator) (w : Scalar) :
      (({} : Bounds).set op v).get op' = some w ↔ op' = op ∧ w = v := by
    cases op <;> cases op' <;> simp [set, get, eq_comm]
  simp only [admits_iff, hget]
  constructor
  · intro h
    exact h op v ⟨rfl, rfl⟩
  · rintro h op' w ⟨rfl, rfl⟩
    exact h

/-- From a value up to itself there are the scalars that compare as equal. -/
theorem admits_closed_iff :
    ({ gte := some v, lte := some v } : Bounds).admits s = true ↔ s.compare? v = some .eq := by
  cases h : s.compare? v with
  | none => simp [admits, meets, h]
  | some o => cases o <;> simp [admits, meets, h]

end Bounds

/-! ### Conditions -/

namespace Query

/-- A range with one bound asks how a scalar compares with it. -/
theorem selects_bound_iff :
    (Query.range field (({} : Bounds).set op v)).selects doc = true ↔
      ∃ s ∈ doc.scalars field, ∃ o, s.compare? v = some o ∧ op.accepts o = true := by
  simp only [selects_range_iff, Bounds.admits_set_iff]

/-- So does a condition on equality. -/
theorem selects_term_iff_compare? :
    (Query.term field v).selects doc = true ↔
      ∃ s ∈ doc.scalars field, s.compare? v = some .eq := by
  simp only [selects_term_iff, Scalar.sameValue_iff_compare?]

theorem selects_closed_iff :
    (Query.range field { gte := some v, lte := some v }).selects doc = true ↔
      ∃ s ∈ doc.scalars field, s.compare? v = some .eq := by
  simp only [selects_range_iff, Bounds.admits_closed_iff]

/-- A bound that may be reached is met by what is beyond it and by what equals it. -/
theorem selects_reached_iff (op strict : Operator)
    (h : ∀ o, op.accepts o = true ↔ strict.accepts o = true ∨ o = .eq) :
    (Query.range field (({} : Bounds).set op v)).selects doc = true ↔
      (Query.range field (({} : Bounds).set strict v)).selects doc = true ∨
        (Query.term field v).selects doc = true := by
  simp only [selects_bound_iff, selects_term_iff_compare?, h]
  constructor
  · rintro ⟨s, hs, o, ho, hstrict | rfl⟩
    · exact .inl ⟨s, hs, o, ho, hstrict⟩
    · exact .inr ⟨s, hs, ho⟩
  · rintro (⟨s, hs, o, ho, hstrict⟩ | ⟨s, hs, ho⟩)
    · exact ⟨s, hs, o, ho, .inl hstrict⟩
    · exact ⟨s, hs, .eq, ho, .inr rfl⟩

/-- Where a field has one scalar, each of three conditions asks for one order. -/
theorem selects_orders (h : doc.scalars field = [s]) :
    [(Query.range field { lt := some v }).selects doc, (Query.term field v).selects doc,
        (Query.range field { gt := some v }).selects doc] =
      [Ordering.lt, .eq, .gt].map fun o => decide (s.compare? v = some o) := by
  have hbelow : (Query.range field (({} : Bounds).set .lt v)).selects doc = true ↔
      s.compare? v = some .lt := by
    rw [selects_bound_iff, h]
    simp [Operator.accepts]
  have hequal : (Query.term field v).selects doc = true ↔ s.compare? v = some .eq := by
    rw [selects_term_iff_compare?, h]
    simp
  have habove : (Query.range field (({} : Bounds).set .gt v)).selects doc = true ↔
      s.compare? v = some .gt := by
    rw [selects_bound_iff, h]
    simp [Operator.accepts]
  simp only [List.map_cons, List.map_nil, ← hbelow, ← hequal, ← habove, Bool.decide_eq_true]
  rfl

/-- **Equality and order agree.** A condition on a value selects what the
range from the value up to itself does. A bound that may be reached is met
by what meets the strict bound or equals it. Exactly one of below, equal
and above is true of a scalar of the kind of the value, and none is true of
a scalar of another kind. -/
theorem term_agrees_with_range (field : String) (v : Scalar) (doc : Document) :
    (Query.term field v).selects doc =
        (Query.range field { gte := some v, lte := some v }).selects doc ∧
      (Query.range field { gte := some v }).selects doc =
        ((Query.range field { gt := some v }).selects doc || (Query.term field v).selects doc) ∧
      (Query.range field { lte := some v }).selects doc =
        ((Query.range field { lt := some v }).selects doc || (Query.term field v).selects doc) ∧
      ∀ s, doc.scalars field = [s] →
        let found := [(Query.range field { lt := some v }).selects doc,
          (Query.term field v).selects doc, (Query.range field { gt := some v }).selects doc]
        (s.SameKind v → found.count true = 1) ∧ (¬s.SameKind v → found.count true = 0) := by
  refine ⟨?_, ?_, ?_, fun s hs => ?_⟩
  · rw [Bool.eq_iff_iff, selects_term_iff_compare?, selects_closed_iff]
  · rw [Bool.eq_iff_iff, Bool.or_eq_true]
    exact selects_reached_iff .gte .gt fun o => by cases o <;> decide
  · rw [Bool.eq_iff_iff, Bool.or_eq_true]
    exact selects_reached_iff .lte .lt fun o => by cases o <;> decide
  · rw [selects_orders hs]
    constructor
    · intro hkind
      obtain ⟨o, ho⟩ := Scalar.exists_compare?_iff.mpr hkind
      rw [ho]
      cases o <;> decide
    · intro hkind
      rw [Scalar.compare?_eq_none_iff.mpr hkind]
      decide

/-- Three is above two and a half, and nothing of the three to the text. -/
theorem term_agrees_with_range_three :
    let doc : Document := [("size", .array [.null, .integer 3])]
    let half : Scalar := .float ⟨0x4004000000000000⟩
    (doc.scalars "size" = [.integer 3] ∧ Scalar.SameKind (.integer 3) half ∧
      ¬Scalar.SameKind (.integer 3) (.text "3")) ∧
    [(Query.range "size" { lt := some half }).selects doc, (Query.term "size" half).selects doc,
      (Query.range "size" { gt := some half }).selects doc].count true = 1 ∧
    (Query.range "size" { gt := some half }).selects doc = true ∧
    [(Query.range "size" { lt := some (.text "3") }).selects doc,
      (Query.term "size" (.text "3")).selects doc,
      (Query.range "size" { gt := some (.text "3") }).selects doc].count true = 0 := by
  intro doc half
  have hscalars : doc.scalars "size" = [.integer 3] := by decide
  have hkind : Scalar.SameKind (.integer 3) half := ⟨.number, rfl, by decide⟩
  have hother : ¬Scalar.SameKind (.integer 3) (.text "3") := by
    rintro ⟨k, hk, hk'⟩
    cases hk
    cases hk'
  obtain ⟨-, -, -, hnumber⟩ := term_agrees_with_range "size" half doc
  obtain ⟨-, -, -, htext⟩ := term_agrees_with_range "size" (.text "3") doc
  exact ⟨⟨hscalars, hkind, hother⟩, (hnumber _ hscalars).1 hkind, by decide +kernel,
    (htext _ hscalars).2 hother⟩

end Query

end FacetedSearch
