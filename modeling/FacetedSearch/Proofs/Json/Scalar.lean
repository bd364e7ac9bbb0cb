import FacetedSearch.Scalar

/-!
# `FacetedSearch.Proofs.Json.Scalar`: JSON values compared as scalars

Queries compare a leaf of a document with a value of a filter, and both
are JSON values. This file says what equality and order mean between two
JSON values (`SameValue`, `Ordered`), without the detour through
`Scalar`: texts are compared with texts, truth values with truth values,
and numbers, whatever their sort, as the binary64 numbers they count as.

`sameValue_iff` and `compare?_eq_some_iff` are the bridge: comparing the
scalars that two values are is comparing the values.
-/

set_option autoImplicit false

namespace FacetedSearch

namespace Json

/-- Truth values, numbers and texts. -/
def IsScalar (j : Json) : Prop := j.kind = .boolean ∨ j.kind = .number ∨ j.kind = .string

instance (j : Json) : Decidable j.IsScalar := inferInstanceAs (Decidable (_ ∨ _ ∨ _))

/-- Two values are equal as scalars: `1` equals `1.0`, and `null` equals
nothing. -/
inductive SameValue : Json → Json → Prop where
  | bool (b : Bool) : SameValue (.bool b) (.bool b)
  | string (s : String) : SameValue (.string s) (.string s)
  | number {i j : Json} {x y : Binary64} : i.number? = some x → j.number? = some y →
      x.compare? y = some .eq → SameValue i j

/-- The order of two values of one kind. -/
inductive Ordered : Json → Json → Ordering → Prop where
  | bool (a b : Bool) : Ordered (.bool a) (.bool b) (compare a b)
  | string (s t : String) : Ordered (.string s) (.string t) (compare s t)
  | number {i j : Json} {x y : Binary64} {o : Ordering} : i.number? = some x →
      j.number? = some y → x.compare? y = some o → Ordered i j o

end Json

namespace Json

variable {i j : Json}

theorem sameValue_bool_iff {b : Bool} : (Json.bool b).SameValue j ↔ j = .bool b := by
  constructor
  · intro h
    cases h with
    | bool => rfl
    | number h => cases h
  · rintro rfl
    exact .bool b

theorem sameValue_string_iff {s : String} : (Json.string s).SameValue j ↔ j = .string s := by
  constructor
  · intro h
    cases h with
    | string => rfl
    | number h => cases h
  · rintro rfl
    exact .string s

theorem sameValue_number_iff {x : Binary64} (hi : i.number? = some x) :
    i.SameValue j ↔ ∃ y, j.number? = some y ∧ x.compare? y = some .eq := by
  constructor
  · intro h
    cases h with
    | bool => cases hi
    | string => cases hi
    | number hx hy h =>
        obtain rfl := Option.some.inj (hi.symm.trans hx)
        exact ⟨_, hy, h⟩
  · rintro ⟨y, hy, h⟩
    exact .number hi hy h

/-- Only scalars are equal to anything. -/
theorem SameValue.isScalar (h : i.SameValue j) : i.IsScalar := by
  cases h with
  | bool => exact .inl rfl
  | string => exact .inr (.inr rfl)
  | number hi => cases i <;> first | exact .inr (.inl rfl) | cases hi

theorem ordered_bool_iff {b : Bool} {o : Ordering} :
    (Json.bool b).Ordered j o ↔ ∃ c, j = .bool c ∧ compare b c = o := by
  constructor
  · intro h
    cases h with
    | bool _ c => exact ⟨c, rfl, rfl⟩
    | number h => cases h
  · rintro ⟨c, rfl, rfl⟩
    exact .bool b c

theorem ordered_string_iff {s : String} {o : Ordering} :
    (Json.string s).Ordered j o ↔ ∃ t, j = .string t ∧ compare s t = o := by
  constructor
  · intro h
    cases h with
    | string _ t => exact ⟨t, rfl, rfl⟩
    | number h => cases h
  · rintro ⟨t, rfl, rfl⟩
    exact .string s t

theorem ordered_number_iff {x : Binary64} {o : Ordering} (hi : i.number? = some x) :
    i.Ordered j o ↔ ∃ y, j.number? = some y ∧ x.compare? y = some o := by
  constructor
  · intro h
    cases h with
    | bool => cases hi
    | string => cases hi
    | number hx hy h =>
        obtain rfl := Option.some.inj (hi.symm.trans hx)
        exact ⟨_, hy, h⟩
  · rintro ⟨y, hy, h⟩
    exact .number hi hy h

end Json

namespace Scalar

/-- Exactly truth values, numbers and texts are scalars. -/
theorem exists_ofJson?_iff {j : Json} : (∃ v, ofJson? j = some v) ↔ j.IsScalar := by
  rw [← Option.isSome_iff_exists, ← Option.ne_none_iff_isSome, ne_eq, ofJson?_eq_none_iff]
  cases j <;> simp [Json.IsScalar, Json.kind]

/-! ### What a scalar keeps of its value -/

section
variable {i j : Json} {v w : Scalar} (hv : ofJson? i = some v) (hw : ofJson? j = some w)
include hv

theorem number?_eq_of_ofJson? : v.number? = i.number? := by
  cases i with
  | integer n =>
      -- Beyond 64 bits the scalar is the number itself.
      rw [ofJson?] at hv
      split at hv
      · rename_i hn
        cases hv
        rw [number?, Int64.toInt_ofInt_of_le hn.1 hn.2]
        rfl
      · cases hv
        rfl
  | _ => cases hv <;> rfl

theorem eq_boolean_iff_of_ofJson? {b : Bool} : v = .boolean b ↔ i = .bool b := by
  cases i with
  | integer n =>
      rw [ofJson?] at hv
      split at hv <;> cases hv <;> simp
  | _ => cases hv <;> simp

theorem eq_text_iff_of_ofJson? {s : String} : v = .text s ↔ i = .string s := by
  cases i with
  | integer n =>
      rw [ofJson?] at hv
      split at hv <;> cases hv <;> simp
  | _ => cases hv <;> simp

/-! ### Equality and order -/

include hw

/-- Scalars are equal when the values that they were read from are. -/
theorem sameValue_iff : v.sameValue w = true ↔ i.SameValue j := by
  -- Numbers of both sorts go through `number?`, other scalars are of one sort.
  cases hx : v.number? with
  | some x =>
      rw [Json.sameValue_number_iff ((number?_eq_of_ofJson? hv).symm.trans hx),
        ← number?_eq_of_ofJson? hw]
      cases v <;> cases w <;> simp_all [sameValue, number?]
  | none =>
      cases v with
      | boolean b =>
          rw [(eq_boolean_iff_of_ofJson? hv).mp rfl, Json.sameValue_bool_iff,
            ← eq_boolean_iff_of_ofJson? hw]
          cases w <;> simp [sameValue, number?, eq_comm]
      | text s =>
          rw [(eq_text_iff_of_ofJson? hv).mp rfl, Json.sameValue_string_iff,
            ← eq_text_iff_of_ofJson? hw]
          cases w <;> simp [sameValue, number?, eq_comm]
      | integer _ | float _ => cases hx

/-- Scalars are ordered as the values that they were read from are. -/
theorem compare?_eq_some_iff {o : Ordering} : v.compare? w = some o ↔ i.Ordered j o := by
  cases hx : v.number? with
  | some x =>
      rw [Json.ordered_number_iff ((number?_eq_of_ofJson? hv).symm.trans hx),
        ← number?_eq_of_ofJson? hw]
      cases v <;> cases w <;> simp_all [compare?, number?]
  | none =>
      cases v with
      | boolean b =>
          rw [(eq_boolean_iff_of_ofJson? hv).mp rfl, Json.ordered_bool_iff]
          simp only [← eq_boolean_iff_of_ofJson? hw]
          cases w <;> simp [compare?, number?]
      | text s =>
          rw [(eq_text_iff_of_ofJson? hv).mp rfl, Json.ordered_string_iff]
          simp only [← eq_text_iff_of_ofJson? hw]
          cases w <;> simp [compare?, number?]
      | integer _ | float _ => cases hx

end

end Scalar

end FacetedSearch
