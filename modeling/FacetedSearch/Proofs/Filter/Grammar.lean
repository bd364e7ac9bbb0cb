import FacetedSearch.Proofs.Filter.Entries

/-!
# `FacetedSearch.Proofs.Filter.Grammar`: the filters that compile

The language of filters, as a grammar: `WellFormed` says of a filter which
entries it may have, without a word about compiling. Compositions, slots,
parts and forms are defined by one another, level by level down the
value; entries come on top of them.

`exists_compile_iff_wellFormed` is the main statement: a filter compiles
exactly when it is well-formed, whatever the settings are.

Three things about the grammar are easy to get wrong. A map for a field
is a map of comparisons as soon as one of its keys is an operator, and
the empty map is one too. An exclusion inside a field has to be alone. A
part may have forms without fields, but not only such.
-/

set_option autoImplicit false

namespace FacetedSearch

/-! ### Values -/

namespace Json

/-- An array of scalars. -/
def IsScalars (j : Json) : Prop := ∃ items, j = .array items ∧ ∀ i ∈ items, i.IsScalar

/-- A scalar or an array of scalars. -/
def IsScalarOrScalars (j : Json) : Prop := j.IsScalar ∨ j.IsScalars

/-- A map of comparisons, the empty one included. -/
def IsComparisons (j : Json) : Prop :=
  ∃ members, j = .object members ∧
    ∀ m ∈ members, m.1 ∈ ["gt", "gte", "lt", "lte"] ∧ m.2.IsScalar

end Json

namespace Filter

/-- The values that a form takes for a field. -/
def Form.Takes : Form → Json → Prop
  | .term | .text => Json.IsScalar
  | .terms => Json.IsScalars
  | .range => Json.IsComparisons

/-! ### Compositions -/

mutual

/-- A composition is a map of slots. -/
inductive IsComposition : Json → Prop where
  | object {slots : List (String × Json)}
      (keys : ∀ m ∈ slots, m.1 ∈ ["must", "filter", "should", "must_not"])
      (bodies : ∀ m ∈ slots, IsSlot m.2) : IsComposition (.object slots)

/-- A slot is a part or an array of parts. -/
inductive IsSlot : Json → Prop where
  | one {p : Json} (part : IsPart p) : IsSlot p
  | array {parts : List Json} (each : ∀ p ∈ parts, IsPart p) : IsSlot (.array parts)

/-- A part is a map of forms, of which one has something to say. -/
inductive IsPart : Json → Prop where
  | object {forms : List (String × Json)} (each : ∀ m ∈ forms, IsForm m.1 m.2)
      (clause : ∃ m ∈ forms, m.1 = "bool" ∨ m.2 ≠ .object []) : IsPart (.object forms)

/-- A form is another composition, or a map of fields. -/
inductive IsForm : String → Json → Prop where
  | bool {body : Json} (composition : IsComposition body) : IsForm "bool" body
  | fields (form : Form) {fields : List (String × Json)} (each : ∀ m ∈ fields, form.Takes m.2) :
      IsForm form.name (.object fields)

end

/-! ### Entries -/

/-- What may be asked of a field. -/
inductive IsFieldEntry : Json → Prop where
  | scalar {j : Json} (scalar : j.IsScalar) : IsFieldEntry j
  | scalars {j : Json} (scalars : j.IsScalars) : IsFieldEntry j
  | empty : IsFieldEntry (.object [])
  | comparisons {members : Entries Json}
      (operator : ∃ m ∈ members, m.1 ∈ ["gt", "gte", "lt", "lte"])
      (each : ∀ m ∈ members, m.1 ∈ ["gt", "gte", "lt", "lte"] ∧ m.2.IsScalar) :
      IsFieldEntry (.object members)
  | exclusion {excluded : Json} (values : excluded.IsScalarOrScalars) :
      IsFieldEntry (.object [("must_not", excluded)])
  | flags {members : Entries Json} (some : members ≠ [])
      (keys : ∀ m ∈ members, m.1 ∉ ["gt", "gte", "lt", "lte", "must_not"])
      (each : ∀ m ∈ members, ∃ b, m.2 = .bool b) : IsFieldEntry (.object members)

/-- What an entry of a filter may be. -/
inductive IsEntry : String → Json → Prop where
  | exclusion {j : Json} (values : j.IsScalarOrScalars) : IsEntry "must_not" j
  | exclusions {fields : Entries Json} (each : ∀ m ∈ fields, m.2.IsScalarOrScalars) :
      IsEntry "must_not" (.object fields)
  | bool {j : Json} (composition : IsComposition j) : IsEntry "bool" j
  | field {key : String} {j : Json} (mustNot : key ≠ "must_not") (bool : key ≠ "bool")
      (entry : IsFieldEntry j) : IsEntry key j

/-- A filter of which every entry is one. -/
def WellFormed (f : Filter) : Prop := ∀ m ∈ f, IsEntry m.1 m.2

/-! ### Conditions that are taken -/

theorem isName_iff_mem {key : String} :
    Operator.isName key = true ↔ key ∈ ["gt", "gte", "lt", "lte"] := by
  constructor
  · intro h
    obtain ⟨op, hop⟩ := Option.isSome_iff_exists.mp h
    obtain rfl := Operator.named?_eq_some_iff.mp hop
    cases op <;> simp [Operator.name]
  · intro h
    simp only [List.mem_cons, List.not_mem_nil, or_false] at h
    rcases h with rfl | rfl | rfl | rfl <;> rfl

section
variable {field : String}

theorem exists_scalar_iff {e : Expectation} {j : Json} :
    (∃ v, scalar field e j = .ok v) ↔ j.IsScalar := by
  simp only [scalar_eq_ok_iff, Scalar.exists_ofJson?_iff]

theorem exists_scalars_iff {items : List Json} :
    (∃ vs, scalars field items = .ok vs) ↔ ∀ i ∈ items, i.IsScalar := by
  simp only [scalars, exists_mapM_eq_ok_iff, exists_scalar_iff]

theorem exists_range_iff {members : Entries Json} :
    (∃ q, range field members = .ok q) ↔
      ∀ m ∈ members, m.1 ∈ ["gt", "gte", "lt", "lte"] ∧ m.2.IsScalar := by
  rw [range, exists_bind_pure_eq_ok_iff, exists_bounds_iff]
  simp only [isName_iff_mem]

theorem exists_exclusion_iff {j : Json} :
    (∃ q, exclusion field j = .ok q) ↔ j.IsScalarOrScalars := by
  cases j with
  | array items =>
      rw [exclusion, exists_bind_pure_eq_ok_iff, exists_scalars_iff]
      constructor
      · intro h
        exact .inr ⟨items, rfl, h⟩
      · rintro (h | ⟨_, hitems, h⟩)
        · rcases h with h | h | h <;> cases h
        · cases hitems
          exact h
  | _ =>
      rw [exclusion, exists_bind_pure_eq_ok_iff, exists_scalar_iff]
      · constructor
        · exact .inl
        · rintro (h | ⟨_, hitems, -⟩)
          · exact h
          · cases hitems
      · intro _ h
        cases h

theorem exists_condition_iff {form : Form} {j : Json} :
    (∃ q, form.condition field j = .ok q) ↔ form.Takes j := by
  cases form with
  | term => rw [Form.condition, exists_bind_pure_eq_ok_iff, exists_scalar_iff, Form.Takes]
  | text => rw [Form.condition, exists_bind_pure_eq_ok_iff, exists_scalar_iff, Form.Takes]
  | terms =>
      cases j with
      | array items =>
          rw [Form.condition, exists_bind_pure_eq_ok_iff, exists_scalars_iff]
          simp [Form.Takes, Json.IsScalars]
      | _ => simp [Form.condition, Form.Takes, Json.IsScalars]
  | range =>
      cases j with
      | object members =>
          rw [Form.condition, exists_range_iff]
          simp [Form.Takes, Json.IsComparisons]
      | _ => simp [Form.condition, Form.Takes, Json.IsComparisons]

end

/-! ### Forms and parts that are taken -/

/-- A form that is no composition is taken with all its fields. -/
theorem exists_conditions_iff {key : String} {body : Json} (hkey : key ≠ "bool") :
    (∃ qs, conditions key body = .ok qs) ↔ IsForm key body := by
  constructor
  · rintro ⟨qs, h⟩
    obtain ⟨form, fields, rfl, rfl, hqs⟩ := conditions_eq_ok_iff.mp h
    have hfields := exists_mapM_eq_ok_iff.mp ⟨qs, mapM_eq_ok_iff.mpr hqs⟩
    simp only [exists_condition_iff] at hfields
    exact .fields form hfields
  · intro h
    cases h with
    | bool => exact absurd rfl hkey
    | fields form hfields =>
        simp only [conditions, Form.named?_name, exists_mapM_eq_ok_iff, exists_condition_iff]
        exact hfields

theorem exists_formClauses_iff {key : String} {body : Json}
    (hbody : (∃ c, composition body = .ok c) ↔ IsComposition body) :
    (∃ qs, formClauses key body = .ok qs) ↔ IsForm key body := by
  unfold formClauses
  by_cases hkey : key = "bool"
  · subst hkey
    simp only [if_true, map_eq_ok_iff]
    constructor
    · rintro ⟨_, c, hc, rfl⟩
      exact .bool (hbody.mp ⟨c, hc⟩)
    · intro h
      -- No other form has this key.
      have hcomposition : IsComposition body := by
        generalize hkey : "bool" = key at h
        cases h with
        | bool hcomposition => exact hcomposition
        | fields form => exact absurd hkey.symm form.name_ne_bool
      obtain ⟨c, hc⟩ := hbody.mpr hcomposition
      exact ⟨_, c, hc, rfl⟩
  · rw [if_neg hkey, exists_conditions_iff hkey]

/-- A form has clauses if it is a composition or has a field. -/
theorem formClauses_ne_nil_iff {key : String} {body : Json} {qs : List Query}
    (h : formClauses key body = .ok qs) : qs ≠ [] ↔ key = "bool" ∨ body ≠ .object [] := by
  unfold formClauses at h
  by_cases hkey : key = "bool"
  · rw [if_pos hkey] at h
    obtain ⟨c, -, rfl⟩ := map_eq_ok_iff.mp h
    simp [hkey]
  · rw [if_neg hkey] at h
    obtain ⟨form, fields, -, rfl, hqs⟩ := conditions_eq_ok_iff.mp h
    rw [ne_eq, ← List.length_eq_zero_iff, ← hqs.length_eq, List.length_eq_zero_iff]
    simp [hkey]

theorem exists_join_iff {qs : List Query} : (∃ q, join qs = .ok q) ↔ qs ≠ [] := by
  rcases qs with _ | ⟨q, _ | ⟨q', rest⟩⟩ <;> simp [join]

/-! ### Compositions that are taken -/

theorem slotName_iff_mem {key : String} :
    (∃ slot, key = Slot.name slot) ↔ key ∈ ["must", "filter", "should", "must_not"] := by
  constructor
  · rintro ⟨slot, rfl⟩
    cases slot <;> simp [Slot.name]
  · intro h
    simp only [List.mem_cons, List.not_mem_nil, or_false] at h
    rcases h with rfl | rfl | rfl | rfl
    · exact ⟨.must, rfl⟩
    · exact ⟨.filter, rfl⟩
    · exact ⟨.should, rfl⟩
    · exact ⟨.mustNot, rfl⟩

theorem exists_composition_iff {slots : Entries Json} :
    (∃ c, composition (.object slots) = .ok c) ↔
      ∀ m ∈ slots, m.1 ∈ ["must", "filter", "should", "must_not"] ∧
        ∃ qs, slotParts m.1 m.2 = .ok qs := by
  rw [composition, slotClauses_eq_mapM, exists_bind_pure_eq_ok_iff, exists_mapM_eq_ok_iff]
  simp only [slotEntry_eq_ok_iff, ← slotName_iff_mem]
  refine forall₂_congr fun m _ => ⟨?_, ?_⟩
  · rintro ⟨_, slot, qs, hkey, hqs, -⟩
    exact ⟨⟨slot, hkey⟩, qs, hqs⟩
  · rintro ⟨⟨slot, hkey⟩, qs, hqs⟩
    exact ⟨_, slot, qs, hkey, hqs, rfl⟩

theorem exists_part_iff {forms : Entries Json} :
    (∃ q, part (.object forms) = .ok q) ↔
      (∀ m ∈ forms, ∃ qs, formClauses m.1 m.2 = .ok qs) ∧
        ∃ m ∈ forms, m.1 = "bool" ∨ m.2 ≠ .object [] := by
  -- The clauses of all forms together are none when those of each form are.
  have hclause {qss : List (List Query)}
      (h : List.Forall₂ (fun m qs => formClauses m.1 m.2 = .ok qs) forms qss) :
      qss.flatten ≠ [] ↔ ∃ m ∈ forms, m.1 = "bool" ∨ m.2 ≠ .object [] := by
    rw [exists_mem_iff_of_forall₂ (h.imp fun _ _ hqs => (formClauses_ne_nil_iff hqs).symm)]
    simp
  simp only [part_eq_ok_iff]
  constructor
  · rintro ⟨q, _, qss, hforms, hqss, hq⟩
    cases hforms
    have hall := exists_mapM_eq_ok_iff.mp ⟨qss, mapM_eq_ok_iff.mpr hqss⟩
    exact ⟨hall, (hclause hqss).mp (exists_join_iff.mp ⟨q, hq⟩)⟩
  · rintro ⟨hall, hsome⟩
    obtain ⟨qss, hqss⟩ := exists_mapM_eq_ok_iff.mpr hall
    have hqss := mapM_eq_ok_iff.mp hqss
    obtain ⟨q, hq⟩ := exists_join_iff.mpr ((hclause hqss).mpr hsome)
    exact ⟨q, forms, qss, rfl, hqss, hq⟩

theorem exists_slotParts_iff {key : String} {body : Json} :
    (∃ qs, slotParts key body = .ok qs) ↔
      (∃ parts, body = .array parts ∧ ∀ p ∈ parts, ∃ q, part p = .ok q) ∨
        ∃ q, part body = .ok q := by
  simp only [slotParts_eq_ok_iff, ← exists_mapM_eq_ok_iff, mapM_eq_ok_iff]
  constructor
  · rintro ⟨qs, ⟨parts, hbody, hqs⟩ | ⟨q, hq, -⟩⟩
    · exact .inl ⟨parts, hbody, qs, hqs⟩
    · exact .inr ⟨q, hq⟩
  · rintro (⟨parts, hbody, qs, hqs⟩ | ⟨q, hq⟩)
    · exact ⟨qs, .inl ⟨parts, hbody, hqs⟩⟩
    · exact ⟨[q], .inr ⟨q, hq, rfl⟩⟩

/-- A value is taken as a composition, as a part, or as the content of a
slot exactly when it is one. -/
theorem takes_bool (j : Json) :
    ((∃ c, composition j = .ok c) ↔ IsComposition j) ∧
      ((∃ q, part j = .ok q) ↔ IsPart j) ∧
      ∀ key, (∃ qs, slotParts key j = .ok qs) ↔ IsSlot j := by
  -- The value of a slot is a part or an array of parts, so the three
  -- statements are needed together, each for the values inside.
  induction j using Json.induction with
  | array items ih =>
      have hpart : (∃ q, part (.array items) = .ok q) ↔ IsPart (.array items) :=
        iff_of_false nofun nofun
      refine ⟨iff_of_false nofun nofun, hpart, fun key => ?_⟩
      rw [exists_slotParts_iff, hpart]
      constructor
      · rintro (⟨_, hparts, hall⟩ | h)
        · cases hparts
          exact .array fun p hp => (ih p hp).2.1.mp (hall p hp)
        · exact .one h
      · intro h
        cases h with
        | one h => exact .inr h
        | array hall => exact .inl ⟨items, rfl, fun p hp => (ih p hp).2.1.mpr (hall p hp)⟩
  | object members ih =>
      have hcomposition : (∃ c, composition (.object members) = .ok c) ↔
          IsComposition (.object members) := by
        rw [exists_composition_iff]
        constructor
        · intro h
          exact .object (fun m hm => (h m hm).1) fun m hm => ((ih m hm).2.2 _).mp (h m hm).2
        · rintro ⟨hkeys, hbodies⟩ m hm
          exact ⟨hkeys m hm, ((ih m hm).2.2 _).mpr (hbodies m hm)⟩
      have hpart : (∃ q, part (.object members) = .ok q) ↔ IsPart (.object members) := by
        rw [exists_part_iff]
        constructor
        · rintro ⟨hall, hsome⟩
          exact .object (fun m hm => (exists_formClauses_iff (ih m hm).1).mp (hall m hm)) hsome
        · rintro ⟨hall, hsome⟩
          exact ⟨fun m hm => (exists_formClauses_iff (ih m hm).1).mpr (hall m hm), hsome⟩
      refine ⟨hcomposition, hpart, fun key => ?_⟩
      rw [exists_slotParts_iff, hpart]
      constructor
      · rintro (⟨_, hparts, -⟩ | h)
        · cases hparts
        · exact .one h
      · rintro ⟨h⟩
        exact .inr h
  | _ =>
      refine ⟨iff_of_false nofun nofun, iff_of_false nofun nofun, fun key => ?_⟩
      exact iff_of_false nofun (by rintro ⟨⟨⟩⟩)

/-! ### Entries that are taken -/

theorem exists_flag_iff {field key : String} {j : Json} :
    (∃ q, flag field key j = .ok q) ↔ ∃ b, j = .bool b := by
  cases j <;> simp [flag]

/-- A map for a field is taken as comparisons, as an exclusion, or as flags. -/
theorem exists_nested_iff {name : String} {members : Entries Json} :
    (∃ c, nested name members = .ok c) ↔ IsFieldEntry (.object members) := by
  simp only [nested_eq_ok_iff]
  constructor
  · rintro ⟨c, ⟨q, hnames, hq, -⟩ | ⟨excluded, q, rfl, hq, -⟩ | ⟨qs, hsome, hkeys, hqs, -⟩⟩
    · cases members with
      | nil => exact .empty
      | cons m rest =>
          have hoperator := isName_iff_mem.mp (hnames m List.mem_cons_self)
          exact .comparisons ⟨m, List.mem_cons_self, hoperator⟩ (exists_range_iff.mp ⟨q, hq⟩)
    · exact .exclusion (exists_exclusion_iff.mp ⟨q, hq⟩)
    · have heach := exists_mapM_eq_ok_iff.mp ⟨qs, hqs⟩
      simp only [exists_flag_iff] at heach
      -- No operator and no `must_not`, hence none of the five keys.
      refine .flags hsome (fun m hm hkey => ?_) heach
      rcases List.mem_append.mp (show m.1 ∈ ["gt", "gte", "lt", "lte"] ++ ["must_not"] from hkey)
        with hoperator | hmustNot
      · exact (hkeys m hm).1 (isName_iff_mem.mpr hoperator)
      · exact (hkeys m hm).2 (List.mem_singleton.mp hmustNot)
  · intro h
    cases h with
    -- A map is no scalar and no array.
    | scalar h => rcases h with h | h | h <;> cases h
    | scalars h =>
        obtain ⟨_, h, -⟩ := h
        cases h
    | empty => exact ⟨_, .inl ⟨_, List.forall_mem_nil _, rfl, rfl⟩⟩
    | comparisons hoperator heach =>
        obtain ⟨q, hq⟩ := exists_range_iff.mpr heach
        exact ⟨_, .inl ⟨q, fun m hm => isName_iff_mem.mpr (heach m hm).1, hq, rfl⟩⟩
    | exclusion hvalues =>
        obtain ⟨q, hq⟩ := exists_exclusion_iff.mpr hvalues
        exact ⟨_, .inr (.inl ⟨_, q, rfl, hq, rfl⟩)⟩
    | flags hsome hkeys heach =>
        have hnames : ∀ m ∈ members, ¬Operator.isName m.1 = true ∧ m.1 ≠ "must_not" := by
          refine fun m hm => ⟨fun hname => hkeys m hm ?_, fun hkey => hkeys m hm ?_⟩
          · exact List.mem_append_left ["must_not"] (isName_iff_mem.mp hname)
          · rw [hkey]
            decide
        have hflags : ∀ m ∈ members, ∃ q, flag name m.1 m.2 = .ok q :=
          fun m hm => exists_flag_iff.mpr (heach m hm)
        obtain ⟨qs, hqs⟩ := exists_mapM_eq_ok_iff.mpr hflags
        exact ⟨_, .inr (.inr ⟨qs, hsome, hnames, hqs, rfl⟩)⟩

theorem exists_field_iff {name : String} {j : Json} :
    (∃ c, field name j = .ok c) ↔ IsFieldEntry j := by
  cases j with
  | array items =>
      rw [field, exists_bind_pure_eq_ok_iff, exists_scalars_iff]
      constructor
      · exact fun h => .scalars ⟨items, rfl, h⟩
      · intro h
        cases h with
        | scalar h => rcases h with h | h | h <;> cases h
        | scalars h =>
            obtain ⟨_, hitems, h⟩ := h
            cases hitems
            exact h
  | object members => exact exists_nested_iff
  | _ =>
      rw [field, exists_bind_pure_eq_ok_iff, exists_scalar_iff]
      · constructor
        · exact .scalar
        · intro h
          cases h with
          | scalar h => exact h
          | scalars h =>
              obtain ⟨_, h, -⟩ := h
              cases h
      all_goals nofun

theorem exists_exclusions_iff {s : Settings} {j : Json} :
    (∃ c, exclusions s j = .ok c) ↔
      j.IsScalarOrScalars ∨ ∃ fields, j = .object fields ∧ ∀ m ∈ fields, m.2.IsScalarOrScalars := by
  cases j with
  | object fields =>
      rw [exclusions, exists_bind_pure_eq_ok_iff, exists_mapM_eq_ok_iff]
      simp only [exists_exclusion_iff]
      constructor
      · intro h
        exact .inr ⟨fields, rfl, h⟩
      · rintro ((h | ⟨_, h, -⟩) | ⟨_, hfields, h⟩)
        · rcases h with h | h | h <;> cases h
        · cases h
        · cases hfields
          exact h
  | _ =>
      rw [exclusions, exists_bind_pure_eq_ok_iff, exists_exclusion_iff]
      · constructor
        · exact .inl
        · rintro (h | ⟨_, hfields, -⟩)
          · exact h
          · cases hfields
      · intro _ h
        cases h

theorem exists_entry_iff {s : Settings} {key : String} {j : Json} :
    (∃ c, entry s key j = .ok c) ↔ IsEntry key j := by
  unfold entry
  by_cases hmustNot : key = "must_not"
  · rw [if_pos hmustNot, exists_exclusions_iff]
    constructor
    · rw [hmustNot]
      rintro (h | ⟨fields, rfl, h⟩)
      · exact .exclusion h
      · exact .exclusions h
    · intro h
      cases h with
      | exclusion h => exact .inl h
      | exclusions h => exact .inr ⟨_, rfl, h⟩
      | bool => exact absurd hmustNot (by decide)
      | field h => exact absurd hmustNot h
  · rw [if_neg hmustNot]
    by_cases hbool : key = "bool"
    · rw [if_pos hbool, (takes_bool j).1]
      constructor
      · rw [hbool]
        exact .bool
      · intro h
        cases h with
        | exclusion => exact absurd rfl hmustNot
        | exclusions => exact absurd rfl hmustNot
        | bool h => exact h
        | field _ h => exact absurd hbool h
    · rw [if_neg hbool, exists_field_iff]
      constructor
      · exact .field hmustNot hbool
      · intro h
        cases h with
        | exclusion => exact absurd rfl hmustNot
        | exclusions => exact absurd rfl hmustNot
        | bool => exact absurd rfl hbool
        | field _ _ h => exact h

/-- **The filters that compile are the well-formed ones.** -/
theorem exists_compile_iff_wellFormed (s : Settings) (f : Filter) :
    (∃ q, compile s f = .ok q) ↔ f.WellFormed := by
  rw [compile, exists_bind_pure_eq_ok_iff, clauses, exists_bind_pure_eq_ok_iff,
    exists_mapM_eq_ok_iff]
  simp only [exists_entry_iff]
  rfl

end Filter

end FacetedSearch
