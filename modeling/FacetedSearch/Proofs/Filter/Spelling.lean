import FacetedSearch.Proofs.Filter.Grammar
import FacetedSearch.Proofs.Filter.Unbounded
import FacetedSearch.Proofs.Query.Agreement

/-!
# `FacetedSearch.Proofs.Filter.Spelling`: entries that ask for the same

What is asked of one field can be written in several ways: under the field,
under `must_not`, or spelled out as a part of a `bool` entry. `Wanted` is
what is asked, and `Spells` are its spellings. All of them are read as the
same single clause (`entry_of_spells`), so alone in a filter they compile
to the same query.

Among other entries this is no different, as each entry adds its clauses in
its place (`compile_replace`). And since the place of an entry in a filter
cannot be told from what the filter finds (`compile_of_perm`), the other
spelling need not even stand where the first one stood.
-/

set_option autoImplicit false

namespace FacetedSearch.Filter

/-! ### What is asked of a field -/

/-- What can be asked of one field. -/
inductive Wanted where
  /-- None of the values. -/
  | noneOf (field : String) (values : List Json)
  /-- This value. -/
  | value (field : String) (value : Json)
  /-- One of the values. -/
  | oneOf (field : String) (values : List Json)
  /-- A value that meets the comparisons. -/
  | within (field : String) (comparisons : Entries Json)

namespace Wanted

/-- The field that something is asked of. -/
def field : Wanted → String
  | noneOf field _ | value field _ | oneOf field _ | within field _ => field

/-- All values are scalars, and comparisons have operators for keys. -/
def Proper : Wanted → Prop
  | noneOf _ values | oneOf _ values => ∀ j ∈ values, j.IsScalar
  | value _ j => j.IsScalar
  | within _ comparisons =>
    ∀ m ∈ comparisons, m.1 ∈ ["gt", "gte", "lt", "lte"] ∧ m.2.IsScalar

/-- The slot for what is asked. -/
def slot : Wanted → Slot
  | noneOf _ _ => .mustNot
  | value _ _ | oneOf _ _ | within _ _ => .must

/-- The part that spells out what is asked. -/
def part : Wanted → Json
  | noneOf field values | oneOf field values =>
    .object [("terms", .object [(field, .array values)])]
  | value field j => .object [("term", .object [(field, j)])]
  | within field comparisons => .object [("range", .object [(field, .object comparisons)])]

/-- The query for what is asked. -/
inductive Asks : Wanted → Query → Prop where
  | noneOf {field : String} {js : List Json} {vs : List Scalar}
      (values : List.Forall₂ (fun j v => Scalar.ofJson? j = some v) js vs) :
      Asks (.noneOf field js) (.terms field vs)
  | value {field : String} {j : Json} {v : Scalar} (value : Scalar.ofJson? j = some v) :
      Asks (.value field j) (.term field v)
  | oneOf {field : String} {js : List Json} {vs : List Scalar}
      (values : List.Forall₂ (fun j v => Scalar.ofJson? j = some v) js vs) :
      Asks (.oneOf field js) (.terms field vs)
  | within {field : String} {comparisons : Entries Json} {b : Bounds}
      (bounds : Filter.bounds field comparisons = .ok b) :
      Asks (.within field comparisons) (.range field b)

end Wanted

/-! ### Spellings -/

/-- Values as an exclusion has them: in an array, or one alone. -/
inductive ListedAs : List Json → Json → Prop where
  | array (values : List Json) : ListedAs values (.array values)
  | alone (j : Json) : ListedAs [j] j

/-- What an entry for the field itself has for its value. -/
inductive SpellsField : Wanted → Json → Prop where
  | noneOf {field : String} {values : List Json} {j : Json} (listed : ListedAs values j) :
      SpellsField (.noneOf field values) (.object [("must_not", j)])
  | value {field : String} {j : Json} : SpellsField (.value field j) j
  | oneOf {field : String} {values : List Json} :
      SpellsField (.oneOf field values) (.array values)
  | within {field : String} {comparisons : Entries Json} :
      SpellsField (.within field comparisons) (.object comparisons)

/-- The entries that ask for the same. -/
inductive Spells (s : Settings) : Wanted → String × Json → Prop where
  /-- Under the field, unless its name is reserved. -/
  | field {w : Wanted} {j : Json} (mustNot : w.field ≠ "must_not") (bool : w.field ≠ "bool")
      (value : SpellsField w j) : Spells s w (w.field, j)
  /-- Excluded without a field. -/
  | exclusion {values : List Json} {j : Json} (listed : ListedAs values j) :
      Spells s (.noneOf s.exclusionField values) ("must_not", j)
  /-- Excluded by field. -/
  | exclusionOf {field : String} {values : List Json} {j : Json} (listed : ListedAs values j) :
      Spells s (.noneOf field values) ("must_not", .object [(field, j)])
  /-- Spelled out, as the one part of a slot. -/
  | part (w : Wanted) : Spells s w ("bool", .object [(w.slot.name, w.part)])
  /-- Spelled out, as the one part of an array. -/
  | parts (w : Wanted) : Spells s w ("bool", .object [(w.slot.name, .array [w.part])])

variable {s : Settings} {w : Wanted} {q : Query} {e e' : String × Json}

/-! ### How spellings are read -/

theorem Wanted.exists_asks (hw : w.Proper) : ∃ q, w.Asks q := by
  cases w with
  | noneOf field values =>
      obtain ⟨vs, hvs⟩ := (@exists_scalars_iff field values).mpr hw
      exact ⟨_, .noneOf (scalars_eq_ok_iff.mp hvs)⟩
  | value field j =>
      obtain ⟨v, hv⟩ := Scalar.exists_ofJson?_iff.mpr hw
      exact ⟨_, .value hv⟩
  | oneOf field values =>
      obtain ⟨vs, hvs⟩ := (@exists_scalars_iff field values).mpr hw
      exact ⟨_, .oneOf (scalars_eq_ok_iff.mp hvs)⟩
  | within field comparisons =>
      obtain ⟨q, hq⟩ := (@exists_range_iff field comparisons).mpr hw
      obtain ⟨b, hb, -⟩ := bind_pure_eq_ok_iff.mp hq
      exact ⟨_, .within hb⟩

/-- A part with one form and one field is read as the condition of the form. -/
theorem part_singleton (form : Form) {field : String} {j : Json}
    (hq : form.condition field j = .ok q) :
    Filter.part (.object [(form.name, .object [(field, j)])]) = .ok q := by
  have hconditions : formClauses form.name (.object [(field, j)]) = .ok [q] := by
    rw [formClauses, if_neg form.name_ne_bool]
    exact conditions_eq_ok_iff.mpr ⟨form, _, rfl, rfl, .cons hq .nil⟩
  exact part_eq_ok_iff.mpr ⟨_, [[q]], rfl, .cons hconditions .nil, rfl⟩

theorem part_of_asks (hq : w.Asks q) : Filter.part w.part = .ok q := by
  cases hq with
  | noneOf hvs | oneOf hvs =>
      refine part_singleton .terms ?_
      exact bind_pure_eq_ok_iff.mpr ⟨_, scalars_eq_ok_iff.mpr hvs, rfl⟩
  | value hv =>
      refine part_singleton .term ?_
      exact bind_pure_eq_ok_iff.mpr ⟨_, scalar_eq_ok_iff.mpr hv, rfl⟩
  | within hb =>
      refine part_singleton .range ?_
      exact bind_pure_eq_ok_iff.mpr ⟨_, hb, rfl⟩

/-- A composition of one slot is read as the parts in it. -/
theorem composition_singleton {slot : Slot} {body : Json} {qs : List Query}
    (hqs : slotParts slot.name body = .ok qs) :
    composition (.object [(slot.name, body)]) = .ok (.only slot qs) := by
  have hslot : slotEntry slot.name body = .ok (.only slot qs) :=
    slotEntry_eq_ok_iff.mpr ⟨slot, qs, rfl, hqs, rfl⟩
  exact composition_eq_ok_iff.mpr ⟨_, [_], rfl, .cons hslot .nil, Clauses.append_empty _⟩

/-- An exclusion is read alike whether its values are in an array or one is
alone. -/
theorem exclusion_of_listedAs (field : String) {js : List Json} {vs : List Scalar} {j : Json}
    (hlisted : ListedAs js j)
    (hvs : List.Forall₂ (fun j v => Scalar.ofJson? j = some v) js vs) :
    Filter.exclusion field j = .ok (.terms field vs) := by
  cases hlisted with
  | array => exact bind_pure_eq_ok_iff.mpr ⟨vs, scalars_eq_ok_iff.mpr hvs, rfl⟩
  | alone =>
      obtain ⟨v, _, hv, hnil, rfl⟩ := List.forall₂_cons_left_iff.mp hvs
      cases hnil
      -- The value alone is a scalar, hence no array.
      cases j with
      | array => cases hv
      | _ => exact bind_pure_eq_ok_iff.mpr ⟨v, scalar_eq_ok_iff.mpr hv, rfl⟩

/-- The same exclusion without a field. -/
theorem exclusions_of_listedAs {js : List Json} {vs : List Scalar} {j : Json}
    (hlisted : ListedAs js j)
    (hvs : List.Forall₂ (fun j v => Scalar.ofJson? j = some v) js vs) :
    exclusions s j = .ok (.only .mustNot [.terms s.exclusionField vs]) := by
  have hread := exclusion_of_listedAs s.exclusionField hlisted hvs
  cases j with
  | object =>
      -- No object is an array or a scalar.
      cases hlisted
      cases hvs with
      | cons hv _ => cases hv
  | _ => exact bind_pure_eq_ok_iff.mpr ⟨_, hread, rfl⟩

/-- Under its field, what is asked is read as its query. -/
theorem field_of_spellsField {j : Json} (h : SpellsField w j) (hw : w.Proper) (hq : w.Asks q) :
    Filter.field w.field j = .ok (.only w.slot [q]) := by
  cases h with
  | noneOf hlisted =>
      cases hq with
      | noneOf hvs =>
          refine nested_eq_ok_iff.mpr (.inr (.inl ⟨_, _, rfl, ?_, rfl⟩))
          exact exclusion_of_listedAs _ hlisted hvs
  | value =>
      cases hq with
      | value hv =>
          cases j with
          | array | object => cases hv
          | _ => exact bind_pure_eq_ok_iff.mpr ⟨_, scalar_eq_ok_iff.mpr hv, rfl⟩
  | oneOf =>
      cases hq with
      | oneOf hvs => exact bind_pure_eq_ok_iff.mpr ⟨_, scalars_eq_ok_iff.mpr hvs, rfl⟩
  | within =>
      cases hq with
      | within hb =>
          have hnames := fun m hm => isName_iff_mem.mpr (hw m hm).1
          exact nested_eq_ok_iff.mpr (.inl ⟨_, hnames, bind_pure_eq_ok_iff.mpr ⟨_, hb, rfl⟩, rfl⟩)

/-- **Every spelling is read as the one clause that is asked for.** -/
theorem entry_of_spells (h : Spells s w e) (hw : w.Proper) (hq : w.Asks q) :
    entry s e.1 e.2 = .ok (.only w.slot [q]) := by
  cases h with
  | field hmustNot hbool hvalue =>
      rw [entry, if_neg hmustNot, if_neg hbool]
      exact field_of_spellsField hvalue hw hq
  | exclusion hlisted =>
      cases hq with
      | noneOf hvs =>
          rw [entry, if_pos rfl]
          exact exclusions_of_listedAs hlisted hvs
  | exclusionOf hlisted =>
      cases hq with
      | noneOf hvs =>
          rw [entry, if_pos rfl]
          refine bind_pure_eq_ok_iff.mpr ⟨_, mapM_eq_ok_iff.mpr (.cons ?_ .nil), rfl⟩
          exact exclusion_of_listedAs _ hlisted hvs
  | part w =>
      have hparts : slotParts w.slot.name w.part = .ok [q] :=
        slotParts_eq_ok_iff.mpr (.inr ⟨q, part_of_asks hq, rfl⟩)
      exact composition_singleton hparts
  | parts w =>
      have hparts : slotParts w.slot.name (.array [w.part]) = .ok [q] :=
        slotParts_eq_ok_iff.mpr (.inl ⟨_, rfl, .cons (part_of_asks hq) .nil⟩)
      exact composition_singleton hparts

/-! ### Filters -/

theorem compile_singleton_eq_ok_iff :
    compile s [e] = .ok q ↔ ∃ c, entry s e.1 e.2 = .ok c ∧ q = .bool c := by
  rw [compile_eq_ok_iff, clauses_singleton]

/-- An entry can be replaced by one that is read alike. -/
theorem compile_replace (h : entry s e.1 e.2 = entry s e'.1 e'.2) (before after : Filter) :
    compile s (before ++ e :: after) = compile s (before ++ e' :: after) := by
  have hcons (e : String × Json) : clauses s (e :: after) = do
      return (← entry s e.1 e.2) ++ (← clauses s after) := by
    rw [← List.singleton_append, clauses_append, clauses_singleton]
  rw [compile, compile, clauses_append, clauses_append, hcons, hcons, h]

/-- The order of the entries of a filter makes no difference to what it finds. -/
theorem compile_of_perm {f g : Filter} (h : f.Perm g) (hq : compile s f = .ok q) :
    ∃ q', compile s g = .ok q' ∧ q.Agrees q' := by
  obtain ⟨c, hc, rfl⟩ := compile_eq_ok_iff.mp hq
  obtain ⟨cs, hcs, rfl⟩ := clauses_eq_ok_iff.mp hc
  have hentries : Rearranged Eq f g := .of_perm (fun _ => rfl) h
  obtain ⟨cs', hcs', hagrees⟩ := hentries.exists_forall₂ hcs
    fun m _ m' c hmm' hm => ⟨c, hmm' ▸ hm, Clauses.Agrees.refl c⟩
  exact ⟨_, compile_eq_ok_iff.mpr ⟨_, clauses_eq_ok_iff.mpr ⟨cs', hcs', rfl⟩, rfl⟩,
    (Clauses.Agrees.concat hagrees).bool⟩

/-- **Spellings of the same compile to the same query**, and so they do
inside of larger filters. Whatever is asked of a field, all of its spellings
compile alone to one clause, the query for it in its slot. Two entries that
compile alone to the same query, as two spellings do, can be exchanged in
every filter: in the same place the filter compiles to the same query, and
in any other place to one that selects the same documents. A filter has a
key once, so the other spelling needs a key that is free; but nothing here
depends on it. -/
theorem compile_spellings (s : Settings) :
    (∀ w : Wanted, w.Proper → ∃ q, w.Asks q ∧
      ∀ e, Spells s w e → compile s [e] = .ok (.bool (.only w.slot [q]))) ∧
    ∀ (e e' : String × Json) (alone : Query),
      compile s [e] = .ok alone → compile s [e'] = .ok alone →
      ∀ (before after : Filter) (q : Query), compile s (before ++ e :: after) = .ok q →
        compile s (before ++ e' :: after) = .ok q ∧
        ∀ g : Filter, g.Perm (before ++ e' :: after) →
          ∃ q', compile s g = .ok q' ∧ ∀ doc, q'.selects doc = q.selects doc := by
  constructor
  · intro w hw
    obtain ⟨q, hq⟩ := Wanted.exists_asks hw
    refine ⟨q, hq, fun e he => ?_⟩
    exact compile_singleton_eq_ok_iff.mpr ⟨_, entry_of_spells he hw hq, rfl⟩
  · intro e e' alone he he' before after q hq
    obtain ⟨c, hc, rfl⟩ := compile_singleton_eq_ok_iff.mp he
    obtain ⟨c', hc', hsame⟩ := compile_singleton_eq_ok_iff.mp he'
    obtain rfl : c = c' := Query.bool.inj hsame
    rw [compile_replace (hc.trans hc'.symm)] at hq
    refine ⟨hq, fun g hperm => ?_⟩
    obtain ⟨q', hq', hagrees⟩ := compile_of_perm hperm.symm hq
    exact ⟨q', hq', fun doc => (hagrees doc).symm⟩

/-- No draft and no `3` in the field `state`. -/
def noDraft : Wanted := .noneOf "state" [.string "draft", .integer 3]

theorem proper_noDraft : noDraft.Proper := by
  show ∀ j ∈ [Json.string "draft", Json.integer 3], j.IsScalar
  decide

/-- An exclusion without a field becomes one under its field and goes to the
end; the alternatives beside it stay as they are. -/
theorem compile_spellings_draft :
    let s : Settings := { exclusionField := "state" }
    let values : Json := .array [.string "draft", .integer 3]
    let alternatives : String × Json :=
      ("bool", .object [("should", .array [.object [("term", .object [("new", .bool true)])]])])
    ∃ q q', compile s [("must_not", values), alternatives] = .ok q ∧
      compile s [("state", .object [("must_not", values)]), alternatives] = .ok q ∧
      compile s [alternatives, ("state", .object [("must_not", values)])] = .ok q' ∧
      ∀ doc, q'.selects doc = q.selects doc := by
  intro s values alternatives
  obtain ⟨hspellings, hexchange⟩ := compile_spellings s
  obtain ⟨q₀, -, hread⟩ := hspellings noDraft proper_noDraft
  have hshort := hread _ (.exclusion (.array _))
  have hfield := hread _ (.field (by decide) (by decide) (.noneOf (.array _)))
  obtain ⟨hsame, hmoved⟩ := hexchange _ _ _ hshort hfield [] [alternatives] _ rfl
  obtain ⟨q', hq', hselects⟩ := hmoved [alternatives, ("state", .object [("must_not", values)])]
    (.swap _ _ [])
  exact ⟨_, q', rfl, hsame, hq', hselects⟩

end FacetedSearch.Filter
