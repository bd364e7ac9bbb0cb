import FacetedSearch.Elastic.Body
import FacetedSearch.Proofs.Filter.Entries
import FacetedSearch.Proofs.Query.Conditions
import Mathlib.Data.List.Nodup

/-!
# `FacetedSearch.Proofs.Query.WireForm`: a query on the wire is a filter

What is sent to Elasticsearch for a composition is an object with one
`bool` member, and such an object is a filter. Compiled, it gives the
composition back, clause for clause and in the same order
(`compile_toElastic`). So a filter that was compiled can be sent and
compiled again and nothing changes.

Two things do not come back, and the statement leaves them out. A number
that is not finite is written as `null`, and a text condition on a
pattern as a form of its own that filters do not have.

Writing and reading meet at parts: `part_toElastic` says that a query is
written as a part that is read as this query. Its induction needs the
slots of a composition one by one, which `slotClauses_slotMember` and
`slotClauses_append` provide.
-/

set_option autoImplicit false

namespace FacetedSearch

namespace Filter

/-! ### Conditions -/

theorem scalar_toJson {field : String} {e : Expectation} {v : Scalar} (hv : v.IsFinite) :
    scalar field e v.toJson = .ok v :=
  scalar_eq_ok_iff.mpr (Scalar.ofJson?_toJson hv)

theorem scalars_toJson {field : String} {vs : List Scalar} (hvs : ∀ v ∈ vs, v.IsFinite) :
    scalars field (vs.map Scalar.toJson) = .ok vs := by
  rw [scalars, mapM_eq_ok_iff, List.forall₂_map_left_iff, List.forall₂_same]
  exact fun v hv => scalar_toJson (hvs v hv)

theorem bound_toJson {field : String} {b : Bounds} {op : Operator} {v : Scalar}
    (hv : v.IsFinite) : bound field b (op.name, v.toJson) = .ok (b.set op v) :=
  bound_eq_ok_iff.mpr ⟨op, v, rfl, Scalar.ofJson?_toJson hv, rfl⟩

/-- The members that some operators of bounds are written as set the
bounds of these operators. -/
theorem foldlM_bound_members (field : String) {b : Bounds} (hb : ∀ v ∈ b.values, v.IsFinite)
    (ops : List Operator) (b₀ : Bounds) :
    (ops.filterMap fun op => (b.get op).map fun v => (op.name, v.toJson)).foldlM (bound field) b₀
      = .ok (ops.foldl (fun out op => ((b.get op).map (out.set op)).getD out) b₀) := by
  induction ops generalizing b₀ with
  | nil => rfl
  | cons op rest ih =>
      cases hop : b.get op with
      | none =>
          rw [List.filterMap_cons_none (by rw [hop]; rfl), ih, List.foldl_cons, hop]
          rfl
      | some v =>
          have hv : v.IsFinite := hb v (Bounds.mem_values_of_get hop)
          rw [List.filterMap_cons_some (by rw [hop]; rfl), List.foldlM_cons, bound_toJson hv,
            List.foldl_cons, hop]
          exact ih (b₀.set op v)

/-- Bounds are read from the members that they are written as. -/
theorem bounds_members {field : String} {b : Bounds} (hb : ∀ v ∈ b.values, v.IsFinite) :
    bounds field b.members = .ok b := by
  -- Setting the four bounds one by one leaves nothing of the empty ones.
  have hall : [Operator.gt, .gte, .lt, .lte].foldl
      (fun out op => ((b.get op).map (out.set op)).getD out) {} = b := by
    obtain ⟨gt, gte, lt, lte⟩ := b
    cases gt <;> cases gte <;> cases lt <;> cases lte <;> rfl
  have hfold := foldlM_bound_members field hb [.gt, .gte, .lt, .lte] {}
  rw [hall] at hfold
  exact hfold

/-- A part with one field under one form is read as one condition. -/
theorem part_form (form : Form) {field : String} {j : Json} {q : Query}
    (h : form.condition field j = .ok q) :
    part (.object [(form.name, .object [(field, j)])]) = .ok q := by
  have hform : formClauses form.name (.object [(field, j)]) = .ok [q] := by
    rw [formClauses, if_neg form.name_ne_bool, conditions, Form.named?_name]
    exact mapM_eq_ok_iff.mpr (.cons h .nil)
  exact part_eq_ok_iff.mpr ⟨_, [[q]], rfl, .cons hform .nil, rfl⟩

/-! ### Compositions -/

/-- Slots are read one after the other. -/
theorem slotClauses_append {slots slots' : Entries Json} {c c' : Clauses Query}
    (h : slotClauses slots = .ok c) (h' : slotClauses slots' = .ok c') :
    slotClauses (slots ++ slots') = .ok (c ++ c') := by
  obtain ⟨cs, hcs, rfl⟩ := slotClauses_eq_ok_iff.mp h
  obtain ⟨cs', hcs', rfl⟩ := slotClauses_eq_ok_iff.mp h'
  refine slotClauses_eq_ok_iff.mpr ⟨cs ++ cs', List.rel_append hcs hcs', ?_⟩
  exact Clauses.concat_append cs cs'

/-- A slot is read from the member that it is written as, the empty one
from nothing. -/
theorem slotClauses_slotMember {slot : Slot} {qs : List Query}
    (hqs : ∀ q ∈ qs, part q.toElastic = .ok q) :
    slotClauses (Query.slotMember slot (Query.listToElastic qs)) = .ok (.only slot qs) := by
  rw [Query.listToElastic_eq_map]
  cases qs with
  | nil => cases slot <;> rfl
  | cons q rest =>
      -- Item by item, what was written is read back.
      have hparts : slotParts slot.name (.array ((q :: rest).map Query.toElastic))
          = .ok (q :: rest) := by
        refine slotParts_eq_ok_iff.mpr (.inl ⟨_, rfl, ?_⟩)
        rw [List.forall₂_map_left_iff, List.forall₂_same]
        exact hqs
      have hentry := slotEntry_eq_ok_iff.mpr ⟨slot, q :: rest, rfl, hparts, rfl⟩
      exact slotClauses_eq_ok_iff.mpr ⟨_, .cons hentry .nil, Clauses.append_empty _⟩

/-- The slots of a composition are read as the composition. -/
theorem slotClauses_slotMembers {c : Clauses Query}
    (hc : ∀ slot, ∀ q ∈ c.get slot, part q.toElastic = .ok q) :
    slotClauses
      (Query.slotMember .must (Query.listToElastic c.must) ++
        Query.slotMember .filter (Query.listToElastic c.filter) ++
        Query.slotMember .should (Query.listToElastic c.should) ++
        Query.slotMember .mustNot (Query.listToElastic c.mustNot)) = .ok c := by
  have hslot (slot : Slot) :
      slotClauses (Query.slotMember slot (Query.listToElastic (c.get slot)))
        = .ok (.only slot (c.get slot)) := slotClauses_slotMember (hc slot)
  have hslots := slotClauses_append
    (slotClauses_append (slotClauses_append (hslot .must) (hslot .filter)) (hslot .should))
    (hslot .mustNot)
  have hjoined : Clauses.only .must (c.get .must) ++ .only .filter (c.get .filter) ++
      .only .should (c.get .should) ++ .only .mustNot (c.get .mustNot) = c := by
    refine Clauses.ext_get fun slot => ?_
    cases slot <;> simp [Clauses.get_only]
  rw [hjoined] at hslots
  exact hslots

/-! ### Queries -/

/-- A query is written as a part that is read as this query. -/
theorem part_toElastic (q : Query) (hfinite : q.IsFinite) (hpattern : q.IsPatternFree) :
    part q.toElastic = .ok q := by
  induction q using Query.induction with
  | term field value =>
      have hv : value.IsFinite := hfinite _ (.head _) _ (.head _)
      refine part_form .term ?_
      rw [Form.condition, scalar_toJson hv]
      rfl
  | terms field values =>
      have hvs : ∀ v ∈ values, v.IsFinite := hfinite _ (.head _)
      refine part_form .terms ?_
      rw [Form.condition, scalars_toJson hvs]
      rfl
  | text field value =>
      have hv : value.IsFinite := hfinite _ (.head _) _ (.head _)
      have hfield : Text.isPattern field = false := hpattern _ _ (.head _)
      rw [Query.toElastic, hfield]
      refine part_form .text ?_
      rw [Form.condition, scalar_toJson hv]
      rfl
  | range field b =>
      have hb : ∀ v ∈ b.values, v.IsFinite := hfinite _ (.head _)
      refine part_form .range ?_
      rw [Bounds.toJson, Form.condition, range, bounds_members hb]
      rfl
  | bool c ih =>
      -- Finiteness and the like pass to the slots, so each slot comes back.
      have hslots := slotClauses_slotMembers fun slot q hq =>
        ih slot q hq (Query.isFinite_bool_iff.mp hfinite slot q hq)
          (Query.isPatternFree_bool_iff.mp hpattern slot q hq)
      refine part_eq_ok_iff.mpr ⟨_, [[.bool c]], rfl, .cons ?_ .nil, rfl⟩
      rw [formClauses, if_pos rfl, composition, hslots]
      rfl

end Filter

/-! ### Keys -/

theorem Scalar.distinctKeys_toJson (v : Scalar) : v.toJson.DistinctKeys := by
  cases v with
  | float x =>
      rw [toJson]
      split <;> trivial
  | _ => trivial

theorem Scalar.distinctKeys_array (vs : List Scalar) :
    (Json.array (vs.map toJson)).DistinctKeys := by
  refine (Json.distinctKeysItems_iff _).mpr (List.forall_mem_map.mpr ?_)
  exact fun v _ => v.distinctKeys_toJson

/-- An object with one member repeats a key only inside its value. -/
theorem Json.distinctKeys_member {key : String} {j : Json} (hj : j.DistinctKeys) :
    (Json.object [(key, j)]).DistinctKeys :=
  ⟨List.nodup_singleton key, hj, trivial⟩

theorem Bounds.distinctKeys_toJson (b : Bounds) : b.toJson.DistinctKeys := by
  refine ⟨?_, (Json.distinctKeysMembers_iff _).mpr ?_⟩
  · obtain ⟨gt, gte, lt, lte⟩ := b
    cases gt <;> cases gte <;> cases lt <;> cases lte <;> simp [members]
  · intro m hm
    obtain ⟨_, _, hm⟩ := List.mem_filterMap.mp hm
    obtain ⟨v, _, rfl⟩ := Option.map_eq_some_iff.mp hm
    exact v.distinctKeys_toJson

namespace Query

theorem mem_slotMember {slot : Slot} {js : List Json} {m : String × Json}
    (hm : m ∈ slotMember slot js) : m = (slot.name, .array js) := by
  unfold slotMember at hm
  split at hm
  · cases hm
  · exact List.mem_singleton.mp hm

theorem keys_slotMember_sublist (slot : Slot) (js : List Json) :
    ((slotMember slot js).map (·.1)).Sublist [slot.name] := by
  unfold slotMember
  split
  · exact List.nil_sublist _
  · exact List.Sublist.refl _

/-- What is written for a query repeats no key. -/
theorem distinctKeys_toElastic (q : Query) : q.toElastic.DistinctKeys := by
  induction q using Query.induction with
  | term field value =>
      exact Json.distinctKeys_member (Json.distinctKeys_member value.distinctKeys_toJson)
  | terms field values =>
      exact Json.distinctKeys_member
        (Json.distinctKeys_member (Scalar.distinctKeys_array values))
  | text field value =>
      rw [toElastic]
      split
      · have hkeys : ["query", "fields"].Nodup := by decide
        exact Json.distinctKeys_member
          ⟨hkeys, value.distinctKeys_toJson, ⟨trivial, trivial⟩, trivial⟩
      · exact Json.distinctKeys_member (Json.distinctKeys_member value.distinctKeys_toJson)
  | range field b =>
      exact Json.distinctKeys_member (Json.distinctKeys_member b.distinctKeys_toJson)
  | bool c ih =>
      refine Json.distinctKeys_member ⟨?_, (Json.distinctKeysMembers_iff _).mpr ?_⟩
      · -- The slots are written in one order, some of them left out.
        have hnames : ["must", "filter", "should", "must_not"].Nodup := by decide
        refine hnames.sublist ?_
        simp only [List.map_append]
        exact (((keys_slotMember_sublist .must _).append (keys_slotMember_sublist .filter _)).append
          (keys_slotMember_sublist .should _)).append (keys_slotMember_sublist .mustNot _)
      · have hslot : ∀ slot, ∀ m ∈ slotMember slot (listToElastic (c.get slot)),
            m.2.DistinctKeys := by
          intro slot m hm
          obtain rfl := mem_slotMember hm
          refine (Json.distinctKeysItems_iff _).mpr ?_
          rw [listToElastic_eq_map]
          exact List.forall_mem_map.mpr (ih slot)
        intro m hm
        simp only [List.mem_append] at hm
        rcases hm with ((hm | hm) | hm) | hm
        · exact hslot .must m hm
        · exact hslot .filter m hm
        · exact hslot .should m hm
        · exact hslot .mustNot m hm

end Query

namespace Filter

/-- What is written for a composition is a filter, and compiles to the
composition. -/
theorem exists_compile_toElastic (s : Settings) {c : Clauses Query}
    (hfinite : (Query.bool c).IsFinite) (hpattern : (Query.bool c).IsPatternFree) :
    ∃ f : Filter, (Query.bool c).toElastic = .object f ∧ (Json.object f).DistinctKeys ∧
      compile s f = .ok (.bool c) := by
  -- The object has one entry, and that is the composition.
  have hslots := slotClauses_slotMembers fun slot q hq =>
    part_toElastic q (Query.isFinite_bool_iff.mp hfinite slot q hq)
      (Query.isPatternFree_bool_iff.mp hpattern slot q hq)
  refine ⟨_, rfl, Query.distinctKeys_toElastic (.bool c), ?_⟩
  have hentries : List.Forall₂ (fun m c => entry s m.1 m.2 = .ok c) [("bool", .object _)] [c] :=
    .cons hslots .nil
  have hclauses := clauses_eq_ok_iff.mpr ⟨_, hentries, Clauses.append_empty c⟩
  exact compile_eq_ok_iff.mpr ⟨c, hclauses, rfl⟩

/-- **A composition is written as a filter that compiles back to it.** In
particular, a filter can be compiled, written and compiled again, under
any settings, and the second query is the first. -/
theorem compile_toElastic :
    (∀ (s : Settings) (c : Clauses Query),
      (Query.bool c).IsFinite → (Query.bool c).IsPatternFree →
      ∃ f : Filter, (Query.bool c).toElastic = .object f ∧ (Json.object f).DistinctKeys ∧
        compile s f = .ok (.bool c)) ∧
    ∀ (s s' : Settings) (f : Filter) (q : Query), compile s f = .ok q →
      q.IsFinite → q.IsPatternFree →
      ∃ f' : Filter, q.toElastic = .object f' ∧ (Json.object f').DistinctKeys ∧
        compile s' f' = .ok q := by
  constructor
  · intro s c hfinite hpattern
    exact exists_compile_toElastic s hfinite hpattern
  · intro s s' f q hq hfinite hpattern
    obtain ⟨c, -, rfl⟩ := compile_eq_ok_iff.mp hq
    exact exists_compile_toElastic s' hfinite hpattern

/-- A composition with a composition inside and an empty one inside that,
conditions on all kinds of scalars, no values at all, and no bounds. -/
def nestedClauses : Clauses Query where
  must := [.term "" (.boolean true), .terms "a.b" [],
    .bool { should := [.text "t" (.float ⟨0x3ff8000000000000⟩), .bool {}] }]
  mustNot := [.range "n" {}, .range "n" { gte := some (.integer (-3)), lt := some (.text "z") }]

theorem compile_toElastic_nested :
    (Query.bool nestedClauses).IsFinite ∧ (Query.bool nestedClauses).IsPatternFree ∧
      compile {} [("n", .object [])] = .ok (.bool { must := [.range "n" {}] }) ∧
      (∃ f : Filter, (Query.bool nestedClauses).toElastic = .object f ∧
        (Json.object f).DistinctKeys ∧ compile {} f = .ok (.bool nestedClauses)) ∧
      ∃ f : Filter, (Query.bool { must := [.range "n" {}] }).toElastic = .object f ∧
        (Json.object f).DistinctKeys ∧
        compile {} f = .ok (.bool { must := [.range "n" {}] }) := by
  have hfinite : (Query.bool nestedClauses).IsFinite := by
    simp [nestedClauses, Query.IsFinite, Query.conditions, Query.conditionsOfAll, Query.values,
      Bounds.values, Scalar.IsFinite]
    decide
  have hpattern : (Query.bool nestedClauses).IsPatternFree := by
    simp [nestedClauses, Query.IsPatternFree, Query.conditions, Query.conditionsOfAll]
    decide
  refine ⟨hfinite, hpattern, rfl, compile_toElastic.1 {} nestedClauses hfinite hpattern, ?_⟩
  refine compile_toElastic.2 {} {} [("n", .object [])] _ rfl ?_ ?_
  · simp [Query.IsFinite, Query.conditions, Query.conditionsOfAll, Query.values, Bounds.values]
  · simp [Query.IsPatternFree, Query.conditions, Query.conditionsOfAll]

end Filter

end FacetedSearch
