import FacetedSearch.Proofs.Json.Record
import FacetedSearch.Proofs.Query.Conditions
import FacetedSearch.Query.Json

/-!
# `FacetedSearch.Proofs.Query.RoundTrip`: queries that are written and read

A query whose numbers are finite is read back as it was written
(`Query.ofJson?_toJson`). The proof goes over the tree: a condition is a
record of a field and of scalars, and a composition is read slot by slot.

Both written forms of a query leave out the bounds that are not set and
the slots that are empty. What they do write can be found under its key:
a bound under its operator (`Bounds.lookup_members`) and the queries of a
slot under the name of the slot (`lookup_slotMembers`). So nothing that is
left out, and nothing that stands before or after, matters to a reader.

Scalars carry no mark of their sort. They are read as the first sort that
takes the value, and that this is the sort that they were written from
rests on the order in which the sorts are tried
(`Scalar.decode?_eq_ofJson?`).
-/

set_option autoImplicit false

namespace FacetedSearch

/-! ### What stands under the keys of a query -/

/-- Every bound is found under its operator, and only if it is set. -/
theorem Bounds.lookup_members (b : Bounds) (op : Operator) :
    b.members.lookup op.name = (b.get op).map Scalar.toJson := by
  obtain ⟨gt, gte, lt, lte⟩ := b
  cases op <;> cases gt <;> cases gte <;> cases lt <;> cases lte <;> rfl

namespace Query

theorem lookup_slotMember (slot slot' : Slot) (js : List Json) :
    (slotMember slot js).lookup slot'.name =
      if slot' = slot ∧ js.isEmpty = false then some (.array js) else none := by
  cases js with
  | nil => simp [slotMember]
  | cons j rest => cases slot <;> cases slot' <;> simp [slotMember, Slot.name]

/-- The queries of a slot are found under its name, unless there are none. -/
theorem lookup_slotMembers (write : Query → Json) (c : Clauses Query) (slot : Slot) :
    (slotMember .must (c.must.map write) ++ slotMember .filter (c.filter.map write) ++
        slotMember .should (c.should.map write) ++
        slotMember .mustNot (c.mustNot.map write)).lookup slot.name =
      if (c.get slot).isEmpty then none else some (.array ((c.get slot).map write)) := by
  simp only [List.lookup_append, lookup_slotMember, List.isEmpty_map]
  cases slot <;> simp [Clauses.get]

end Query

/-! ### Scalars and bounds -/

/-- Trying one sort after the other finds the scalar that a value is. -/
theorem Scalar.decode?_eq_ofJson? (j : Json) : decode? j = ofJson? j := by
  cases j with
  | integer n =>
      -- An integer beyond 64 bits is passed on to the numbers.
      by_cases hn : -0x8000000000000000 ≤ n ∧ n < 0x8000000000000000
      · rw [decode?, ofJson?, Json.int64?, if_pos hn, if_pos hn]
        rfl
      · rw [decode?, ofJson?, Json.int64?, if_neg hn, if_neg hn]
        rfl
  | _ => rfl

theorem Scalar.decode?_toJson {v : Scalar} (hv : v.IsFinite) : decode? v.toJson = some v :=
  (decode?_eq_ofJson? _).trans (ofJson?_toJson hv)

theorem Bounds.ofJson?_toJson {b : Bounds} (hb : ∀ v ∈ b.values, v.IsFinite) :
    ofJson? b.toJson = some b := by
  have hbound (op : Operator) :
      Json.optional? b.members op.name (Json.nullable? Scalar.decode?) none = some (b.get op) :=
    Json.optional?_of_lookup rfl (b.lookup_members op) fun v hv =>
      Scalar.decode?_toJson (hb v (mem_values_of_get hv))
  have hgt := hbound .gt
  have hgte := hbound .gte
  have hlt := hbound .lt
  have hlte := hbound .lte
  simp only [Operator.name] at hgt hgte hlt hlte
  simp [ofJson?, toJson, Json.record?, hgt, hgte, hlt, hlte, get]

/-! ### Queries -/

namespace Query

/-- A slot is read back from the members of its composition. -/
theorem slotOfJson?_toJson {c : Clauses Query}
    (h : ∀ slot, ∀ q ∈ c.get slot, ofJson? q.toJson = some q) (slot : Slot) :
    slotOfJson? slot
        (slotMember .must (c.must.map toJson) ++ slotMember .filter (c.filter.map toJson) ++
          slotMember .should (c.should.map toJson) ++
          slotMember .mustNot (c.mustNot.map toJson)) = some (c.get slot) := by
  rw [slotOfJson?_eq_lookup, lookup_slotMembers]
  cases hqs : c.get slot with
  | nil => rfl
  | cons q rest =>
      show slotItems? (.array ((q :: rest).map toJson)) = _
      rw [slotItems?, listOfJson?_eq_mapM]
      exact Json.mapM_map_write fun q' hq' => h slot q' (hqs ▸ hq')

/-- A query whose numbers are finite is read back as it was written. -/
theorem ofJson?_toJson {q : Query} (hq : q.IsFinite) : ofJson? q.toJson = some q := by
  have hfield (field : String) : Json.string? (.string field) = some field := rfl
  induction q using Query.induction with
  | term field value =>
      have hv : Scalar.decode? value.toJson = some value :=
        Scalar.decode?_toJson (hq _ (.head _) _ (.head _))
      simp only [toJson, ofJson?, String.reduceEq, if_false, if_true, Option.bind_eq_bind]
      rw [Json.required?_of_member rfl (hfield field), Option.bind_some,
        Json.required?_of_member rfl hv]
      rfl
  | text field value =>
      have hv : Scalar.decode? value.toJson = some value :=
        Scalar.decode?_toJson (hq _ (.head _) _ (.head _))
      simp only [toJson, ofJson?, String.reduceEq, if_false, if_true, Option.bind_eq_bind]
      rw [Json.required?_of_member rfl (hfield field), Option.bind_some,
        Json.required?_of_member rfl hv]
      rfl
  | terms field values =>
      have hvs : Json.list? Scalar.decode? (.array (values.map Scalar.toJson)) = some values :=
        Json.list?_map fun v hv => Scalar.decode?_toJson (hq _ (.head _) v hv)
      simp only [toJson, ofJson?, String.reduceEq, if_false, if_true, Option.bind_eq_bind]
      rw [Json.required?_of_member rfl (hfield field), Option.bind_some,
        Json.required?_of_member rfl hvs]
      rfl
  | range field bounds =>
      have hb : Bounds.ofJson? bounds.toJson = some bounds :=
        Bounds.ofJson?_toJson fun v hv => hq _ (.head _) v hv
      simp only [toJson, ofJson?, String.reduceEq, if_false, if_true, Option.bind_eq_bind]
      rw [Json.required?_of_member rfl (hfield field), Option.bind_some,
        Json.required?_of_member rfl hb]
      rfl
  | bool c ih =>
      have hslot := slotOfJson?_toJson fun slot q hqs =>
        ih slot q hqs (isFinite_bool_iff.mp hq slot q hqs)
      obtain ⟨must, filter, should, mustNot⟩ := c
      simp only [toJson, ofJson?, clausesOfJson?, listToJson_eq_map, if_pos, hslot]
      rfl

end Query

end FacetedSearch
