import FacetedSearch.Filter.Clauses
import FacetedSearch.Proofs.Filter.Range

/-!
# `FacetedSearch.Proofs.Filter.Reading`: what a filter says, read directly

A filter can be read without a query: every entry is a condition on
documents, and the filter collects them. This file writes that reading
down. It goes from the JSON of the filter to conditions on documents and
never meets a `Query`, a `Scalar` or a refusal; values that no filter may
have are read as anything at all.

The conditions come in three lists (`Demands`): what is required, what is
forbidden, and the alternatives. `Demands.Met` says how they come
together. Alternatives only count when nothing is required, and this is
asked of the whole filter: one required condition anywhere in it makes
the alternatives of its `bool` entry optional.

* `Document.Has`, `HasAny`, `HasWithin` and `HasWord` are the conditions
  on one field.
* `Demands.ofBool` reads a composition: the parts of `must` and `filter`
  are required, those of `must_not` forbidden, those of `should`
  alternatives. A part holds when all its clauses do, and a composition
  inside a part is met on its own.
* `Demands.ofField` and `Demands.ofEntry` read the other entries.

`Filter.Satisfies` is the reading of a whole filter.
-/

set_option autoImplicit false

namespace FacetedSearch

namespace Json

/-- The values that a value stands for: the items of an array, or the
value itself. -/
def elements : Json → List Json
  | .array items => items
  | j => [j]

/-- The text that a value is written as. -/
def written (j : Json) : String := ((Scalar.ofJson? j).map Scalar.render).getD ""

/-- The value stands to a bound as the operator says. -/
def Meets (j : Json) (op : Operator) (bound : Json) : Prop :=
  ∃ o, j.Ordered bound o ∧ op.accepts o = true

end Json

/-! ### Conditions on one field -/

namespace Document

/-- Some leaf of the field is equal to the value. -/
def Has (doc : Document) (field : String) (value : Json) : Prop :=
  ∃ leaf ∈ doc.leaves field, leaf.SameValue value

/-- Some leaf of the field is equal to one of the values. -/
def HasAny (doc : Document) (field : String) (values : List Json) : Prop :=
  ∃ leaf ∈ doc.leaves field, ∃ value ∈ values, leaf.SameValue value

/-- One single leaf of the field is a scalar and meets every comparison. -/
def HasWithin (doc : Document) (field : String) (comparisons : Entries Json) : Prop :=
  ∃ leaf ∈ doc.leaves field, leaf.IsScalar ∧
    ∀ op bound, (Operator.name op, bound) ∈ comparisons → leaf.Meets op bound

/-- Some text of the field has a word of the value. -/
def HasWord (doc : Document) (field : String) (value : Json) : Prop :=
  ∃ s ∈ doc.texts field, ∃ word ∈ Text.words s, word ∈ Text.words value.written

end Document

/-! ### Demands -/

/-- What is asked of documents. -/
structure Demands where
  required : List (Document → Prop) := []
  forbidden : List (Document → Prop) := []
  alternatives : List (Document → Prop) := []

namespace Demands

/-- Joins demands list by list. -/
def append (D E : Demands) : Demands where
  required := D.required ++ E.required
  forbidden := D.forbidden ++ E.forbidden
  alternatives := D.alternatives ++ E.alternatives

instance : Append Demands := ⟨append⟩

/-- Joins any number of demands in order. -/
def concat (Ds : List Demands) : Demands := Ds.foldr (· ++ ·) {}

/-- A document meets demands that are all required of it, with nothing
forbidden and, if nothing is required, one of the alternatives. -/
def Met (D : Demands) (doc : Document) : Prop :=
  (∀ P ∈ D.required, P doc) ∧ (∀ P ∈ D.forbidden, ¬P doc) ∧
    (D.required = [] → D.alternatives ≠ [] → ∃ P ∈ D.alternatives, P doc)

/-! ### Compositions -/

/-- The demands of the parts under one key of a composition. -/
def ofSlot (key : String) (parts : List (Document → Prop)) : Demands :=
  if key = "must_not" then { forbidden := parts }
  else if key = "should" then { alternatives := parts }
  else { required := parts }

/-- What one form of a part says of one field. -/
def FieldHolds (form field : String) (value : Json) (doc : Document) : Prop :=
  if form = "term" then doc.Has field value
  else if form = "terms" then doc.HasAny field value.elements
  else if form = "match" then doc.HasWord field value
  else doc.HasWithin field (value.object?.getD [])

/-- One form of a part holds of all its fields. -/
def FormHolds (form : String) : Json → Document → Prop
  | .object fields => fun doc => ∀ m ∈ fields, FieldHolds form m.1 m.2 doc
  | _ => fun _ => True

mutual

/-- What a composition demands. -/
def ofBool : Json → Demands
  | .object slots => ofSlots slots
  | _ => {}

/-- What the slots of a composition demand. -/
def ofSlots : List (String × Json) → Demands
  | [] => {}
  | (key, body) :: rest => ofSlot key (parts body) ++ ofSlots rest

/-- The parts of a slot: those of an array, or one alone. -/
def parts : Json → List (Document → Prop)
  | .array items => partList items
  | .object forms => [AllHold forms]
  | _ => []

/-- The parts of an array. -/
def partList : List Json → List (Document → Prop)
  | [] => []
  | p :: rest => PartHolds p :: partList rest

/-- A part holds of a document when all its clauses do. -/
def PartHolds : Json → Document → Prop
  | .object forms => AllHold forms
  | _ => fun _ => True

/-- All clauses of a part hold: its compositions are met, and so are its
conditions on fields. -/
def AllHold : List (String × Json) → Document → Prop
  | [] => fun _ => True
  | (key, body) :: rest => fun doc =>
    (if key = "bool" then (ofBool body).Met doc else FormHolds key body doc) ∧ AllHold rest doc

end

theorem ofSlots_eq_concat (slots : Entries Json) :
    ofSlots slots = concat (slots.map fun m => ofSlot m.1 (parts m.2)) := by
  induction slots with
  | nil => rfl
  | cons m rest ih =>
      obtain ⟨key, body⟩ := m
      rw [ofSlots, ih, List.map_cons]
      rfl

theorem partList_eq_map (items : List Json) : partList items = items.map PartHolds := by
  induction items with
  | nil => rfl
  | cons p rest ih => rw [partList, ih, List.map_cons]

/-- All clauses of a part hold when each member of it does. -/
theorem allHold_iff (forms : Entries Json) (doc : Document) :
    AllHold forms doc ↔ ∀ m ∈ forms,
      if m.1 = "bool" then (ofBool m.2).Met doc else FormHolds m.1 m.2 doc := by
  induction forms with
  | nil => simp [AllHold]
  | cons m rest ih =>
      rw [List.forall_mem_cons, ← ih]
      rfl

/-! ### Entries -/

/-- What an entry for a field demands when it is a map: comparisons of one
leaf, an exclusion, or flags. -/
def ofMembers (field : String) (members : Entries Json) : Demands :=
  if ∀ m ∈ members, Operator.isName m.1 then { required := [(·.HasWithin field members)] }
  else match members.lookup "must_not" with
    | some excluded => { forbidden := [(·.HasAny field excluded.elements)] }
    | none => { required := members.map fun m doc => doc.Has (field ++ "." ++ m.1) m.2 }

/-- What an entry for a field demands. -/
def ofField (field : String) : Json → Demands
  | .array items => { required := [(·.HasAny field items)] }
  | .object members => ofMembers field members
  | value => { required := [(·.Has field value)] }

/-- What the exclusions of a filter demand; values without a field are
about the exclusion field. -/
def ofExclusions (s : Settings) : Json → Demands
  | .object fields => { forbidden := fields.map fun m doc => doc.HasAny m.1 m.2.elements }
  | excluded => { forbidden := [(·.HasAny s.exclusionField excluded.elements)] }

/-- What one entry of a filter demands. -/
def ofEntry (s : Settings) (key : String) (value : Json) : Demands :=
  if key = "must_not" then ofExclusions s value
  else if key = "bool" then ofBool value
  else ofField key value

/-- What a filter demands. -/
def ofFilter (s : Settings) (f : Filter) : Demands :=
  concat (f.map fun m => ofEntry s m.1 m.2)

end Demands

/-- A document satisfies a filter that is read directly. -/
def Filter.Satisfies (s : Settings) (f : Filter) (doc : Document) : Prop :=
  (Demands.ofFilter s f).Met doc

end FacetedSearch
