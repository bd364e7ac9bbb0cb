import FacetedSearch.Scalar

/-!
# `FacetedSearch.Query.Basic`: queries

A query is a condition on one field or a Boolean composition of queries.
A composition has four slots: every query of `must` and `filter` has to
hold, none of `mustNot` may, and one of `should` has to hold when `must`
and `filter` are empty. The empty composition is the query that
selects every document (`Query.all`).

Compositions are joined slot by slot (`++`), which is how the entries of
a filter come together; `append_assoc` says that the grouping does not
matter. `and`, `or` and `negate` combine queries.
-/

set_option autoImplicit false

namespace FacetedSearch

/-- The first of several items that has a name. -/
def byName? {α : Type} (name : α → String) (items : List α) (key : String) : Option α :=
  items.find? fun a => name a = key

/-- Where no item is missing and no two share a name, it is the item of that name. -/
theorem byName?_eq_some_iff {α : Type} {name : α → String} {items : List α}
    (hitems : ∀ a, a ∈ items) (hname : ∀ {a b}, name a = name b → a = b) {key : String} {a : α} :
    byName? name items key = some a ↔ key = name a := by
  have hfound {b : α} (h : byName? name items key = some b) : key = name b := by
    have hb := List.find?_some (p := fun a => decide (name a = key)) h
    exact (of_decide_eq_true hb).symm
  refine ⟨hfound, fun hkey => ?_⟩
  have hsome : (byName? name items key).isSome = true :=
    List.find?_isSome.mpr ⟨a, hitems a, decide_eq_true hkey.symm⟩
  obtain ⟨b, hb⟩ := Option.isSome_iff_exists.mp hsome
  rw [hb, hname ((hfound hb).symm.trans hkey)]

/-- Bounds on a value, all of which have to hold. -/
structure Bounds where
  gt : Option Scalar := none
  gte : Option Scalar := none
  lt : Option Scalar := none
  lte : Option Scalar := none
deriving DecidableEq, Inhabited

/-- No bound is set. -/
def Bounds.isUnbounded (b : Bounds) : Bool :=
  b.gt.isNone && b.gte.isNone && b.lt.isNone && b.lte.isNone

/-- The slots of a Boolean composition. -/
inductive Slot where
  | must | filter | should | mustNot
deriving DecidableEq, Inhabited

namespace Slot

/-- The key of a slot. -/
def name : Slot → String
  | .must => "must"
  | .filter => "filter"
  | .should => "should"
  | .mustNot => "must_not"

/-- The slot of a key. -/
def named? (key : String) : Option Slot := byName? name [.must, .filter, .should, .mustNot] key

theorem name_injective {slot slot' : Slot} (h : slot.name = slot'.name) : slot = slot' := by
  cases slot <;> cases slot' <;> simp [name] at h ⊢

theorem named?_eq_some_iff {key : String} {slot : Slot} :
    named? key = some slot ↔ key = slot.name :=
  byName?_eq_some_iff (fun slot => by cases slot <;> simp) name_injective

@[simp] theorem named?_name (slot : Slot) : named? slot.name = some slot :=
  named?_eq_some_iff.mpr rfl

end Slot

/-- The four slots of a Boolean composition. -/
structure Clauses (α : Type) where
  must : List α := []
  filter : List α := []
  should : List α := []
  mustNot : List α := []
deriving DecidableEq, Inhabited

namespace Clauses

variable {α : Type}

/-- No slot holds anything. -/
def isEmpty (c : Clauses α) : Bool :=
  c.must.isEmpty && c.filter.isEmpty && c.should.isEmpty && c.mustNot.isEmpty

/-- The content of a slot. -/
def get (c : Clauses α) : Slot → List α
  | .must => c.must
  | .filter => c.filter
  | .should => c.should
  | .mustNot => c.mustNot

/-- A composition with one slot in use. -/
def only (slot : Slot) (qs : List α) : Clauses α :=
  match slot with
  | .must => { must := qs }
  | .filter => { filter := qs }
  | .should => { should := qs }
  | .mustNot => { mustNot := qs }

/-- Joins two compositions slot by slot. -/
def append (a b : Clauses α) : Clauses α where
  must := a.must ++ b.must
  filter := a.filter ++ b.filter
  should := a.should ++ b.should
  mustNot := a.mustNot ++ b.mustNot

instance : Append (Clauses α) := ⟨append⟩

/-- Adds one clause at the end of a slot. -/
def push (c : Clauses α) (slot : Slot) (q : α) : Clauses α := c ++ only slot [q]

/-- Joins any number of compositions in order. -/
def concat (cs : List (Clauses α)) : Clauses α := cs.foldr (· ++ ·) {}

@[simp] theorem get_append (a b : Clauses α) (slot : Slot) :
    (a ++ b).get slot = a.get slot ++ b.get slot := by cases slot <;> rfl

@[simp] theorem get_empty (slot : Slot) : ({} : Clauses α).get slot = [] := by cases slot <;> rfl

theorem get_only (slot slot' : Slot) (qs : List α) :
    (only slot qs).get slot' = if slot' = slot then qs else [] := by
  cases slot <;> cases slot' <;> rfl

/-- A composition is known by its slots. -/
theorem ext_get {a b : Clauses α} (h : ∀ slot, a.get slot = b.get slot) : a = b := by
  cases a; cases b
  have h₁ := h .must
  have h₂ := h .filter
  have h₃ := h .should
  have h₄ := h .mustNot
  simp only [get] at h₁ h₂ h₃ h₄
  simp [h₁, h₂, h₃, h₄]

theorem append_assoc (a b c : Clauses α) : a ++ b ++ c = a ++ (b ++ c) :=
  ext_get fun slot => by simp

@[simp] theorem empty_append (a : Clauses α) : ({} : Clauses α) ++ a = a :=
  ext_get fun slot => by simp

@[simp] theorem append_empty (a : Clauses α) : a ++ ({} : Clauses α) = a :=
  ext_get fun slot => by simp

/-- A slot of several joined compositions holds theirs in turn. -/
theorem get_concat (cs : List (Clauses α)) (slot : Slot) :
    (concat cs).get slot = cs.flatMap (·.get slot) := by
  induction cs with
  | nil => exact get_empty slot
  | cons c cs ih =>
      have h : concat (c :: cs) = c ++ concat cs := rfl
      rw [h, get_append, ih, List.flatMap_cons]

end Clauses

/-- A search query. -/
inductive Query where
  /-- The field has this value. -/
  | term (field : String) (value : Scalar)
  /-- The field has one of these values. -/
  | terms (field : String) (values : List Scalar)
  /-- The field, or one of the fields of a pattern, shares a word with the value. -/
  | text (field : String) (value : Scalar)
  /-- The field has a value within the bounds. -/
  | range (field : String) (bounds : Bounds)
  /-- A Boolean composition. -/
  | bool (clauses : Clauses Query)
deriving Inhabited

namespace Query

/-- The query that selects every document. -/
def all : Query := .bool {}

/-- Whether a query is the empty composition. -/
def isAll : Query → Bool
  | .bool c => c.isEmpty
  | _ => false

/-- The field of a condition; a composition has none. -/
def field? : Query → Option String
  | .term field _ | .terms field _ | .text field _ | .range field _ => some field
  | .bool _ => none

/-- Both queries have to hold. A composition without alternatives takes
the second query in. -/
def and (a b : Query) : Query :=
  match a with
  | .bool c => if c.should.isEmpty then .bool (c.push .must b) else .bool { must := [a, b] }
  | a => .bool { must := [a, b] }

/-- One of the queries has to hold. -/
def or (a b : Query) : Query := .bool { should := [a, b] }

/-- The query must not hold. -/
def negate (q : Query) : Query := .bool { mustNot := [q] }

end Query

end FacetedSearch
