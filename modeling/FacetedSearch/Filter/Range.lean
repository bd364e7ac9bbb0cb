import FacetedSearch.Filter.Error
import FacetedSearch.Query.Basic

/-!
# `FacetedSearch.Filter.Range`: comparisons in filters

A map from comparison operators to bounds becomes one condition that one
value of the field has to meet as a whole. The empty map sets no bound.
Operators are read in order, and the first one that is unknown, or whose
bound is no scalar, refuses the map.
-/

set_option autoImplicit false

namespace FacetedSearch

/-- The comparison operators. -/
inductive Operator where
  | gt | gte | lt | lte
deriving DecidableEq, Inhabited

namespace Operator

/-- The key of an operator. -/
def name : Operator → String
  | .gt => "gt"
  | .gte => "gte"
  | .lt => "lt"
  | .lte => "lte"

/-- The operator of a key. -/
def named? (key : String) : Option Operator := byName? name [.gt, .gte, .lt, .lte] key

/-- Whether a key names an operator. -/
def isName (key : String) : Bool := (named? key).isSome

theorem name_injective {op op' : Operator} (h : op.name = op'.name) : op = op' := by
  cases op <;> cases op' <;> simp [name] at h ⊢

theorem named?_eq_some_iff {key : String} {op : Operator} :
    named? key = some op ↔ key = op.name :=
  byName?_eq_some_iff (fun op => by cases op <;> simp) name_injective

@[simp] theorem named?_name (op : Operator) : named? op.name = some op :=
  named?_eq_some_iff.mpr rfl

end Operator

namespace Bounds

/-- The bound of an operator. -/
def get (b : Bounds) : Operator → Option Scalar
  | .gt => b.gt
  | .gte => b.gte
  | .lt => b.lt
  | .lte => b.lte

/-- Sets the bound of an operator. -/
def set (b : Bounds) (op : Operator) (v : Scalar) : Bounds :=
  match op with
  | .gt => { b with gt := some v }
  | .gte => { b with gte := some v }
  | .lt => { b with lt := some v }
  | .lte => { b with lte := some v }

theorem get_set (b : Bounds) (op op' : Operator) (v : Scalar) :
    (b.set op v).get op' = if op' = op then some v else b.get op' := by
  cases op <;> cases op' <;> rfl

/-- Bounds are known by their operators. -/
theorem ext_get {a b : Bounds} (h : ∀ op, a.get op = b.get op) : a = b := by
  cases a; cases b
  have hgt := h .gt
  have hgte := h .gte
  have hlt := h .lt
  have hlte := h .lte
  simp only [get] at hgt hgte hlt hlte
  simp [hgt, hgte, hlt, hlte]

end Bounds

namespace Filter

/-- The scalar of a value, or what was expected in its place. -/
def scalar (field : String) (expected : Expectation) (j : Json) : Except Error Scalar :=
  match Scalar.ofJson? j with
  | some v => .ok v
  | none => .error (.malformed field expected j.kind)

/-- One operator with its bound. -/
def bound (field : String) (b : Bounds) (condition : String × Json) : Except Error Bounds :=
  match Operator.named? condition.1 with
  | none => .error (.unsupportedOperator field condition.1)
  | some op => do
    let v ← scalar (field ++ "." ++ condition.1) .scalarBound condition.2
    return b.set op v

/-- The bounds that a map of conditions sets. -/
def bounds (field : String) (conditions : Entries Json) : Except Error Bounds :=
  conditions.foldlM (bound field) {}

/-- The condition that a map of conditions puts on a field. -/
def range (field : String) (conditions : Entries Json) : Except Error Query := do
  return .range field (← bounds field conditions)

end Filter

end FacetedSearch
