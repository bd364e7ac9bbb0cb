import FacetedSearch.Json.Basic

/-!
# `FacetedSearch.Filter.Error`: why a filter is refused

A filter is refused for a form of query that there is none of, for a
comparison operator that there is none of, or because a value has the
wrong shape. The last names what was expected in its place and what was
found.
-/

set_option autoImplicit false

namespace FacetedSearch.Filter

/-- What a value of a filter was expected to be. -/
inductive Expectation where
  | scalar
  | scalarBound
  | array
  | scalarOrArray
  | scalarArrayOrObject
  | booleanLeaf
  | loneExclusion
  | rangeConditions
  | clauseLists
  | partList
  | part
  | objectByField
  | oneClause
deriving DecidableEq, Inhabited

/-- The words for an expectation. -/
def Expectation.describe : Expectation → String
  | .scalar => "scalar"
  | .scalarBound => "scalar bound"
  | .array => "array"
  | .scalarOrArray => "scalar or array"
  | .scalarArrayOrObject => "scalar, array or object"
  | .booleanLeaf => "boolean nested leaf"
  | .loneExclusion => "a lone must_not entry"
  | .rangeConditions => "range conditions"
  | .clauseLists => "object of clause lists"
  | .partList => "array of query parts"
  | .part => "object"
  | .objectByField => "object keyed by field"
  | .oneClause => "at least one clause"

/-- Why a filter is refused. -/
inductive Error where
  | unsupportedForm (form : String)
  | unsupportedOperator (field operator : String)
  | malformed (field : String) (expected : Expectation) (found : Json.Kind)
deriving DecidableEq, Inhabited

namespace Error

/-- The sort of an error, as metrics count it. -/
inductive Kind where
  | unsupportedForm | unsupportedOperator | malformed
deriving DecidableEq, Inhabited

/-- The label of a sort of error. -/
def Kind.label : Kind → String
  | .unsupportedForm => "unsupported_query_type"
  | .unsupportedOperator => "unsupported_range_operator"
  | .malformed => "malformed_filter_shape"

/-- The sort of an error. -/
def kind : Error → Kind
  | .unsupportedForm _ => .unsupportedForm
  | .unsupportedOperator _ _ => .unsupportedOperator
  | .malformed _ _ _ => .malformed

/-- The message for an error. -/
def message : Error → String
  | .unsupportedForm form => "Unsupported query type: " ++ form
  | .unsupportedOperator field operator =>
    "Unsupported range condition: '" ++ operator ++ "' on field '" ++ field ++ "'"
  | .malformed field expected found =>
    "Malformed filter for '" ++ field ++ "': expected " ++ expected.describe ++
      ", got " ++ found.name

end Error

end FacetedSearch.Filter
