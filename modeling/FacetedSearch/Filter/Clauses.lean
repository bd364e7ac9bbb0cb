import FacetedSearch.Filter.Range
import FacetedSearch.Settings

/-!
# `FacetedSearch.Filter.Clauses`: what a filter asks for

A filter is a map whose entries all have to hold. Every entry becomes
clauses of one Boolean composition, and the filter's composition is
theirs, joined in order (`clauses`):

    "status": "active"                        one of `must`: the value
    "tags": ["a", "b"]                        one of `must`: any of the values
    "price": {"gte": 10, "lt": 20}            one of `must`: within the bounds
    "flags": {"pinned": true}                 one of `must` for each flag
    "status": {"must_not": ["draft"]}         one of `mustNot`: any of the values
    "must_not": {"status": "draft"}           one of `mustNot` for each field
    "must_not": ["draft"]                     the same for the exclusion field
    "bool": {"should": [part, …]}             the parts, in their slots

A part is an object of forms (`term`, `terms`, `match`, `range`), each
with its fields, or another `bool`. Its clauses all have to hold.

The first entry that cannot be read refuses the filter, and within it the
first value that cannot.
-/

set_option autoImplicit false

namespace FacetedSearch

/-- A filter: what is asked of each field, and the two reserved entries. -/
abbrev Filter := Entries Json

namespace Filter

/-- The scalars of an array. -/
def scalars (field : String) (items : List Json) : Except Error (List Scalar) :=
  items.mapM (scalar field .scalar)

/-- The values that a field must not have; a scalar stands for itself alone. -/
def exclusion (field : String) : Json → Except Error Query
  | .array items => do return .terms field (← scalars field items)
  | j => do return .terms field [← scalar field .scalarOrArray j]

/-! ### Parts -/

/-- The forms of a condition in a part. -/
inductive Form where
  | term | terms | text | range
deriving DecidableEq, Inhabited

namespace Form

/-- The key of a form. -/
def name : Form → String
  | .term => "term"
  | .terms => "terms"
  | .text => "match"
  | .range => "range"

/-- The form of a key. -/
def named? (key : String) : Option Form := byName? name [.term, .terms, .text, .range] key

theorem name_injective {form form' : Form} (h : form.name = form'.name) : form = form' := by
  cases form <;> cases form' <;> simp [name] at h ⊢

theorem named?_eq_some_iff {key : String} {form : Form} :
    named? key = some form ↔ key = form.name :=
  byName?_eq_some_iff (fun form => by cases form <;> simp) name_injective

@[simp] theorem named?_name (form : Form) : named? form.name = some form :=
  named?_eq_some_iff.mpr rfl

/-- The condition of this form on a field. -/
def condition (form : Form) (field : String) (j : Json) : Except Error Query :=
  match form with
  | .term => do return .term field (← scalar field .scalar j)
  | .text => do return .text field (← scalar field .scalar j)
  | .terms => match j with
    | .array items => do return .terms field (← scalars field items)
    | j => .error (.malformed field .array j.kind)
  | .range => match j with
    | .object conditions => Filter.range field conditions
    | j => .error (.malformed field .rangeConditions j.kind)

end Form

/-- The conditions under one form of a part, one for each field. -/
def conditions (key : String) (body : Json) : Except Error (List Query) :=
  match Form.named? key with
  | none => .error (.unsupportedForm key)
  | some form => match body with
    | .object fields => fields.mapM fun (field, j) => form.condition field j
    | j => .error (.malformed key .objectByField j.kind)

/-- One query for the clauses of a part. -/
def join : List Query → Except Error Query
  | [] => .error (.malformed "query part" .oneClause .object)
  | [q] => .ok q
  | qs => .ok (.bool { must := qs })

mutual

/-- The composition that a `bool` entry spells out. -/
def composition : Json → Except Error (Clauses Query)
  | .object slots => slotClauses slots
  | j => .error (.malformed "bool" .clauseLists j.kind)

/-- The slots of a composition in turn. -/
def slotClauses : List (String × Json) → Except Error (Clauses Query)
  | [] => .ok {}
  | (key, body) :: rest =>
    match Slot.named? key with
    | none => .error (.unsupportedForm ("bool." ++ key))
    | some slot => do
      let qs ← slotParts key body
      let others ← slotClauses rest
      return Clauses.only slot qs ++ others

/-- The parts of a slot: an array of them, or one alone. -/
def slotParts (key : String) : Json → Except Error (List Query)
  | .array parts => partList parts
  | .object forms => do return [← join (← partClauses forms)]
  | j => .error (.malformed ("bool." ++ key) .partList j.kind)

/-- The parts of an array in turn. -/
def partList : List Json → Except Error (List Query)
  | [] => .ok []
  | p :: rest => do
    let q ← part p
    let qs ← partList rest
    return q :: qs

/-- The query of a part. -/
def part : Json → Except Error Query
  | .object forms => do join (← partClauses forms)
  | j => .error (.malformed "query part" .part j.kind)

/-- The clauses of a part, form by form. -/
def partClauses : List (String × Json) → Except Error (List Query)
  | [] => .ok []
  | (key, body) :: rest => do
    let qs ← if key = "bool" then (composition body).map ([.bool ·]) else conditions key body
    let others ← partClauses rest
    return qs ++ others

end

/-! ### Entries -/

/-- A flag of a field: a nested truth value. -/
def flag (field key : String) : Json → Except Error Query
  | .bool b => .ok (.term (field ++ "." ++ key) (.boolean b))
  | .integer _ | .float _ => .error (.unsupportedOperator field key)
  | j => .error (.malformed (field ++ "." ++ key) .booleanLeaf j.kind)

/-- The clauses for a field with a map: comparisons if it is empty or has
an operator, an exclusion if that is all it has, and flags otherwise. -/
def nested (field : String) (members : Entries Json) : Except Error (Clauses Query) :=
  if members.isEmpty || members.any (fun m => Operator.isName m.1) then do
    return .only .must [← range field members]
  else
    match members.lookup "must_not" with
    | some excluded =>
      if 1 < members.length then .error (.malformed field .loneExclusion .object)
      else do return .only .mustNot [← exclusion field excluded]
    | none => do return .only .must (← members.mapM fun (key, j) => flag field key j)

/-- The clauses for a field. -/
def field (name : String) : Json → Except Error (Clauses Query)
  | .array items => do return .only .must [.terms name (← scalars name items)]
  | .object members => nested name members
  | j => do return .only .must [.term name (← scalar name .scalarArrayOrObject j)]

/-- The clauses for the exclusions of a filter. -/
def exclusions (s : Settings) : Json → Except Error (Clauses Query)
  | .object fields => do
    return .only .mustNot (← fields.mapM fun (field, j) => exclusion field j)
  | j => do return .only .mustNot [← exclusion s.exclusionField j]

/-- The clauses for one entry of a filter. -/
def entry (s : Settings) (key : String) (j : Json) : Except Error (Clauses Query) :=
  if key = "must_not" then exclusions s j
  else if key = "bool" then composition j
  else field key j

/-- The clauses for a filter: those of its entries in order. -/
def clauses (s : Settings) (f : Filter) : Except Error (Clauses Query) := do
  return .concat (← f.mapM fun (key, j) => entry s key j)

/-- The query for a filter. -/
def compile (s : Settings) (f : Filter) : Except Error Query := do
  return .bool (← clauses s f)

end Filter

end FacetedSearch
