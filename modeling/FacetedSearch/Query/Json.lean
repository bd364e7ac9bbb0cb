import FacetedSearch.Json.Record
import FacetedSearch.Query.Basic

/-!
# `FacetedSearch.Query.Json`: queries as JSON values

A query is written as an object whose only key names its form:

    {"term":  {"field": f, "value": v}}
    {"terms": {"field": f, "values": [v, …]}}
    {"match": {"field": f, "value": v}}
    {"range": {"field": f, "bounds": {"gt": v, "gte": v, "lt": v, "lte": v}}}
    {"bool":  {"must": [q, …], "filter": […], "should": […], "must_not": […]}}

Bounds that are not set and slots that are empty are left out. Reading
takes them in any order, ignores unknown members, and also takes the
bounds and the slots as records in array form. The content of the first
four forms is always an object.
-/

set_option autoImplicit false

namespace FacetedSearch

/-! ### Writing -/

/-- The bounds that are set, under their operators. -/
def Bounds.members (b : Bounds) : Entries Json :=
  [("gt", b.gt), ("gte", b.gte), ("lt", b.lt), ("lte", b.lte)].filterMap fun (name, bound) =>
    bound.map fun v => (name, v.toJson)

/-- The bounds as a JSON value. -/
def Bounds.toJson (b : Bounds) : Json := .object b.members

namespace Query

/-- A slot as a member of a composition; an empty slot is left out. -/
def slotMember (slot : Slot) (qs : List Json) : Entries Json :=
  if qs.isEmpty then [] else [(slot.name, .array qs)]

mutual

/-- A query as a JSON value. -/
def toJson : Query → Json
  | .term field value =>
    .object [("term", .object [("field", .string field), ("value", value.toJson)])]
  | .terms field values =>
    .object [("terms", .object
      [("field", .string field), ("values", .array (values.map Scalar.toJson))])]
  | .text field value =>
    .object [("match", .object [("field", .string field), ("value", value.toJson)])]
  | .range field bounds =>
    .object [("range", .object [("field", .string field), ("bounds", bounds.toJson)])]
  | .bool ⟨must, filter, should, mustNot⟩ =>
    .object [("bool", .object
      (slotMember .must (listToJson must) ++ slotMember .filter (listToJson filter) ++
        slotMember .should (listToJson should) ++ slotMember .mustNot (listToJson mustNot)))]

/-- The queries of a slot as JSON values. -/
def listToJson : List Query → List Json
  | [] => []
  | q :: rest => toJson q :: listToJson rest

end

theorem listToJson_eq_map (qs : List Query) : listToJson qs = qs.map toJson := by
  induction qs with
  | nil => rfl
  | cons q rest ih => simp [listToJson, ih]

end Query

/-! ### Reading -/

/-- Reads a scalar as the first kind that takes the value: a truth value, a
64 bit integer, a number, a text. -/
def Scalar.decode? (j : Json) : Option Scalar :=
  (j.bool?.map .boolean).or <| (j.int64?.map .integer).or <|
    (j.number?.map .float).or (j.string?.map .text)

/-- Reads bounds; a bound may be missing or `null`. -/
def Bounds.ofJson? (j : Json) : Option Bounds := do
  let ms ← j.record? ["gt", "gte", "lt", "lte"] 0
  return {
    gt := ← Json.optional? ms "gt" (Json.nullable? Scalar.decode?) none
    gte := ← Json.optional? ms "gte" (Json.nullable? Scalar.decode?) none
    lt := ← Json.optional? ms "lt" (Json.nullable? Scalar.decode?) none
    lte := ← Json.optional? ms "lte" (Json.nullable? Scalar.decode?) none }

namespace Query

mutual

/-- Reads a query. -/
def ofJson? : Json → Option Query
  | .object [(form, body)] =>
    if form = "bool" then (clausesOfJson? body).map .bool
    else match body with
      | .object ms => do
        let field ← Json.required? ms "field" Json.string?
        if form = "term" then
          return .term field (← Json.required? ms "value" Scalar.decode?)
        else if form = "terms" then
          return .terms field (← Json.required? ms "values" (Json.list? Scalar.decode?))
        else if form = "match" then
          return .text field (← Json.required? ms "value" Scalar.decode?)
        else if form = "range" then
          return .range field (← Json.required? ms "bounds" Bounds.ofJson?)
        else none
      | _ => none
  | _ => none

/-- Reads the slots of a composition; a missing slot is empty. -/
def clausesOfJson? : Json → Option (Clauses Query)
  | .object ms => do
    return {
      must := ← slotOfJson? .must ms
      filter := ← slotOfJson? .filter ms
      should := ← slotOfJson? .should ms
      mustNot := ← slotOfJson? .mustNot ms }
  | .array items => do
    match items with
    | [] => return {}
    | [a] => return { must := ← slotItems? a }
    | [a, b] => return { must := ← slotItems? a, filter := ← slotItems? b }
    | [a, b, c] =>
      return { must := ← slotItems? a, filter := ← slotItems? b, should := ← slotItems? c }
    | [a, b, c, d] =>
      return {
        must := ← slotItems? a
        filter := ← slotItems? b
        should := ← slotItems? c
        mustNot := ← slotItems? d }
    | _ => none
  | _ => none

/-- Reads a slot from the members of a composition. -/
def slotOfJson? (slot : Slot) : List (String × Json) → Option (List Query)
  | [] => some []
  | (key, j) :: rest => if key = slot.name then slotItems? j else slotOfJson? slot rest

/-- Reads the array of a slot. -/
def slotItems? : Json → Option (List Query)
  | .array items => listOfJson? items
  | _ => none

/-- Reads the queries of a slot in turn. -/
def listOfJson? : List Json → Option (List Query)
  | [] => some []
  | j :: rest => do
    let q ← ofJson? j
    let qs ← listOfJson? rest
    return q :: qs

end

/-- A slot is read from its first member. -/
theorem slotOfJson?_eq_lookup (slot : Slot) (ms : List (String × Json)) :
    slotOfJson? slot ms = (ms.lookup slot.name).elim (some []) slotItems? := by
  induction ms with
  | nil => simp [slotOfJson?]
  | cons m rest ih =>
      obtain ⟨key, j⟩ := m
      by_cases h : key = slot.name
      · simp [slotOfJson?, h]
      · have hb : (slot.name == key) = false := by simpa using fun e => h e.symm
        simp [slotOfJson?, h, List.lookup_cons, hb, ih]

theorem listOfJson?_eq_mapM (js : List Json) : listOfJson? js = js.mapM ofJson? := by
  induction js with
  | nil => rfl
  | cons j rest ih => simp [listOfJson?, ih]

end Query

end FacetedSearch
