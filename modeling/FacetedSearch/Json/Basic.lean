import FacetedSearch.Entries
import FacetedSearch.Number.Binary64

/-!
# `FacetedSearch.Json.Basic`: JSON values

Documents, filters and messages are JSON values. An object is a list of
members, because the order of its keys decides which part of a filter is
read first and is kept in every answer. Nothing in the type forbids a
repeated key; `DistinctKeys` says that none occurs, at any depth, and
the reader of texts only builds such values.

Numbers are of two sorts that never meet: integers, which are exact, and
binary64 numbers.
-/

set_option autoImplicit false

namespace FacetedSearch

/-- A JSON value. -/
inductive Json where
  | null
  | bool (value : Bool)
  | integer (value : Int)
  | float (value : Binary64)
  | string (value : String)
  | array (items : List Json)
  | object (members : List (String × Json))
deriving Inhabited

namespace Json

/-- The sort of a JSON value, as error messages name it. -/
inductive Kind where
  | null | boolean | number | string | array | object
deriving DecidableEq, Inhabited

/-- The word for a sort of value. -/
def Kind.name : Kind → String
  | .null => "null"
  | .boolean => "boolean"
  | .number => "number"
  | .string => "string"
  | .array => "array"
  | .object => "object"

/-- The sort of a value. -/
def kind : Json → Kind
  | .null => .null
  | .bool _ => .boolean
  | .integer _ | .float _ => .number
  | .string _ => .string
  | .array _ => .array
  | .object _ => .object

/-! ### Reading parts of a value -/

/-- The member of an object; `none` for a missing key and for any other value. -/
def get? (key : String) : Json → Option Json
  | .object members => members.lookup key
  | _ => none

/-- The members of an object. -/
def object? : Json → Option (Entries Json)
  | .object members => some members
  | _ => none

/-- The items of an array. -/
def array? : Json → Option (List Json)
  | .array items => some items
  | _ => none

/-- The text of a string. -/
def string? : Json → Option String
  | .string s => some s
  | _ => none

/-- The truth value of a boolean. -/
def bool? : Json → Option Bool
  | .bool b => some b
  | _ => none

/-- The number that a value counts as. -/
def number? : Json → Option Binary64
  | .integer n => some (Binary64.ofInt n)
  | .float x => some x
  | _ => none

/-- An integer from zero to below a limit. -/
def natural? (limit : Nat) : Json → Option Nat
  | .integer n => if 0 ≤ n ∧ n < limit then some n.toNat else none
  | _ => none

/-- Reads every item of an array, or fails. -/
def list? {α : Type} (read : Json → Option α) (j : Json) : Option (List α) :=
  j.array?.bind (·.mapM read)

/-- Reads `null` as nothing and any other value by `read`. -/
def nullable? {α : Type} (read : Json → Option α) : Json → Option (Option α)
  | .null => some none
  | j => (read j).map some

/-! ### Building values -/

/-- A value that may be missing, `null` standing for nothing. -/
def ofOption {α : Type} (write : α → Json) : Option α → Json
  | none => .null
  | some v => write v

/-- An array of texts. -/
def strings (ss : List String) : Json := .array (ss.map .string)

/-! ### Distinct keys -/

mutual

/-- No object repeats a key, at any depth. -/
def DistinctKeys : Json → Prop
  | .array items => DistinctKeysItems items
  | .object members => (members.map (·.1)).Nodup ∧ DistinctKeysMembers members
  | _ => True

/-- No object among the items repeats a key. -/
def DistinctKeysItems : List Json → Prop
  | [] => True
  | j :: rest => j.DistinctKeys ∧ DistinctKeysItems rest

/-- No object among the members repeats a key. -/
def DistinctKeysMembers : List (String × Json) → Prop
  | [] => True
  | (_, j) :: rest => j.DistinctKeys ∧ DistinctKeysMembers rest

end

theorem distinctKeysItems_iff (items : List Json) :
    DistinctKeysItems items ↔ ∀ j ∈ items, j.DistinctKeys := by
  induction items with
  | nil => simp [DistinctKeysItems]
  | cons j rest ih => simp [DistinctKeysItems, ih]

theorem distinctKeysMembers_iff (members : List (String × Json)) :
    DistinctKeysMembers members ↔ ∀ m ∈ members, m.2.DistinctKeys := by
  induction members with
  | nil => simp [DistinctKeysMembers]
  | cons m rest ih => obtain ⟨k, j⟩ := m; simp [DistinctKeysMembers, ih]

end Json

/-- A document: its fields by name. -/
abbrev Document := Entries Json

end FacetedSearch
