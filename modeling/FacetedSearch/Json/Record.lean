import FacetedSearch.Json.Basic

/-!
# `FacetedSearch.Json.Record`: records

A record is written as an object with one member per field. It may also
be given as an array of its fields in their order, of which the last
ones may be left out as far as they have a default. `record?` brings
both forms to a list of members; `required?` and `optional?` read a
field from it. Members that are no field are ignored.
-/

set_option autoImplicit false

namespace FacetedSearch.Json

/-- The members of a record with these fields, of which an array gives at
least the first `atLeast`. -/
def record? (fields : List String) (atLeast : Nat) : Json → Option (Entries Json)
  | .object members => some members
  | .array items =>
    if atLeast ≤ items.length ∧ items.length ≤ fields.length then some (fields.zip items)
    else none
  | _ => none

/-- Reads a field that must be there. -/
def required? {α : Type} (members : Entries Json) (field : String) (read : Json → Option α) :
    Option α :=
  (members.lookup field).bind read

/-- Reads a field that has a default. -/
def optional? {α : Type} (members : Entries Json) (field : String) (read : Json → Option α)
    (default : α) : Option α :=
  match members.lookup field with
  | none => some default
  | some j => read j

/-- An unsigned integer of 16 bits. -/
def uint16? (j : Json) : Option UInt16 := (j.natural? UInt16.size).map UInt16.ofNat

/-- An unsigned integer of 32 bits. -/
def uint32? (j : Json) : Option UInt32 := (j.natural? UInt32.size).map UInt32.ofNat

/-- An unsigned integer of 64 bits. -/
def uint64? (j : Json) : Option UInt64 := (j.natural? UInt64.size).map UInt64.ofNat

/-- An integer of 64 bits with sign. -/
def int64? : Json → Option Int64
  | .integer n =>
    if -0x8000000000000000 ≤ n ∧ n < 0x8000000000000000 then some (Int64.ofInt n) else none
  | _ => none

end FacetedSearch.Json
