import FacetedSearch.Json.Record

/-!
# `FacetedSearch.Proofs.Json.Record`: members that are written and read

A record is read field by field, and each way of reading a field takes
back what the matching way of writing gave: numbers of a fixed width, lists
of anything, and values that may be missing, be it as `null` or as no
member at all. Whatever a record consists of, that it can be read follows
from these.
-/

set_option autoImplicit false

namespace FacetedSearch.Json

variable {α : Type} {read : Json → Option α} {write : α → Json}

theorem natural?_natCast {n limit : Nat} (h : n < limit) :
    natural? limit (.integer n) = some n := by
  rw [natural?, if_pos ⟨by omega, by omega⟩, Int.toNat_natCast]

theorem uint32?_toNat (n : UInt32) : uint32? (.integer n.toNat) = some n := by
  rw [uint32?, natural?_natCast n.toNat_lt_size, Option.map_some, UInt32.ofNat_toNat]

theorem uint64?_toNat (n : UInt64) : uint64? (.integer n.toNat) = some n := by
  rw [uint64?, natural?_natCast n.toNat_lt_size, Option.map_some, UInt64.ofNat_toNat]

/-! ### Members -/

section
variable {members : Entries Json} {field : String} {j : Json} {v : α}

theorem required?_of_member (hmember : members.lookup field = some j) (h : read j = some v) :
    required? members field read = some v := by
  rw [required?, hmember, Option.bind_some, h]

theorem optional?_of_member {default : α} (hmember : members.lookup field = some j)
    (h : read j = some v) : optional? members field read default = some v := by
  rw [optional?, hmember]
  exact h

end

/-! ### Lists -/

/-- A run over what was written for some items gives the items. -/
theorem mapM_map_write {vs : List α} (h : ∀ v ∈ vs, read (write v) = some v) :
    (vs.map write).mapM read = some vs := by
  induction vs with
  | nil => rfl
  | cons v rest ih =>
      rw [List.forall_mem_cons] at h
      simp [h.1, ih h.2]

theorem list?_map {vs : List α} (h : ∀ v ∈ vs, read (write v) = some v) :
    list? read (.array (vs.map write)) = some vs := mapM_map_write h

theorem list?_strings (ss : List String) : list? string? (strings ss) = some ss :=
  list?_map fun _ _ => rfl

/-! ### Values that may be missing -/

/-- What is read otherwise is read where `null` may stand as well. -/
theorem nullable?_of_read (hnull : read .null = none) {j : Json} {v : α} (h : read j = some v) :
    nullable? read j = some (some v) := by
  cases j with
  | null =>
      rw [hnull] at h
      cases h
  | _ => simp [nullable?, h]

/-- A missing value is written as `null` and comes back as missing. -/
theorem nullable?_ofOption (hnull : read .null = none) {o : Option α}
    (h : ∀ v, o = some v → read (write v) = some v) :
    nullable? read (ofOption write o) = some o := by
  cases o with
  | none => rfl
  | some v => exact nullable?_of_read hnull (h v rfl)

/-- A missing value is not written at all and comes back as missing. -/
theorem optional?_of_lookup (hnull : read .null = none) {members : Entries Json} {field : String}
    {o : Option α} (hlookup : members.lookup field = o.map write)
    (h : ∀ v, o = some v → read (write v) = some v) :
    optional? members field (nullable? read) none = some o := by
  rw [optional?, hlookup]
  cases o with
  | none => rfl
  | some v => exact nullable?_of_read hnull (h v rfl)

end FacetedSearch.Json
