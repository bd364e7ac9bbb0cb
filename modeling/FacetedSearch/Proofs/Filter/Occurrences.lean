import FacetedSearch.Filter.Clauses
import FacetedSearch.Proofs.Query.Occurrences

/-!
# `FacetedSearch.Proofs.Filter.Occurrences`: what a filter mentions, and where

This is a reading of filters that does not compile them. It visits every
value in a filter, at any depth (`Json.gather`), and judges it by nothing
but the keys above it (`Filter.place`):

    status                               about `status`
    status, must_not                     about `status`, excluded
    price, gte                           about `price`
    flags, pinned                        about `flags.pinned`
    must_not                             about the exclusion field, excluded
    must_not, status                     about `status`, excluded
    bool, should, term, a                about `a`
    bool, must_not, bool, must, range, n, lt   about `n`, excluded

Positions in arrays do not count. Every scalar is an occurrence
(`Filter.found`), and so is every map of comparisons that stands for what
is asked of a field.
-/

set_option autoImplicit false

namespace FacetedSearch

/-! ### Visiting every value -/

namespace Json

variable {α β : Type}

mutual

/-- All that is seen in a value and in the values inside it, each of them
seen along with the keys above it. -/
def gather : Json → (List String → Json → Multiset α) → Multiset α
  | .array items, see => see [] (.array items) + gatherItems items see
  | .object members, see => see [] (.object members) + gatherMembers members see
  | j, see => see [] j

/-- All that is seen in the items of an array. -/
def gatherItems : List Json → (List String → Json → Multiset α) → Multiset α
  | [], _ => 0
  | j :: rest, see => gather j see + gatherItems rest see

/-- All that is seen in the members of an object. -/
def gatherMembers : List (String × Json) → (List String → Json → Multiset α) → Multiset α
  | [], _ => 0
  | (key, j) :: rest, see => gather j (fun path => see (key :: path)) + gatherMembers rest see

end

variable {see : List String → Json → Multiset α}

theorem gatherItems_eq_sum (items : List Json) :
    gatherItems items see = (items.map fun j => j.gather see).sum := by
  induction items with
  | nil => rfl
  | cons j rest ih => rw [gatherItems, ih, List.map_cons, List.sum_cons]

theorem gatherMembers_eq_sum (members : Entries Json) :
    gatherMembers members see =
      (members.map fun m => m.2.gather fun path => see (m.1 :: path)).sum := by
  induction members with
  | nil => rfl
  | cons m rest ih => rw [gatherMembers, ih, List.map_cons, List.sum_cons]

/-- Everything that is seen can be changed afterwards. -/
theorem gather_map (f : α → β) (j : Json) (see : List String → Json → Multiset α) :
    j.gather (fun path v => (see path v).map f) = (j.gather see).map f := by
  have hsum (ss : List (Multiset α)) : ss.sum.map f = (ss.map (Multiset.map f)).sum :=
    map_list_sum (Multiset.mapAddMonoidHom f) ss
  induction j using Json.induction generalizing see with
  | array items ih =>
      rw [gather, gather, gatherItems_eq_sum, gatherItems_eq_sum, Multiset.map_add, hsum,
        List.map_map]
      exact congrArg _ (congrArg _ (List.map_congr_left fun j hj => ih j hj see))
  | object members ih =>
      rw [gather, gather, gatherMembers_eq_sum, gatherMembers_eq_sum, Multiset.map_add, hsum,
        List.map_map]
      exact congrArg _ (congrArg _ (List.map_congr_left fun m hm => ih m hm _))
  | _ => rfl

end Json

/-! ### Places -/

/-- What the keys above a value say about it. -/
structure Place where
  field : String := ""
  exclusions : Nat := 0
  /-- The value is all that is asked of the field, and may be a map of
  comparisons. -/
  isField : Bool := false

namespace Place

/-- The place in a slot with this key. -/
def under (key : String) (p : Place) : Place :=
  if key = "must_not" then { p with exclusions := p.exclusions + 1 } else p

/-- What is mentioned at a place. -/
def mention (p : Place) (content : Content) : Occurrence := ⟨p.field, p.exclusions, content⟩

end Place

/-- The bounds under the operators of a map. -/
def Bounds.ofComparisons (members : Entries Json) : Bounds where
  gt := (members.lookup "gt").bind Scalar.ofJson?
  gte := (members.lookup "gte").bind Scalar.ofJson?
  lt := (members.lookup "lt").bind Scalar.ofJson?
  lte := (members.lookup "lte").bind Scalar.ofJson?

namespace Filter

/-- The place of a value in the fields of a form. -/
def conditionPlace : List String → Place
  | [] => {}
  | [field] => { field := field, isField := true }
  | field :: _ => { field := field }

mutual

/-- The place of a value in a composition. -/
def slotPlace : List String → Place
  | [] => {}
  | slot :: path => (formPlace path).under slot

/-- The place of a value in a part. -/
def formPlace : List String → Place
  | [] => {}
  | form :: path => if form = "bool" then slotPlace path else conditionPlace path

end

/-- The place of a value in the entry of a field. -/
def entryPlace (key : String) : List String → Place
  | [] => { field := key, isField := true }
  | sub :: _ =>
    if sub = "must_not" then { field := key, exclusions := 1 }
    else if Operator.isName sub then { field := key }
    else { field := key ++ "." ++ sub }

/-- The place of a value in a filter. -/
def place (s : Settings) : List String → Place
  | [] => {}
  | key :: path =>
    if key = "must_not" then { field := path.headD s.exclusionField, exclusions := 1 }
    else if key = "bool" then slotPlace path
    else entryPlace key path

/-- What a value in a certain place mentions by itself. -/
def found (p : Place) : Json → Multiset Occurrence
  | .object members =>
    if p.isField ∧ ∀ m ∈ members, Operator.isName m.1 = true then
      {p.mention (.bounds (.ofComparisons members))}
    else 0
  | j =>
    match Scalar.ofJson? j with
    | some v => {p.mention (.value v)}
    | none => 0

/-- Everything a filter mentions. -/
def occurrences (s : Settings) (f : Filter) : Multiset Occurrence :=
  (Json.object f).gather fun path => found (place s path)

/-! ### What is found -/

/-- A map with other keys than operators is no map of comparisons. -/
theorem found_eq_zero {p : Place} {members : Entries Json}
    (h : ∃ m ∈ members, ¬Operator.isName m.1 = true) : found p (.object members) = 0 := by
  obtain ⟨m, hm, hname⟩ := h
  rw [found, if_neg fun hall => hname (hall.2 m hm)]

theorem found_under (key : String) (p : Place) (j : Json) :
    found (p.under key) j = (found p j).map (.under key) := by
  have hmention (content : Content) :
      (p.under key).mention content = (p.mention content).under key := by
    unfold Place.under Occurrence.under
    split <;> rfl
  have hfield : (p.under key).isField = p.isField := by
    unfold Place.under
    split <;> rfl
  unfold found
  rw [hfield]
  split
  · split <;> simp [hmention]
  · split <;> simp [hmention]

theorem gather_under (key : String) (spot : List String → Place) (j : Json) :
    j.gather (fun path => found ((spot path).under key)) =
      (j.gather fun path => found (spot path)).map (.under key) := by
  rw [← Json.gather_map]
  exact congrArg j.gather (funext fun path => funext fun v => found_under key (spot path) v)

section
variable {spot : List String → Place}

/-- A scalar is found once. -/
theorem gather_scalar {j : Json} {v : Scalar} (hv : Scalar.ofJson? j = some v) :
    j.gather (fun path => found (spot path)) = {(spot []).mention (.value v)} := by
  cases j with
  | null | array _ | object _ => cases hv
  | _ => simp [Json.gather, found, hv]

/-- An array mentions what its items do. -/
theorem gather_array (items : List Json) :
    (Json.array items).gather (fun path => found (spot path)) =
      (items.map fun j => j.gather fun path => found (spot path)).sum := by
  have harray : found (spot []) (.array items) = 0 := rfl
  rw [Json.gather, harray, zero_add, Json.gatherItems_eq_sum]

/-- The scalars of an array are found where the array is. -/
theorem gather_scalars {items : List Json} {vs : List Scalar}
    (hvs : List.Forall₂ (fun j v => Scalar.ofJson? j = some v) items vs) :
    (Json.array items).gather (fun path => found (spot path)) =
      (vs : Multiset Scalar).map fun v => (spot []).mention (.value v) := by
  rw [gather_array]
  induction hvs with
  | nil => rfl
  | cons hv _ ih =>
      rw [List.map_cons, List.sum_cons, gather_scalar hv, ih]
      rfl

/-- An object that is no map of comparisons mentions what its members do. -/
theorem gather_object {members : Entries Json}
    (hfound : found (spot []) (.object members) = 0) :
    (Json.object members).gather (fun path => found (spot path)) =
      (members.map fun m => m.2.gather fun path => found (spot (m.1 :: path))).sum := by
  rw [Json.gather, hfound, zero_add, Json.gatherMembers_eq_sum]

end

end Filter

end FacetedSearch
