import FacetedSearch.Proofs.Json.Scalar
import FacetedSearch.Proofs.Support.Rearrangement

/-!
# `FacetedSearch.Proofs.Json.KeyOrder`: values that differ in the order of keys

Two JSON values are the same up to the order of keys (`Reordered`) when
one becomes the other by putting the members of its objects in another
order, at any depth. The items of arrays stay where they are.

Objects are the only place where the two can differ: scalars and arrays
of scalars are equal (`Reordered.eq_of_isScalar`), and the members of an
object are the same ones, rearranged (`reordered_object_iff`). The
relation is symmetric and keeps keys distinct.
-/

set_option autoImplicit false

namespace FacetedSearch.Json

mutual

/-- The second value is the first one with the keys of its objects, at any
depth, in any order. -/
inductive Reordered : Json → Json → Prop where
  | refl (j : Json) : Reordered j j
  | array {items items' : List Json} (each : List.Forall₂ Reordered items items') :
      Reordered (.array items) (.array items')
  | object {members members' members'' : List (String × Json)}
      (each : List.Forall₂ ReorderedMember members members') (order : members'.Perm members'') :
      Reordered (.object members) (.object members'')

/-- The second member has the key of the first one, and its value up to the
order of keys. -/
inductive ReorderedMember : String × Json → String × Json → Prop where
  | mk (key : String) {j j' : Json} (value : Reordered j j') : ReorderedMember (key, j) (key, j')

end

variable {j j' : Json}

/-! ### What differs -/

theorem reorderedMember_iff {m m' : String × Json} :
    ReorderedMember m m' ↔ m.1 = m'.1 ∧ m.2.Reordered m'.2 := by
  constructor
  · rintro ⟨key, hvalue⟩
    exact ⟨rfl, hvalue⟩
  · obtain ⟨key, value⟩ := m
    obtain ⟨key', value'⟩ := m'
    rintro ⟨rfl, hvalue⟩
    exact .mk key hvalue

theorem ReorderedMember.refl (m : String × Json) : ReorderedMember m m :=
  reorderedMember_iff.mpr ⟨rfl, .refl m.2⟩

theorem reordered_array_iff {items : List Json} :
    (Json.array items).Reordered j' ↔
      ∃ items', j' = .array items' ∧ List.Forall₂ Reordered items items' := by
  constructor
  · intro h
    cases h with
    | refl => exact ⟨items, rfl, List.forall₂_same.mpr fun i _ => .refl i⟩
    | array each => exact ⟨_, rfl, each⟩
  · rintro ⟨items', rfl, each⟩
    exact .array each

theorem reordered_object_iff {members : List (String × Json)} :
    (Json.object members).Reordered j' ↔
      ∃ members', j' = .object members' ∧ Rearranged ReorderedMember members members' := by
  constructor
  · intro h
    cases h with
    | refl => exact ⟨members, rfl, .of_perm ReorderedMember.refl (.refl _)⟩
    | object each order => exact ⟨_, rfl, _, each, order⟩
  · rintro ⟨members', rfl, _, each, order⟩
    exact .object each order

/-- Scalars have no keys. -/
theorem Reordered.eq_of_isScalar (h : j.Reordered j') (hj : j.IsScalar) : j' = j := by
  cases h with
  | refl => rfl
  | array | object => rcases hj with hj | hj | hj <;> cases hj

/-! ### Symmetry -/

theorem Reordered.symm (h : j.Reordered j') : j'.Reordered j := by
  -- On the value: its items, or the values of its members, are turned around.
  induction j using Json.induction generalizing j' with
  | array items ih =>
      obtain ⟨items', rfl, each⟩ := reordered_array_iff.mp h
      exact .array (forall₂_imp_of_mem each fun i hi _ hij => ih i hi hij).flip
  | object members ih =>
      obtain ⟨members', rfl, each⟩ := reordered_object_iff.mp h
      obtain ⟨ms, hms, order⟩ := each
      have hflip : List.Forall₂ (fun m m' => ReorderedMember m' m) members ms :=
        forall₂_imp_of_mem hms fun m hm m' hmm => by
          rw [reorderedMember_iff] at hmm ⊢
          exact ⟨hmm.1.symm, ih m hm hmm.2⟩
      exact reordered_object_iff.mpr ⟨members, rfl, Rearranged.flip ⟨ms, hflip, order⟩⟩
  | _ =>
      cases h
      exact .refl _

/-! ### Distinct keys -/

/-- The keys of an object are the same ones in another order. -/
theorem perm_keys_of_rearranged {members members' : List (String × Json)}
    (h : Rearranged ReorderedMember members members') :
    (members.map (·.1)).Perm (members'.map (·.1)) := by
  obtain ⟨ms, hms, order⟩ := h
  have hkeys : members.map (·.1) = ms.map (·.1) := by
    rw [← List.forall₂_eq_eq_eq, List.forall₂_map_left_iff, List.forall₂_map_right_iff]
    exact hms.imp fun _ _ hm => (reorderedMember_iff.mp hm).1
  rw [hkeys]
  exact order.map (·.1)

theorem Reordered.distinctKeys_iff (h : j.Reordered j') : j.DistinctKeys ↔ j'.DistinctKeys := by
  induction j using Json.induction generalizing j' with
  | array items ih =>
      obtain ⟨items', rfl, each⟩ := reordered_array_iff.mp h
      rw [DistinctKeys, DistinctKeys, distinctKeysItems_iff, distinctKeysItems_iff]
      exact forall_mem_iff_of_forall₂ (forall₂_imp_of_mem each fun i hi _ hii' => ih i hi hii')
  | object members ih =>
      obtain ⟨members', rfl, each⟩ := reordered_object_iff.mp h
      rw [DistinctKeys, DistinctKeys, distinctKeysMembers_iff, distinctKeysMembers_iff,
        (perm_keys_of_rearranged each).nodup_iff]
      refine and_congr_right fun _ => each.forall_mem_iff fun m hm _ hmm' => ?_
      exact ih m hm (reorderedMember_iff.mp hmm').2
  | _ =>
      cases h
      rfl

end FacetedSearch.Json
