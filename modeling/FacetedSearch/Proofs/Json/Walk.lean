import FacetedSearch.Document.Path
import FacetedSearch.Proofs.Json.KeyOrder
import Mathlib.Data.List.Nodup

/-!
# `FacetedSearch.Proofs.Json.Walk`: what chains of keys lead to

`Json.walk` follows a chain of keys through nested objects, and this is
all that projecting looks at. A chain that leads to something leads
through objects: `exists_object_of_walk_append` finds the object at any
place before its end.

Two values without repeated keys have the same walks (`SameWalks`) when
every chain leads in both to the same value, to nothing, or to objects,
whatever these hold. Since longer chains tell what the objects hold, such
values differ in the order of keys at most (`SameWalks.reordered`).
-/

set_option autoImplicit false

namespace FacetedSearch.Json

variable {i j v : Json} {ks ls : List String}

theorem walk_cons (key : String) (ks : List String) (members : Entries Json) :
    (Json.object members).walk (key :: ks) = (members.lookup key).bind (walk ks) := rfl

theorem walk_singleton (key : String) (members : Entries Json) :
    (Json.object members).walk [key] = members.lookup key :=
  Option.bind_fun_some (members.lookup key)

theorem walk_concat (ks : List String) (key : String) (j : Json) :
    j.walk (ks ++ [key]) = (j.walk ks).bind (get? key) := by
  have hlast : walk [key] = get? key := funext fun i => Option.bind_fun_some (i.get? key)
  rw [walk_append, hlast]

/-! ### On the way -/

/-- Only objects have anything below them. -/
theorem exists_object_of_walk (h : j.walk ks = some v) (hks : ks ≠ []) :
    ∃ members, j = .object members := by
  obtain ⟨key, rest, rfl⟩ := List.exists_cons_of_ne_nil hks
  cases j with
  | object members => exact ⟨members, rfl⟩
  | _ => cases h

/-- What is found before the end of a chain is an object, with the rest of
the chain below it. -/
theorem exists_object_of_walk_append (h : j.walk (ks ++ ls) = some v) (hls : ls ≠ []) :
    ∃ members, j.walk ks = some (.object members) ∧ (Json.object members).walk ls = some v := by
  rw [walk_append, Option.bind_eq_some_iff] at h
  obtain ⟨i, hi, hv⟩ := h
  obtain ⟨members, rfl⟩ := exists_object_of_walk hv hls
  exact ⟨members, hi, hv⟩

/-- Something is found all the way to what is found. -/
theorem exists_walk_above (h : j.walk ls = some v) (hstart : ks <+: ls) :
    ∃ i, j.walk ks = some i := by
  obtain ⟨rest, rfl⟩ := hstart
  rw [walk_append, Option.bind_eq_some_iff] at h
  obtain ⟨i, hi, -⟩ := h
  exact ⟨i, hi⟩

/-- What is found in a value without repeated keys has none either. -/
theorem DistinctKeys.of_walk (hj : j.DistinctKeys) (h : j.walk ks = some v) : v.DistinctKeys := by
  -- On the chain: its first key leads to the value of a member.
  induction ks generalizing j with
  | nil =>
      cases h
      exact hj
  | cons key ks ih =>
      obtain ⟨members, rfl⟩ := exists_object_of_walk h (List.cons_ne_nil _ _)
      rw [walk_cons, Option.bind_eq_some_iff] at h
      obtain ⟨child, hchild, hv⟩ := h
      rw [DistinctKeys, distinctKeysMembers_iff] at hj
      rw [Entries.lookup_eq_some_iff hj.1] at hchild
      exact ih (hj.2 (key, child) hchild) hv

/-! ### Everywhere -/

/-- Every chain of keys leads in both values to the same value or to
nothing, or to objects. -/
def SameWalks (i j : Json) : Prop :=
  ∀ ks, i.walk ks = j.walk ks ∨
    ∃ members members', i.walk ks = some (.object members) ∧ j.walk ks = some (.object members')

/-- A chain leads somewhere in both values or in neither. -/
theorem SameWalks.isSome_walk (h : i.SameWalks j) (ks : List String) :
    (i.walk ks).isSome = (j.walk ks).isSome := by
  rcases h ks with heq | ⟨_, _, hi, hj⟩
  · rw [heq]
  · rw [hi, hj]
    rfl

/-- What lies under one key has the same walks. -/
theorem SameWalks.of_lookup {members members' : Entries Json} {key : String}
    (h : (Json.object members).SameWalks (.object members')) (hi : members.lookup key = some i)
    (hj : members'.lookup key = some j) : i.SameWalks j := by
  intro ks
  have hks := h (key :: ks)
  rwa [walk_cons, walk_cons, hi, hj] at hks

/-- Objects without repeated keys are the same up to the order of keys when
each key has such values in both. -/
theorem reordered_object {members members' : Entries Json} (hkeys : (members.map (·.1)).Nodup)
    (hkeys' : (members'.map (·.1)).Nodup)
    (hvalues : ∀ m ∈ members, ∃ j, members'.lookup m.1 = some j ∧ m.2.Reordered j)
    (hback : ∀ m ∈ members', m.1 ∈ members.map (·.1)) :
    (Json.object members).Reordered (.object members') := by
  -- The members of the first object, with the values of the second one.
  let pick (m : String × Json) : String × Json := (m.1, (members'.lookup m.1).getD .null)
  have heach : List.Forall₂ ReorderedMember members (members.map pick) := by
    rw [List.forall₂_map_right_iff, List.forall₂_same]
    intro m hm
    obtain ⟨j, hj, hreordered⟩ := hvalues m hm
    refine reorderedMember_iff.mpr ⟨rfl, ?_⟩
    simpa [pick, hj] using hreordered
  have hpick : ((members.map pick).map (·.1)).Nodup := by
    rw [List.map_map]
    exact hkeys
  -- Neither list repeats a member, so it is enough that they have the same ones.
  refine .object heach ((List.perm_ext_iff_of_nodup (List.Nodup.of_map _ hpick)
    (List.Nodup.of_map _ hkeys')).mpr fun m => ?_)
  rw [List.mem_map]
  constructor
  · rintro ⟨m, hm, rfl⟩
    obtain ⟨j, hj, -⟩ := hvalues m hm
    rw [← Entries.lookup_eq_some_iff hkeys', hj, Option.getD_some]
  · intro hm
    obtain ⟨m₀, hm₀, hkey⟩ := List.mem_map.mp (hback m hm)
    refine ⟨m₀, hm₀, ?_⟩
    have hlookup : members'.lookup m.1 = some m.2 := (Entries.lookup_eq_some_iff hkeys').mpr hm
    simp only [pick, hkey, hlookup, Option.getD_some]

/-- **Values without repeated keys that have the same walks are the same up
to the order of keys.** -/
theorem SameWalks.reordered (h : i.SameWalks j) (hi : i.DistinctKeys) (hj : j.DistinctKeys) :
    i.Reordered j := by
  -- On the first value: the empty chain says of which sort the second one is,
  -- chains of one key which keys it has, and longer ones go to the members.
  induction i using Json.induction generalizing j with
  | object members ih =>
      rcases h [] with heq | ⟨_, members', -, hobject⟩
      · obtain rfl := Option.some.inj heq
        exact .refl _
      obtain rfl := Option.some.inj hobject
      rw [DistinctKeys, distinctKeysMembers_iff] at hi hj
      have hsome (key : String) :
          (members.lookup key).isSome = (members'.lookup key).isSome := by
        rw [← walk_singleton, ← walk_singleton]
        exact h.isSome_walk [key]
      refine reordered_object hi.1 hj.1 ?_ ?_
      · intro m hm
        have hlookup : members.lookup m.1 = some m.2 := (Entries.lookup_eq_some_iff hi.1).mpr hm
        have hthere := hsome m.1
        rw [hlookup, Option.isSome_some, eq_comm, Option.isSome_iff_exists] at hthere
        obtain ⟨j', hj'⟩ := hthere
        have hmem : (m.1, j') ∈ members' := (Entries.lookup_eq_some_iff hj.1).mp hj'
        exact ⟨j', hj', ih m hm (h.of_lookup hlookup hj') (hi.2 m hm) (hj.2 _ hmem)⟩
      · intro m hm
        have hlookup : members'.lookup m.1 = some m.2 := (Entries.lookup_eq_some_iff hj.1).mpr hm
        have hthere := hsome m.1
        rw [hlookup, Option.isSome_some, Option.isSome_iff_exists] at hthere
        obtain ⟨i', hi'⟩ := hthere
        exact List.mem_map.mpr ⟨_, (Entries.lookup_eq_some_iff hi.1).mp hi', rfl⟩
  | _ =>
      -- No value but an object differs from what has the same walks.
      rcases h [] with heq | ⟨_, _, hobject, -⟩
      · obtain rfl := Option.some.inj heq
        exact .refl _
      · cases hobject

end FacetedSearch.Json
