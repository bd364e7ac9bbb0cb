import FacetedSearch.Document.Projection
import FacetedSearch.Proofs.Json.Walk
import FacetedSearch.Proofs.Support.Entries

/-!
# `FacetedSearch.Proofs.Document.Insertion`: a value put where a path leads

Documents that are written to are looked at in one way only, by following
chains of keys through nested objects (`Json.walk`). Seen so, putting a
value where a path leads is simple as long as nothing but objects is in
the way (`Document.Clear`). A chain of keys then falls under one of three
cases:

* It goes on where the path ends, and leads into the new value
  (`walk_insertAt_append`).
* It leaves the path, and leads where it led before
  (`walk_insertAt_beside`).
* It stops on the way. What is found there can be told from the other two.

A value that is in its place already can be put there without a change,
the order of keys included (`insertAt_of_walk`).
-/

set_option autoImplicit false

namespace FacetedSearch

namespace Document

variable {v : Json} {doc : Document} {path ks : List String}

/-- Only a chain that starts with the key that is written sees the change. -/
theorem walk_put (key k : String) (v : Json) (ks : List String) (doc : Document) :
    (Json.object (Entries.put key v doc)).walk (k :: ks) =
      if k = key then v.walk ks else (Json.object doc).walk (k :: ks) := by
  show ((Entries.put key v doc).lookup k).bind (Json.walk ks) = _
  rw [Entries.lookup_put]
  split
  · rfl
  · rfl

/-! ### Putting a value where a path leads -/

/-- Nothing but objects is in the way to where a path leads. -/
def Clear (path : List String) (doc : Document) : Prop :=
  ∀ front, front <+: path → front ≠ path → ∀ j, (Json.object doc).walk front = some j →
    ∃ members, j = .object members

/-- In a clear way, a value is put into the child of the first key, which
may be new. -/
theorem exists_child (v : Json) {key : String} {rest : List String} (hrest : rest ≠ [])
    (h : doc.Clear (key :: rest)) :
    ∃ child, insertAt v (key :: rest) doc = Entries.put key (.object (insertAt v rest child)) doc ∧
      Clear rest child ∧
      ∀ ks, ks ≠ [] → (Json.object child).walk ks = (Json.object doc).walk (key :: ks) := by
  obtain ⟨key', rest, rfl⟩ := List.exists_cons_of_ne_nil hrest
  have hwalk (ks : List String) :
      (Json.object doc).walk (key :: ks) = (doc.lookup key).bind (Json.walk ks) := rfl
  cases hlookup : doc.lookup key with
  | none =>
      -- Nothing is found below a new child.
      have hnone {ks : List String} (hks : ks ≠ []) : (Json.object []).walk ks = none := by
        obtain ⟨k, ks, rfl⟩ := List.exists_cons_of_ne_nil hks
        rfl
      refine ⟨[], by simp [insertAt, hlookup], ?_, ?_⟩
      · intro front _ _ j hj
        by_cases hfront : front = []
        · subst hfront
          exact ⟨[], (Option.some.inj hj).symm⟩
        · rw [hnone hfront] at hj
          cases hj
      · intro ks hks
        rw [hnone hks, hwalk, hlookup]
        rfl
  | some j =>
      have hkey : (Json.object doc).walk [key] = some j :=
        (Json.walk_singleton key doc).trans hlookup
      obtain ⟨child, rfl⟩ := h [key] (by simp) (by simp) j hkey
      refine ⟨child, by simp [insertAt, hlookup], ?_, ?_⟩
      · intro front hfront hne j hj
        refine h (key :: front) (List.cons_prefix_cons.mpr ⟨rfl, hfront⟩) (by simpa using hne) j ?_
        rw [hwalk, hlookup]
        exact hj
      · intro ks _
        rw [hwalk, hlookup]
        rfl

/-- Where the path leads, and below, the new value is found. -/
theorem walk_insertAt_append (v : Json) (hpath : path ≠ []) (h : doc.Clear path)
    (rest : List String) :
    (Json.object (insertAt v path doc)).walk (path ++ rest) = v.walk rest := by
  -- On the path: its first key leads into the child that is put back.
  induction path generalizing doc with
  | nil => exact absurd rfl hpath
  | cons key path ih =>
      by_cases hlast : path = []
      · subst hlast
        show (Json.object (Entries.put key v doc)).walk (key :: rest) = v.walk rest
        rw [walk_put, if_pos rfl]
      · obtain ⟨child, hinsert, hclear, -⟩ := exists_child v hlast h
        rw [hinsert, List.cons_append, walk_put, if_pos rfl, ih hlast hclear]

theorem walk_insertAt_self (v : Json) (hpath : path ≠ []) (h : doc.Clear path) :
    (Json.object (insertAt v path doc)).walk path = some v := by
  have hself := walk_insertAt_append v hpath h []
  rwa [List.append_nil] at hself

/-- A chain that leaves the path leads where it led before. -/
theorem walk_insertAt_beside (v : Json) (hpath : path ≠ []) (h : doc.Clear path)
    (hbelow : ¬path <+: ks) (habove : ¬ks <+: path) :
    (Json.object (insertAt v path doc)).walk ks = (Json.object doc).walk ks := by
  induction path generalizing doc ks with
  | nil => exact absurd rfl hpath
  | cons key path ih =>
      obtain _ | ⟨k, ks⟩ := ks
      · exact absurd List.nil_prefix habove
      by_cases hlast : path = []
      · subst hlast
        have hk : k ≠ key := by
          rintro rfl
          exact hbelow (by simp)
        show (Json.object (Entries.put key v doc)).walk (k :: ks) = _
        rw [walk_put, if_neg hk]
      · obtain ⟨child, hinsert, hclear, hchild⟩ := exists_child v hlast h
        rw [hinsert, walk_put]
        by_cases hk : k = key
        · -- The chain leaves the path further on, inside the child.
          subst hk
          rw [List.cons_prefix_cons, not_and] at hbelow habove
          have hks : ks ≠ [] := by
            rintro rfl
            exact habove rfl List.nil_prefix
          rw [if_pos rfl, ih hlast hclear (hbelow rfl) (habove rfl), hchild ks hks]
        · rw [if_neg hk]

/-- To put a value where it is already changes nothing. -/
theorem insertAt_of_walk (hpath : path ≠ []) (h : (Json.object doc).walk path = some v) :
    insertAt v path doc = doc := by
  -- On the path: the child does not change, and it is put where it was.
  induction path generalizing doc with
  | nil => exact absurd rfl hpath
  | cons key path ih =>
      by_cases hlast : path = []
      · subst hlast
        exact Entries.put_of_lookup ((Json.walk_singleton key doc).symm.trans h)
      · obtain ⟨key', rest, rfl⟩ := List.exists_cons_of_ne_nil hlast
        have hsplit : (Json.object doc).walk ([key] ++ key' :: rest) = some v := h
        obtain ⟨child, hkey, hchild⟩ := Json.exists_object_of_walk_append hsplit hlast
        rw [Json.walk_singleton] at hkey
        have hinsert : insertAt v (key :: key' :: rest) doc =
            Entries.put key (.object (insertAt v (key' :: rest) child)) doc := by
          simp [insertAt, hkey]
        rw [hinsert, ih hlast hchild, Entries.put_of_lookup hkey]

/-! ### Distinct keys -/

theorem distinctKeys_put {key : String} (hv : v.DistinctKeys)
    (hdoc : (Json.object doc).DistinctKeys) :
    (Json.object (Entries.put key v doc)).DistinctKeys := by
  rw [Json.DistinctKeys, Json.distinctKeysMembers_iff] at hdoc ⊢
  have hkeys := Entries.nodup_keys_put (k := key) v hdoc.1
  refine ⟨hkeys, fun m hm => ?_⟩
  have hlookup := (Entries.lookup_eq_some_iff hkeys).mpr hm
  rw [Entries.lookup_put] at hlookup
  split at hlookup
  · rwa [← Option.some.inj hlookup]
  · exact hdoc.2 m ((Entries.lookup_eq_some_iff hdoc.1).mp hlookup)

theorem distinctKeys_insertAt (hv : v.DistinctKeys) (hdoc : (Json.object doc).DistinctKeys) :
    (Json.object (insertAt v path doc)).DistinctKeys := by
  -- The cases are an empty path and one key, and then what the first key has:
  -- nothing, an object, or something that is in the way.
  fun_induction insertAt v path doc with
  | case1 => exact hdoc
  | case2 => exact distinctKeys_put hv hdoc
  | case3 key rest doc _ _ ih =>
      have hnew : (Json.object []).DistinctKeys := ⟨List.nodup_nil, trivial⟩
      exact distinctKeys_put (ih hnew) hdoc
  | case4 key rest doc _ child hchild ih =>
      have hkey : (Json.object doc).walk [key] = some (.object child) :=
        (Json.walk_singleton key doc).trans hchild
      exact distinctKeys_put (ih (hdoc.of_walk hkey)) hdoc
  | case5 => exact hdoc

end Document

end FacetedSearch
