import FacetedSearch.Proofs.Document.Insertion
import Mathlib.Data.List.Induction

/-!
# `FacetedSearch.Proofs.Document.Projection`: what a projection keeps

A requested field has a place in the document, a chain of keys: its whole
path, if the document has a field of that name, or else the segments of
the path, if they lead somewhere (`place?`). A projection takes over what
is at these places, one after the other. What it has taken over so far is
a part of the document (`IsPart`): it agrees with the document at each of
the places, and a chain that leads anywhere in it leads to one of them or
through it. This is what one more field preserves (`IsPart.insertAt`), so
it holds of every projection (`isPart_project`), whichever places lie
above or below each other.

The rest follows from the places alone:

* `project_exact`: a requested field reads as in the document, and nothing
  is kept that is not at a requested place.
* `project_project`: a projection has the same places as the document, so
  projecting it again takes the same steps. Two lists of the same paths
  have the same places, which leaves only the order of keys open.
-/

set_option autoImplicit false

namespace FacetedSearch.Document

variable {doc part : Document} {places places' : List (List String)} {paths paths' : List String}

/-! ### Where a field is -/

/-- Where a field is in a document: under its whole path, or else where the
path leads. -/
def place? (doc : Document) (path : String) : Option (List String) :=
  if (doc.lookup path).isSome then some [path]
  else if ((Json.object doc).walk (segments path)).isSome then some (segments path)
  else none

/-- The places of several fields. -/
def placesOf (doc : Document) (paths : List String) : List (List String) :=
  paths.filterMap doc.place?

theorem segments_ne_nil (path : String) : segments path ≠ [] := by
  rw [segments, Ne, List.map_eq_nil_iff]
  exact List.splitOn_ne_nil '.' path.toList

/-- A field is missing, or it has a place; then this is what is kept of it. -/
theorem place?_cases (doc : Document) (path : String) :
    (doc.place? path = none ∧ ∀ out, keep doc out path = out) ∨
    ∃ place v, doc.place? path = some place ∧ place ≠ [] ∧
      (Json.object doc).walk place = some v ∧
      ∀ out, keep doc out path = insertAt v place out := by
  cases hlookup : doc.lookup path with
  | some v =>
      refine .inr ⟨[path], v, ?_, List.cons_ne_nil _ _, ?_, ?_⟩
      · simp [place?, hlookup]
      · rw [Json.walk_singleton, hlookup]
      · simp [keep, hlookup, insertAt]
  | none =>
      cases hwalk : (Json.object doc).walk (segments path) with
      | some v =>
          refine .inr ⟨segments path, v, ?_, segments_ne_nil path, hwalk, ?_⟩
          · simp [place?, hlookup, hwalk]
          · simp [keep, hlookup, hwalk]
      | none =>
          refine .inl ⟨?_, ?_⟩
          · simp [place?, hlookup, hwalk]
          · simp [keep, hlookup, hwalk]

/-- A field is found in the same way in both documents, with the same value. -/
structure SameField (doc part : Document) (path : String) : Prop where
  lookup_eq : part.lookup path = doc.lookup path
  walk_eq : doc.lookup path = none →
    (Json.object part).walk (segments path) = (Json.object doc).walk (segments path)

theorem SameField.find?_eq {path : String} (h : SameField doc part path) :
    part.find? path = doc.find? path := by
  rw [find?, find?, h.lookup_eq]
  cases hlookup : doc.lookup path with
  | some v => rfl
  | none => rw [h.walk_eq hlookup]

theorem SameField.keep_eq {path : String} (h : SameField doc part path) (out : Document) :
    keep part out path = keep doc out path := by
  rw [keep, keep, h.lookup_eq]
  cases hlookup : doc.lookup path with
  | some v => rfl
  | none => rw [h.walk_eq hlookup]

/-! ### Parts of documents -/

/-- The second document is what the first one has at some places: it agrees
with it there, and apart from this it only has what is on the way. -/
structure IsPart (places : List (List String)) (doc part : Document) : Prop where
  found : ∀ place ∈ places, ∃ v, (Json.object doc).walk place = some v
  walk_eq : ∀ place ∈ places, (Json.object part).walk place = (Json.object doc).walk place
  exists_place : ∀ ks v, ks ≠ [] → (Json.object part).walk ks = some v →
    ∃ place ∈ places, place <+: ks ∨ ks <+: place

namespace IsPart

variable {ks place : List String}

/-- Nothing is a part, at no place. -/
theorem nil (doc : Document) : IsPart [] doc [] where
  found := by simp
  walk_eq := by simp
  exists_place := by
    intro ks v hks h
    obtain ⟨key, rest, rfl⟩ := List.exists_cons_of_ne_nil hks
    cases h

/-- At a place, and below, a part agrees with the document. -/
theorem walk_eq_below (h : IsPart places doc part) (hplace : place ∈ places)
    (hstart : place <+: ks) : (Json.object part).walk ks = (Json.object doc).walk ks := by
  obtain ⟨rest, rfl⟩ := hstart
  rw [Json.walk_append, Json.walk_append, h.walk_eq place hplace]

/-- On the way to a place a part has objects that are not empty. -/
theorem exists_object (h : IsPart places doc part) (hplace : place ∈ places)
    (hstart : ks <+: place) (hne : ks ≠ place) :
    ∃ members, (Json.object part).walk ks = some (.object members) ∧ members ≠ [] := by
  obtain ⟨rest, rfl⟩ := hstart
  have hrest : rest ≠ [] := by
    rintro rfl
    exact hne (List.append_nil ks).symm
  obtain ⟨v, hv⟩ := h.found _ hplace
  have hpart := (h.walk_eq _ hplace).trans hv
  obtain ⟨members, hobject, hbelow⟩ := Json.exists_object_of_walk_append hpart hrest
  refine ⟨members, hobject, ?_⟩
  rintro rfl
  obtain ⟨key, rest, rfl⟩ := List.exists_cons_of_ne_nil hrest
  cases hbelow

/-- What leads somewhere in a part does so in the document. -/
theorem exists_walk (h : IsPart places doc part) {v : Json}
    (hv : (Json.object part).walk ks = some v) : ∃ w, (Json.object doc).walk ks = some w := by
  by_cases hks : ks = []
  · exact ⟨.object doc, by rw [hks]; rfl⟩
  obtain ⟨place, hplace, hbelow | habove⟩ := h.exists_place ks v hks hv
  · exact ⟨v, (h.walk_eq_below hplace hbelow).symm.trans hv⟩
  · obtain ⟨w, hw⟩ := h.found place hplace
    exact Json.exists_walk_above hw habove

/-- Away from its places a part has nothing. -/
theorem walk_eq_none (h : IsPart places doc part) (hks : ks ≠ [])
    (hbelow : ∀ place ∈ places, ¬place <+: ks) (habove : ∀ place ∈ places, ¬ks <+: place) :
    (Json.object part).walk ks = none := by
  refine Option.eq_none_iff_forall_ne_some.mpr fun v hv => ?_
  obtain ⟨place, hplace, hrel | hrel⟩ := h.exists_place ks v hks hv
  · exact hbelow place hplace hrel
  · exact habove place hplace hrel

/-- Only objects are in the way to a place that does not lie in what is kept. -/
theorem clear (h : IsPart places doc part) (hbeside : ∀ place' ∈ places, ¬place' <+: place) :
    part.Clear place := by
  intro front hfront _ j hj
  by_cases hnil : front = []
  · subst hnil
    exact ⟨part, (Option.some.inj hj).symm⟩
  obtain ⟨place', hplace', hbelow | habove⟩ := h.exists_place front j hnil hj
  · exact absurd (hbelow.trans hfront) (hbeside place' hplace')
  · have hne : front ≠ place' := by
      rintro rfl
      exact hbeside front hplace' hfront
    obtain ⟨members, hobject, -⟩ := h.exists_object hplace' habove hne
    exact ⟨members, Option.some.inj (hj.symm.trans hobject)⟩

/-- A place inside what is kept may be named as well. -/
theorem append_singleton {place' : List String} {v : Json} (h : IsPart places doc part)
    (hplace' : place' ∈ places) (hstart : place' <+: place)
    (hv : (Json.object doc).walk place = some v) : IsPart (places ++ [place]) doc part where
  found := List.forall_mem_append.mpr ⟨h.found, List.forall_mem_singleton.mpr ⟨v, hv⟩⟩
  walk_eq := by
    rw [List.forall_mem_append, List.forall_mem_singleton]
    exact ⟨h.walk_eq, h.walk_eq_below hplace' hstart⟩
  exists_place := by
    intro ks w hks hw
    obtain ⟨place'', hplace'', hrel⟩ := h.exists_place ks w hks hw
    exact ⟨place'', List.mem_append_left _ hplace'', hrel⟩

/-- What the document has at one place more is added to a part. -/
theorem insertAt {v : Json} (h : IsPart places doc part) (hne : place ≠ [])
    (hv : (Json.object doc).walk place = some v) :
    IsPart (places ++ [place]) doc (insertAt v place part) := by
  by_cases hinside : ∃ place' ∈ places, place' <+: place
  · -- The value is there already, and nothing changes.
    obtain ⟨place', hplace', hstart⟩ := hinside
    have hthere := (h.walk_eq_below hplace' hstart).trans hv
    rw [insertAt_of_walk hne hthere]
    exact h.append_singleton hplace' hstart hv
  have hbeside : ∀ place' ∈ places, ¬place' <+: place :=
    fun place' hplace' hstart => hinside ⟨place', hplace', hstart⟩
  have hclear := h.clear hbeside
  refine ⟨List.forall_mem_append.mpr ⟨h.found, List.forall_mem_singleton.mpr ⟨v, hv⟩⟩, ?_, ?_⟩
  · rw [List.forall_mem_append, List.forall_mem_singleton, walk_insertAt_self v hne hclear]
    refine ⟨?_, hv.symm⟩
    intro place' hplace'
    by_cases hbelow : place <+: place'
    · -- The new value contains what was kept before.
      obtain ⟨rest, rfl⟩ := hbelow
      rw [walk_insertAt_append v hne hclear, Json.walk_append, hv, Option.bind_some]
    · rw [walk_insertAt_beside v hne hclear hbelow (hbeside place' hplace'),
        h.walk_eq place' hplace']
  · intro ks w hks hw
    by_cases hrel : place <+: ks ∨ ks <+: place
    · exact ⟨place, List.mem_append_right _ (List.mem_singleton_self place), hrel⟩
    · rw [not_or] at hrel
      rw [walk_insertAt_beside v hne hclear hrel.1 hrel.2] at hw
      obtain ⟨place', hplace', hrel'⟩ := h.exists_place ks w hks hw
      exact ⟨place', List.mem_append_left _ hplace', hrel'⟩

/-- Two parts at the same places have the same walks. -/
theorem sameWalks {part' : Document} (h : IsPart places doc part) (h' : IsPart places' doc part')
    (hplaces : ∀ place, place ∈ places ↔ place ∈ places') :
    (Json.object part).SameWalks (.object part') := by
  intro ks
  by_cases hnil : ks = []
  · subst hnil
    exact .inr ⟨part, part', rfl, rfl⟩
  by_cases hbelow : ∃ place ∈ places, place <+: ks
  · -- At a place or below, both agree with the document.
    obtain ⟨place, hplace, hstart⟩ := hbelow
    have hdoc := h.walk_eq_below hplace hstart
    have hdoc' := h'.walk_eq_below ((hplaces place).mp hplace) hstart
    exact .inl (hdoc.trans hdoc'.symm)
  by_cases habove : ∃ place ∈ places, ks <+: place
  · -- On the way to a place, both have an object.
    obtain ⟨place, hplace, hstart⟩ := habove
    have hne : ks ≠ place := by
      rintro rfl
      exact hbelow ⟨ks, hplace, List.prefix_refl ks⟩
    obtain ⟨members, hobject, -⟩ := h.exists_object hplace hstart hne
    obtain ⟨members', hobject', -⟩ := h'.exists_object ((hplaces place).mp hplace) hstart hne
    exact .inr ⟨members, members', hobject, hobject'⟩
  · simp only [not_exists, not_and] at hbelow habove
    rw [h.walk_eq_none hnil hbelow habove, h'.walk_eq_none hnil]
    · exact .inl rfl
    · exact fun place hplace => hbelow place ((hplaces place).mpr hplace)
    · exact fun place hplace => habove place ((hplaces place).mpr hplace)

/-- A field whose place is among the places reads the same in a part, and
one that is missing is missing in a part. -/
theorem sameField (h : IsPart places doc part) {path : String}
    (hplace : ∀ place, doc.place? path = some place → place ∈ places) :
    SameField doc part path := by
  -- Nothing is found in the part where the document has nothing.
  have hmissing {ks : List String} (hks : (Json.object doc).walk ks = none) :
      (Json.object part).walk ks = none := by
    refine Option.eq_none_iff_forall_ne_some.mpr fun v hv => ?_
    obtain ⟨w, hw⟩ := h.exists_walk hv
    rw [hks] at hw
    cases hw
  constructor
  · rw [← Json.walk_singleton, ← Json.walk_singleton]
    cases hlookup : doc.lookup path with
    | some v => exact h.walk_eq [path] (hplace _ (by simp [place?, hlookup]))
    | none =>
        have hnone := (Json.walk_singleton path doc).trans hlookup
        rw [hnone, hmissing hnone]
  · intro hlookup
    cases hwalk : (Json.object doc).walk (segments path) with
    | some v =>
        rw [← hwalk]
        exact h.walk_eq _ (hplace _ (by simp [place?, hlookup, hwalk]))
    | none => exact hmissing hwalk

end IsPart

/-! ### Projections -/

theorem project_append_singleton (doc : Document) (paths : List String) (path : String) :
    doc.project (some (paths ++ [path])) = keep doc (doc.project (some paths)) path := by
  simp [project]

/-- A projection is what the document has at the places of the requested fields. -/
theorem isPart_project (doc : Document) (paths : List String) :
    IsPart (doc.placesOf paths) doc (doc.project (some paths)) := by
  -- On the list of fields, from its end: the last one is added to a part.
  induction paths using List.reverseRecOn with
  | nil => exact .nil doc
  | append_singleton paths path ih =>
      rw [project_append_singleton]
      rcases place?_cases doc path with ⟨hplace, hkeep⟩ | ⟨place, v, hplace, hne, hv, hkeep⟩
      · have hplaces : doc.placesOf (paths ++ [path]) = doc.placesOf paths := by
          simp [placesOf, hplace]
        rw [hkeep, hplaces]
        exact ih
      · have hplaces : doc.placesOf (paths ++ [path]) = doc.placesOf paths ++ [place] := by
          simp [placesOf, hplace]
        rw [hkeep, hplaces]
        exact ih.insertAt hne hv

/-- A requested field reads the same in the projection. -/
theorem sameField_project {path : String} (hpath : path ∈ paths) :
    SameField doc (doc.project (some paths)) path :=
  (isPart_project doc paths).sameField fun _ hplace => List.mem_filterMap.mpr ⟨path, hpath, hplace⟩

/-- A projection of a document without repeated keys has none. -/
theorem distinctKeys_project (hdoc : (Json.object doc).DistinctKeys) (paths : List String) :
    (Json.object (doc.project (some paths))).DistinctKeys := by
  induction paths using List.reverseRecOn with
  | nil => exact ⟨List.nodup_nil, trivial⟩
  | append_singleton paths path ih =>
      rw [project_append_singleton]
      rcases place?_cases doc path with ⟨-, hkeep⟩ | ⟨place, v, -, -, hv, hkeep⟩
      · rwa [hkeep]
      · rw [hkeep]
        exact distinctKeys_insertAt (hdoc.of_walk hv) ih

/-- **A projection has exactly the requested fields.** Each of them reads as
in the document, and is missing where it is missing there. Whatever a
chain of keys leads to in the projection, unless it is an object that only
leads on, is what the chain leads to in the document, and the chain starts
with the place of a requested field. -/
theorem project_exact (doc : Document) (paths : List String) :
    (∀ path ∈ paths, (doc.project (some paths)).find? path = doc.find? path) ∧
    ∀ ks v, ks ≠ [] → (Json.object (doc.project (some paths))).walk ks = some v →
      (∀ members, v = .object members → members = []) →
      (Json.object doc).walk ks = some v ∧
      ∃ path ∈ paths, ((doc.lookup path).isSome ∧ [path] <+: ks) ∨
        (doc.lookup path = none ∧ segments path <+: ks) := by
  have hpart := isPart_project doc paths
  refine ⟨fun path hpath => (sameField_project hpath).find?_eq, ?_⟩
  intro ks v hks hv hleaf
  obtain ⟨place, hplace, hrel⟩ := hpart.exists_place ks v hks hv
  -- A chain that stops before the place leads to an object with more below.
  have hstart : place <+: ks := by
    rcases hrel with hbelow | habove
    · exact hbelow
    by_cases hne : ks = place
    · exact hne ▸ List.prefix_refl ks
    · obtain ⟨members, hobject, hsome⟩ := hpart.exists_object hplace habove hne
      exact absurd (hleaf members (Option.some.inj (hv.symm.trans hobject))) hsome
  refine ⟨(hpart.walk_eq_below hplace hstart).symm.trans hv, ?_⟩
  obtain ⟨path, hpath, hplace⟩ := List.mem_filterMap.mp hplace
  refine ⟨path, hpath, ?_⟩
  rw [place?] at hplace
  split at hplace
  · rename_i hlookup
    cases hplace
    exact .inl ⟨hlookup, hstart⟩
  · rename_i hlookup
    split at hplace
    · cases hplace
      exact .inr ⟨Option.not_isSome_iff_eq_none.mp hlookup, hstart⟩
    · cases hplace

/-- A document with two fields of one path, and with more than is asked for. -/
def shelf : Document :=
  [("a.b", .integer 1),
    ("a", .object [("b", .integer 2), ("c", .object []), ("d", .array [.null])]),
    ("note", .string "secret")]

theorem project_exact_shelf :
    let paths := ["a.c", "a.b", "x.y"]
    let kept := shelf.project (some paths)
    ("a.b" ∈ paths ∧ kept.find? "a.b" = some (.integer 1)) ∧
    ("x.y" ∈ paths ∧ kept.find? "x.y" = none) ∧
    ((Json.object kept).walk ["a", "c"] = some (.object []) ∧
      (Json.object shelf).walk ["a", "c"] = some (.object []) ∧
      ∃ path ∈ paths, ((shelf.lookup path).isSome ∧ [path] <+: ["a", "c"]) ∨
        (shelf.lookup path = none ∧ segments path <+: ["a", "c"])) := by
  intro paths kept
  obtain ⟨hfields, hleaves⟩ := project_exact shelf paths
  have hleaf : (Json.object kept).walk ["a", "c"] = some (.object []) := rfl
  refine ⟨⟨by decide, (hfields "a.b" (by decide)).trans rfl⟩,
    ⟨by decide, (hfields "x.y" (by decide)).trans rfl⟩, hleaf, ?_⟩
  exact hleaves ["a", "c"] _ (List.cons_ne_nil _ _) hleaf fun _ hempty =>
    (Json.object.inj hempty).symm

/-- **A projection is its own projection, and depends on the set of paths.**
Projecting once more to the same paths changes nothing, not even the order
of keys. Two lists with the same paths, in any order and as often as they
please, give the same object up to the order of keys. -/
theorem project_project (hdoc : (Json.object doc).DistinctKeys)
    (hpaths : ∀ path, path ∈ paths ↔ path ∈ paths') :
    (doc.project (some paths)).project (some paths) = doc.project (some paths) ∧
    (Json.object (doc.project (some paths))).Reordered (.object (doc.project (some paths'))) := by
  constructor
  · -- Each step of the second projection is the same step of the first one.
    refine List.foldl_ext _ _ _ fun out path hpath => ?_
    exact (sameField_project hpath).keep_eq out
  · have hplaces (place : List String) :
        place ∈ doc.placesOf paths ↔ place ∈ doc.placesOf paths' := by
      simp only [placesOf, List.mem_filterMap, hpaths]
    have hwalks := (isPart_project doc paths).sameWalks (isPart_project doc paths') hplaces
    exact hwalks.reordered (distinctKeys_project hdoc paths) (distinctKeys_project hdoc paths')

/-- A member before and after the object that it is in, in one order and
the other, once and again. -/
theorem project_project_shelf :
    let paths := ["a.d", "a", "a.b", "a.c"]
    let paths' := ["a.b", "a.c", "a.d", "a.b", "a"]
    (Json.object shelf).DistinctKeys ∧ (∀ path, path ∈ paths ↔ path ∈ paths') ∧
      (shelf.project (some paths)).project (some paths) = shelf.project (some paths) ∧
      (Json.object (shelf.project (some paths))).Reordered
        (.object (shelf.project (some paths'))) := by
  intro paths paths'
  have hkeys : (Json.object shelf).DistinctKeys := by
    simp [shelf, Json.DistinctKeys, Json.DistinctKeysMembers, Json.DistinctKeysItems]
  have hpaths : ∀ path, path ∈ paths ↔ path ∈ paths' := by
    intro path
    simp only [paths, paths', List.mem_cons, List.not_mem_nil, or_false]
    tauto
  exact ⟨hkeys, hpaths, project_project hkeys hpaths⟩

end FacetedSearch.Document
