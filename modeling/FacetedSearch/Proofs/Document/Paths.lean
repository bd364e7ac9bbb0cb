import FacetedSearch.Proofs.Document.Projection
import Mathlib.Data.List.Infix

/-!
# `FacetedSearch.Proofs.Document.Paths`: dotted paths as chains of keys

A path is cut at its dots, so keys without dots come back from the path
that they are joined to, empty keys included (`segments_intercalate`).
Looking a field up tries the whole path as one key before it follows the
segments. The first attempt can only differ from the second one where a
key of the document has a dot in it (`Document.find?_eq_walk`).

`Document.paths_are_walks` puts this together with what putting a value
where a path leads does to chains of keys.
-/

set_option autoImplicit false

namespace FacetedSearch

/-- A text has no dot. -/
def Undotted (key : String) : Prop := '.' ∉ key.toList

instance (key : String) : Decidable (Undotted key) := inferInstanceAs (Decidable (¬_))

/-- Keys without dots are the segments of the path that they are joined to. -/
theorem segments_intercalate {keys : List String} (hsome : keys ≠ [])
    (hkeys : ∀ key ∈ keys, Undotted key) : segments (".".intercalate keys) = keys := by
  have hdots : ∀ cs ∈ keys.map String.toList, '.' ∉ cs := List.forall_mem_map.mpr hkeys
  have hsplit : (['.'].intercalate (keys.map String.toList)).splitOn '.' =
      keys.map String.toList :=
    List.splitOn_intercalate '.' hdots (mt List.map_eq_nil_iff.mp hsome)
  have hdot : ".".toList = ['.'] := rfl
  rw [segments, String.toList_intercalate, hdot, hsplit, List.map_map]
  exact List.map_id'' (fun _ => String.ofList_toList) keys

theorem segments_of_undotted {key : String} (hkey : Undotted key) : segments key = [key] :=
  segments_intercalate (List.cons_ne_nil key []) (List.forall_mem_singleton.mpr hkey)

namespace Document

variable {doc : Document}

/-- Without dots in the keys of a document, a field is where its path leads. -/
theorem find?_eq_walk (hdoc : ∀ m ∈ doc, Undotted m.1) (path : String) :
    doc.find? path = (Json.object doc).walk (segments path) := by
  rw [find?]
  cases hlookup : doc.lookup path with
  | none => rfl
  | some v =>
      -- The whole path is a key of the document, so it has one segment.
      have hpath : Undotted path := by
        by_contra hdotted
        have hnone : doc.lookup path = none :=
          Entries.lookup_eq_none_iff.mpr fun m hm hkey => hdotted (hkey ▸ hdoc m hm)
        rw [hlookup] at hnone
        cases hnone
      rw [segments_of_undotted hpath, Json.walk_singleton, hlookup]
      rfl

/-- A field of the whole path comes before what the path leads to. -/
theorem find?_of_lookup {path : String} {v : Json} (h : doc.lookup path = some v) :
    doc.find? path = some v := by
  rw [find?, h]
  rfl

/-- **Dotted paths are chains of keys.** If no key of a document has a dot,
the path that keys without dots are joined to finds what the keys lead to,
one after the other. In any document, a field that has the whole path for
its name comes first. And where nothing but objects is in the way, a value
that is put where a path leads is found by the segments of the path, and
every chain of keys that is neither on the way there nor goes on from there
leads where it led before. -/
theorem paths_are_walks :
    (∀ (doc : Document) (keys : List String), (∀ m ∈ doc, Undotted m.1) → keys ≠ [] →
      (∀ key ∈ keys, Undotted key) →
      doc.find? (".".intercalate keys) = (Json.object doc).walk keys) ∧
    (∀ (doc : Document) (path : String) (v : Json), doc.lookup path = some v →
      doc.find? path = some v) ∧
    ∀ (doc : Document) (path : String) (v : Json), doc.Clear (segments path) →
      (Json.object (insertAt v (segments path) doc)).walk (segments path) = some v ∧
      ∀ ks, ¬ks <+: segments path → ¬segments path <+: ks →
        (Json.object (insertAt v (segments path) doc)).walk ks = (Json.object doc).walk ks := by
  refine ⟨fun doc keys hdoc hsome hkeys => ?_, fun doc path v => find?_of_lookup,
    fun doc path v hclear => ?_⟩
  · rw [find?_eq_walk hdoc, segments_intercalate hsome hkeys]
  · have hpath : segments path ≠ [] := segments_ne_nil path
    exact ⟨walk_insertAt_self v hpath hclear,
      fun ks habove hbelow => walk_insertAt_beside v hpath hclear hbelow habove⟩

/-- A document with an empty key inside. -/
def customer : Document :=
  [("name", .string "Ada"),
    ("address", .object [("", .object [("zip", .integer 7)]), ("city", .string "Rome")])]

theorem clear_customer : customer.Clear ["address", "", "street"] := by
  intro front hfront hne j hj
  -- Three fronts are shorter than the path, and each of them leads to an object.
  have hfronts : front ∈ [[], ["address"], ["address", ""], ["address", "", "street"]] :=
    (List.mem_inits front _).mpr hfront
  simp only [List.mem_cons, List.not_mem_nil, or_false, hne] at hfronts
  rcases hfronts with rfl | rfl | rfl
  · exact ⟨_, (Option.some.inj hj).symm⟩
  · exact ⟨_, (Option.some.inj hj).symm⟩
  · exact ⟨_, (Option.some.inj hj).symm⟩

theorem paths_are_walks_customer :
    customer.find? "address..zip" = some (.integer 7) ∧
    Document.find? [("a", .object [("b", .null)]), ("a.b", .bool true)] "a.b" =
      some (.bool true) ∧
    (Json.object (insertAt (.string "Via Appia") (segments "address..street") customer)).walk
      ["address", "", "street"] = some (.string "Via Appia") ∧
    (Json.object (insertAt (.string "Via Appia") (segments "address..street") customer)).walk
      ["address", "city"] = some (.string "Rome") := by
  obtain ⟨hfind, hwhole, hinsert⟩ := paths_are_walks
  have hpath : segments "address..street" = ["address", "", "street"] := by decide
  have hclear : customer.Clear (segments "address..street") := hpath ▸ clear_customer
  obtain ⟨hself, hbeside⟩ := hinsert customer "address..street" (.string "Via Appia") hclear
  refine ⟨?_, hwhole _ _ _ rfl, ?_, ?_⟩
  · exact hfind customer ["address", "", "zip"] (by decide) (by decide) (by decide)
  · rwa [hpath] at hself ⊢
  · rw [hbeside ["address", "city"] (by rw [hpath]; decide) (by rw [hpath]; decide)]
    rfl

end Document

end FacetedSearch
