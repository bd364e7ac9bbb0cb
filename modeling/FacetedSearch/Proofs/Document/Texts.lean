import FacetedSearch.Proofs.Filter.Entries
import FacetedSearch.Proofs.Store.Search
import FacetedSearch.Proofs.Text.Wildcard
import FacetedSearch.Request.Basic

/-!
# `FacetedSearch.Proofs.Document.Texts`: where full text search looks

A text condition on a field looks at the leaves of the field, one on a
pattern at everything inside the fields that match. These are two ways
through a document. They have in common that they end at strings which
are in the document (`Json.Holds`), and the pattern `*` leaves out none of
those (`mem_texts_star_iff`).

So searching all fields finds what searching one field finds, whatever
path or pattern the field is named by (`selects_text_star`). Criteria that
consist of a free text compile to one such condition or to alternatives of
them, and `Criteria.hits_subperm_everywhere` is the main statement about
them.
-/

set_option autoImplicit false

namespace FacetedSearch

/-! ### Strings in values -/

namespace Json

/-- The string is in the value, at any depth of arrays and objects. -/
inductive Holds (s : String) : Json → Prop where
  | here : Holds s (.string s)
  | item {items : List Json} {j : Json} (mem : j ∈ items) (inside : Holds s j) :
      Holds s (.array items)
  | member {members : List (String × Json)} {m : String × Json} (mem : m ∈ members)
      (inside : Holds s m.2) : Holds s (.object members)

variable {s : String} {j v : Json}

/-- The strings that are collected are those that the value holds. -/
theorem mem_texts_iff : s ∈ j.texts ↔ j.Holds s := by
  induction j using Json.induction with
  | string t =>
      rw [texts, List.mem_singleton]
      constructor
      · rintro rfl
        exact .here
      · rintro ⟨⟩
        rfl
  | array items ih =>
      rw [texts, textsOfItems_eq_flatMap, List.mem_flatMap]
      constructor
      · rintro ⟨j, hj, hs⟩
        exact .item hj ((ih j hj).mp hs)
      · intro h
        cases h with
        | item hj hs => exact ⟨_, hj, (ih _ hj).mpr hs⟩
  | object members ih =>
      rw [texts, textsOfMembers_eq_flatMap, List.mem_flatMap]
      constructor
      · rintro ⟨m, hm, hs⟩
        exact .member hm ((ih m hm).mp hs)
      · intro h
        cases h with
        | member hm hs => exact ⟨_, hm, (ih _ hm).mpr hs⟩
  | _ => exact iff_of_false List.not_mem_nil nofun

theorem holds_object_iff {members : Entries Json} :
    (Json.object members).Holds s ↔ ∃ m ∈ members, m.2.Holds s := by
  constructor
  · intro h
    cases h with
    | member hm hs => exact ⟨_, hm, hs⟩
  · rintro ⟨m, hm, hs⟩
    exact .member hm hs

/-- A value holds what is held by the member under a key. -/
theorem Holds.of_get? {key : String} (hv : j.get? key = some v) (hs : v.Holds s) : j.Holds s := by
  cases j with
  | object members =>
      obtain ⟨before, after, rfl, -⟩ := List.lookup_eq_some_iff.mp hv
      exact .member (List.mem_append_right before List.mem_cons_self) hs
  | _ => cases hv

/-- A value holds what is held wherever keys lead from it. -/
theorem Holds.of_walk {ks : List String} (hv : j.walk ks = some v) (hs : v.Holds s) :
    j.Holds s := by
  induction ks generalizing j with
  | nil =>
      obtain rfl := Option.some.inj hv
      exact hs
  | cons key ks ih =>
      obtain ⟨child, hchild, hv⟩ := Option.bind_eq_some_iff.mp hv
      exact .of_get? hchild (ih hv)

end Json

/-! ### Strings in documents -/

namespace Document

variable {doc : Document} {field s : String}

/-- A document holds what its fields hold, whether a field is found under
its whole path or by following the path. -/
theorem holds_of_find? {v : Json} (hv : doc.find? field = some v) (hs : v.Holds s) :
    (Json.object doc).Holds s := by
  rw [find?] at hv
  cases hlookup : doc.lookup field with
  | some w =>
      rw [hlookup] at hv
      obtain rfl := Option.some.inj hv
      exact .of_get? hlookup hs
  | none =>
      rw [hlookup] at hv
      exact .of_walk hv hs

theorem holds_of_mem_leaves {leaf : Json} (hleaf : leaf ∈ doc.leaves field) (hs : leaf.Holds s) :
    (Json.object doc).Holds s := by
  unfold leaves at hleaf
  split at hleaf
  · exact holds_of_find? ‹_› (.item hleaf hs)
  · obtain rfl := List.mem_singleton.mp hleaf
    exact holds_of_find? ‹_› hs
  · cases hleaf

/-- The strings of a field that is no pattern are its leaves. -/
theorem mem_texts_of_not_isPattern (hfield : Text.isPattern field = false) :
    s ∈ doc.texts field ↔ .string s ∈ doc.leaves field := by
  rw [texts, if_neg (Bool.eq_false_iff.mp hfield), List.mem_filterMap]
  constructor
  · rintro ⟨leaf, hleaf, hs⟩
    cases leaf with
    | string t => exact Option.some.inj hs ▸ hleaf
    | _ => cases hs
  · intro hleaf
    exact ⟨_, hleaf, rfl⟩

/-- The strings of a pattern are what its fields hold. -/
theorem mem_texts_of_isPattern (hfield : Text.isPattern field = true) :
    s ∈ doc.texts field ↔ ∃ m ∈ doc, Text.matchesPattern field m.1 = true ∧ m.2.Holds s := by
  rw [texts, if_pos hfield, List.mem_flatMap]
  simp only [List.mem_filter, Json.mem_texts_iff, and_assoc]

/-- A text condition looks at strings that are in the document, only. -/
theorem holds_of_mem_texts (hs : s ∈ doc.texts field) : (Json.object doc).Holds s := by
  cases hfield : Text.isPattern field with
  | false => exact holds_of_mem_leaves ((mem_texts_of_not_isPattern hfield).mp hs) .here
  | true =>
      obtain ⟨m, hm, -, hs⟩ := (mem_texts_of_isPattern hfield).mp hs
      exact .member hm hs

theorem matchesPattern_star (key : String) : Text.matchesPattern "*" key = true := by
  have hpieces : Text.pieces "*" = [[], []] := by decide
  rw [Text.matchesPattern_iff, hpieces]
  exact ⟨[key.toList], rfl, by simp [Text.filled]⟩

/-- Under the pattern `*` it looks at all of them. -/
theorem mem_texts_star_iff : s ∈ doc.texts "*" ↔ (Json.object doc).Holds s := by
  rw [mem_texts_of_isPattern (by decide), Json.holds_object_iff]
  simp only [matchesPattern_star, true_and]

end Document

/-! ### Text conditions -/

namespace Query

variable {doc : Document} {v : Scalar}

theorem selects_text_star_iff :
    (Query.text "*" v).selects doc = true ↔
      ∃ m ∈ doc, ∃ s, m.2.Holds s ∧ ∃ word ∈ Text.words s, word ∈ Text.words v.render := by
  simp only [selects_text_iff, Document.mem_texts_star_iff, Json.holds_object_iff]
  constructor
  · rintro ⟨s, ⟨m, hm, hs⟩, hword⟩
    exact ⟨m, hm, s, hs, hword⟩
  · rintro ⟨m, hm, s, hs, hword⟩
    exact ⟨s, ⟨m, hm, hs⟩, hword⟩

/-- What a text condition on a field finds is found in all fields. -/
theorem selects_text_star {field : String} (h : (Query.text field v).selects doc = true) :
    (Query.text "*" v).selects doc = true := by
  obtain ⟨s, hs, hword⟩ := selects_text_iff.mp h
  exact selects_text_iff.mpr
    ⟨s, Document.mem_texts_star_iff.mpr (Document.holds_of_mem_texts hs), hword⟩

end Query

namespace Criteria

/-- Free text is found in all fields if it is found in the configured ones. -/
theorem selects_text_star_of_textClause {s : Settings} {text : String} {doc : Document}
    (h : (textClause s text).selects doc = true) :
    (Query.text "*" (.text text)).selects doc = true := by
  unfold textClause at h
  rcases hfields : s.freeTextFields with _ | ⟨field, _ | ⟨other, fields⟩⟩ <;> rw [hfields] at h
  · exact h
  · exact Query.selects_text_star h
  · -- One of the alternatives selects the document, for nothing is required.
    obtain ⟨q, hq, hdoc⟩ := (Query.selects_bool_iff.mp h).2.2 rfl (List.cons_ne_nil _ _)
    obtain ⟨field, -, rfl⟩ := List.mem_map.mp hq
    exact Query.selects_text_star hdoc

/-- Criteria without a filter compile to their free text. -/
theorem compile_of_filter_nil (s : Settings) {c : Criteria} (hfilter : c.filter = []) :
    c.compile s = .ok (.bool (c.textClauses s)) := by
  refine compile_eq_ok_iff.mpr ⟨_, clauses_eq_ok_iff.mpr ⟨{}, ?_, Clauses.empty_append _⟩, rfl⟩
  rw [hfilter]
  rfl

/-- What is found with any settings is found with the standard ones, if
there is no filter. -/
theorem selects_textClauses {s : Settings} {c : Criteria} {doc : Document}
    (h : (Query.bool (c.textClauses s)).selects doc = true) :
    (Query.bool (c.textClauses {})).selects doc = true := by
  unfold textClauses at h ⊢
  cases htext : c.freeText? with
  | none =>
      rw [htext] at h
      exact h
  | some text =>
      rw [htext] at h
      refine (Query.selects_only_must _ doc).trans ?_
      exact selects_text_star_of_textClause ((Query.selects_only_must _ doc).symm.trans h)

/-- **Searching all fields finds whatever searching one field finds.** A
document that a text condition on a field selects, be the field named by a
key or by a path, is selected by the same condition on `*`; and this
selects a document exactly when some string anywhere in its values shares
a word with what is searched for. So without a filter the standard
settings make criteria find every document that they find with any other
fields for free text, and report no smaller total. Both come back when what
they find with the standard settings can be sorted. -/
theorem hits_subperm_everywhere :
    (∀ (doc : Document) (field : String) (v : Scalar),
      (Query.text field v).selects doc = true → (Query.text "*" v).selects doc = true) ∧
    (∀ (doc : Document) (v : Scalar), (Query.text "*" v).selects doc = true ↔
      ∃ m ∈ doc, ∃ s, m.2.Holds s ∧ ∃ word ∈ Text.words s, word ∈ Text.words v.render) ∧
    ∀ (s : Settings) (index : String) (c : Criteria), c.filter = [] →
      ∃ r r', Request.ofCriteria s index c = .ok r ∧ Request.ofCriteria {} index c = .ok r' ∧
        ∀ (sorter : Sorter Stored) (docs : List Stored),
          (∀ found found', Store.hits sorter docs r = some found →
            Store.hits sorter docs r' = some found' →
            found.Subperm found' ∧
            (Store.respond r found).total ≤ (Store.respond r' found').total) ∧
          (¬Store.Straddling docs r' →
            ∃ found found', Store.hits sorter docs r = some found ∧
              Store.hits sorter docs r' = some found') := by
  refine ⟨fun _ _ _ => Query.selects_text_star, fun _ _ => Query.selects_text_star_iff, ?_⟩
  intro s index c hfilter
  have hrequest (s : Settings) : Request.ofCriteria s index c =
      .ok (.assemble s index (.bool (c.textClauses s)) c) :=
    bind_pure_eq_ok_iff.mpr ⟨_, compile_of_filter_nil s hfilter, rfl⟩
  refine ⟨_, _, hrequest s, hrequest {}, fun sorter docs => ⟨?_, fun hstraddling => ?_⟩⟩
  · intro found found' hfound hfound'
    have hselects (d : Stored) (h : (Query.bool (c.textClauses s)).selects d.document = true) :
        (Query.bool (c.textClauses {})).selects d.document = true := selects_textClauses h
    have hfilter := (List.monotone_filter_right docs hselects).subperm
    have hsub := (Store.perm_of_hits hfound).subperm.trans
      (hfilter.trans (Store.perm_of_hits hfound').symm.subperm)
    exact ⟨hsub, hsub.length_le⟩
  · -- What straddles among fewer documents straddles among more.
    have hfewer : ¬Store.Straddling docs (.assemble s index (.bool (c.textClauses s)) c) := by
      rintro ⟨sortBy, hsort, a, b, d, ha, hb, hd, habd⟩
      exact hstraddling ⟨sortBy, hsort, a, b, d, ha.imp_right selects_textClauses,
        hb.imp_right selects_textClauses, hd.imp_right selects_textClauses, habd⟩
    obtain ⟨found, hfound⟩ := Store.exists_hits sorter hfewer
    obtain ⟨found', hfound'⟩ := Store.exists_hits sorter hstraddling
    exact ⟨found, found', hfound, hfound'⟩

/-- Two documents with the same word: one has it in a field that is
searched by its path, the other one in a list inside another field. -/
theorem hits_subperm_everywhere_pasta :
    let c : Criteria := { searchText := some "pasta" }
    let docs : List Stored := [⟨"1", [("meta", .object [("title", .string "Cooking Pasta")])]⟩,
      ⟨"2", [("notes", .array [.object [("by", .string "pasta, again")]])]⟩]
    c.filter = [] ∧ (Query.text "meta.title" (.text "pasta")).selects
        [("meta", .object [("title", .string "Cooking Pasta")])] = true ∧
      ∃ r r', Request.ofCriteria { freeTextFields := ["title", "meta.title"] } "posts" c = .ok r ∧
        Request.ofCriteria {} "posts" c = .ok r' ∧
        ∃ found found', Store.hits .insertion docs r = some found ∧
          Store.hits .insertion docs r' = some found' ∧ found.Subperm found' ∧
          found.map (·.id) = ["1"] ∧ found'.map (·.id) = ["1", "2"] := by
  intro c docs
  obtain ⟨-, -, hcriteria⟩ := hits_subperm_everywhere
  obtain ⟨r, r', hr, hr', hhits⟩ :=
    hcriteria { freeTextFields := ["title", "meta.title"] } "posts" c rfl
  cases hr
  cases hr'
  exact ⟨rfl, by decide +kernel, _, _, rfl, rfl, _, _, rfl, rfl,
    ((hhits .insertion docs).1 _ _ rfl rfl).1, by decide +kernel, by decide +kernel⟩

end Criteria

end FacetedSearch
