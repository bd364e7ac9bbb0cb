import FacetedSearch.Document.Tally
import FacetedSearch.Proofs.Support.Entries
import Mathlib.Data.List.Induction

/-!
# `FacetedSearch.Proofs.Document.Tally`: what a tally has counted

A tally is built scalar by scalar. `lookup_count` says all that one of
these steps does; the invariant `Tally.Counts` follows from it for a
whole document (`Counts.add`), and for any number of documents
(`counts_ofDocuments`):

* the count under a text is the number of documents that have a scalar
  with that text, however often each of them has it;
* the key of a bucket is a scalar of one of the documents, and has the
  text that the bucket is kept under.

What is answered are the buckets in another order. `count_of_mem_ranked`,
`exists_key_of_mem_ranked` and `countP_ranked` restate the invariant
for them.
-/

set_option autoImplicit false

namespace FacetedSearch

/-- Whether a scalar of a document at a field has the text. -/
def Document.hasText (doc : Document) (field text : String) : Bool :=
  (doc.scalars field).any (·.render = text)

theorem Document.hasText_iff {doc : Document} {field text : String} :
    doc.hasText field text = true ↔ text ∈ (doc.scalars field).map Scalar.render := by
  simp [hasText]

namespace Tally

variable {t : Tally} {field text : String} {docs : List Document} {b : Bucket}

/-- How many documents have been counted for a text. -/
def countOf (t : Tally) (text : String) : Nat := ((t.lookup text).map (·.count)).getD 0

theorem countOf_of_lookup (h : t.lookup text = some b) : t.countOf text = b.count := by
  rw [countOf, h]
  rfl

/-! ### One scalar -/

/-- Counting a scalar writes the bucket of its text, and keeps the key
that a known text has. -/
theorem lookup_count (t : Tally) (v : Scalar) (text : String) :
    (t.count v).lookup text =
      if text = v.render then
        some ⟨((t.lookup text).map (·.key)).getD v, t.countOf text + 1⟩
      else t.lookup text := by
  rw [count]
  split
  · rename_i htext
    rw [htext, Entries.lookup_put_self, countOf]
    cases t.lookup v.render <;> rfl
  · rename_i htext
    exact Entries.lookup_put_of_ne htext _ t

theorem countOf_count (t : Tally) (v : Scalar) (text : String) :
    (t.count v).countOf text = t.countOf text + if text = v.render then 1 else 0 := by
  rw [countOf, lookup_count]
  split <;> rfl

theorem nodup_keys_count (v : Scalar) (h : (Entries.keys t).Nodup) :
    (Entries.keys (t.count v)).Nodup :=
  Entries.nodup_keys_put _ h

/-- What is true of the keys, and of a scalar that is counted, stays true
of the keys. -/
theorem forall_key_count {P : String → Scalar → Prop} {v : Scalar}
    (ht : ∀ text b, t.lookup text = some b → P text b.key) (hv : P v.render v) :
    ∀ text b, (t.count v).lookup text = some b → P text b.key := by
  intro text b hb
  rw [lookup_count] at hb
  split at hb
  · rename_i htext
    obtain rfl := Option.some.inj hb
    cases hlookup : t.lookup text with
    | none => exact htext ▸ hv
    | some b => exact ht text b hlookup
  · exact ht text b hb

/-! ### Several scalars -/

theorem countOf_foldl_count (t : Tally) (vs : List Scalar) (text : String) :
    (vs.foldl count t).countOf text = t.countOf text + (vs.map Scalar.render).count text := by
  induction vs generalizing t with
  | nil => rfl
  | cons v vs ih =>
      rw [List.foldl_cons, ih, countOf_count, List.map_cons, List.count_cons]
      simp only [beq_iff_eq, eq_comm (a := text)]
      omega

theorem nodup_keys_foldl_count (vs : List Scalar) (h : (Entries.keys t).Nodup) :
    (Entries.keys (vs.foldl count t)).Nodup := by
  induction vs generalizing t with
  | nil => exact h
  | cons v vs ih => exact ih (nodup_keys_count v h)

theorem forall_key_foldl_count {P : String → Scalar → Prop} {vs : List Scalar}
    (ht : ∀ text b, t.lookup text = some b → P text b.key) (hvs : ∀ v ∈ vs, P v.render v) :
    ∀ text b, (vs.foldl count t).lookup text = some b → P text b.key := by
  induction vs generalizing t with
  | nil => exact ht
  | cons v vs ih =>
      rw [List.forall_mem_cons] at hvs
      exact ih (forall_key_count ht hvs.1) hvs.2

/-! ### One document -/

/-- A document counts once for each of its texts. -/
theorem countOf_add (t : Tally) (doc : Document) (text : String) :
    (t.add field doc).countOf text =
      t.countOf text + if doc.hasText field text = true then 1 else 0 := by
  -- Repetitions were left out before, so a text is counted once or not at all.
  rw [add, countOf_foldl_count, (nodup_map_distinctBy Scalar.render _).count]
  simp only [mem_map_distinctBy, Document.hasText_iff]

/-- The scalar has the text, and is one that a document has at the field. -/
def IsKey (field : String) (docs : List Document) (text : String) (v : Scalar) : Prop :=
  v.render = text ∧ ∃ doc ∈ docs, v ∈ doc.scalars field

/-- The tally of a field over documents. -/
structure Counts (field : String) (docs : List Document) (t : Tally) : Prop where
  nodup_keys : (Entries.keys t).Nodup
  /-- The count under a text is the number of documents that have it. -/
  countOf_eq : ∀ text, t.countOf text = docs.countP (·.hasText field text)
  isKey : ∀ text b, t.lookup text = some b → IsKey field docs text b.key

theorem counts_nil (field : String) : Counts field [] [] where
  nodup_keys := List.nodup_nil
  countOf_eq _ := rfl
  isKey _ _ h := by cases h

/-- The tally of one document more. -/
theorem Counts.add (h : Counts field docs t) (doc : Document) :
    Counts field (docs ++ [doc]) (t.add field doc) where
  nodup_keys := nodup_keys_foldl_count _ h.nodup_keys
  countOf_eq text := by
    rw [countOf_add, h.countOf_eq, List.countP_append, List.countP_singleton]
  isKey := by
    -- A key is an old one, or a scalar of the new document.
    refine forall_key_foldl_count (fun text b hb => ?_) fun v hv => ?_
    · obtain ⟨htext, doc', hdoc, hkey⟩ := h.isKey text b hb
      exact ⟨htext, doc', List.mem_append_left _ hdoc, hkey⟩
    · exact ⟨rfl, doc, by simp, mem_of_mem_distinctBy hv⟩

/-! ### All documents -/

theorem counts_ofDocuments (field : String) (docs : List Document) :
    Counts field docs (ofDocuments field docs) := by
  -- The document that is counted last is the last one.
  induction docs using List.reverseRecOn with
  | nil => exact counts_nil field
  | append_singleton docs doc ih =>
      rw [ofDocuments, List.foldl_append]
      exact ih.add doc

/-- A text is kept when some document has it. -/
theorem mem_keys_ofDocuments {doc : Document} (hdoc : doc ∈ docs)
    (htext : doc.hasText field text = true) : text ∈ Entries.keys (ofDocuments field docs) := by
  -- A text that is not kept would have been counted for no document.
  have hpos : 0 < (ofDocuments field docs).countOf text := by
    rw [(counts_ofDocuments field docs).countOf_eq, List.countP_pos_iff]
    exact ⟨doc, hdoc, htext⟩
  by_contra hkey
  have hnone : (ofDocuments field docs).lookup text = none :=
    Entries.lookup_eq_none_iff.mpr fun e he h => hkey (List.mem_map.mpr ⟨e, he, h⟩)
  rw [countOf, hnone] at hpos
  exact absurd hpos (Nat.lt_irrefl 0)

/-! ### The answered buckets -/

theorem ranked_perm (t : Tally) : t.ranked.Perm (t.map (·.2)) :=
  (List.mergeSort_perm t precedes).map _

/-- Every bucket is answered once. -/
theorem exists_lookup_of_mem_ranked (h : b ∈ (ofDocuments field docs).ranked) :
    ∃ text, (ofDocuments field docs).lookup text = some b := by
  obtain ⟨⟨text, b'⟩, hmem, rfl⟩ := List.mem_map.mp ((ranked_perm _).mem_iff.mp h)
  exact ⟨text, (Entries.lookup_eq_some_iff (counts_ofDocuments field docs).nodup_keys).mpr hmem⟩

/-- The key of a bucket is a scalar of one of the documents. -/
theorem exists_key_of_mem_ranked (h : b ∈ (ofDocuments field docs).ranked) :
    ∃ doc ∈ docs, b.key ∈ doc.scalars field := by
  obtain ⟨text, hlookup⟩ := exists_lookup_of_mem_ranked h
  exact ((counts_ofDocuments field docs).isKey text b hlookup).2

/-- The count of a bucket is the number of documents that have the text
of its key. -/
theorem count_of_mem_ranked (h : b ∈ (ofDocuments field docs).ranked) :
    b.count = docs.countP (·.hasText field b.key.render) := by
  obtain ⟨text, hlookup⟩ := exists_lookup_of_mem_ranked h
  have hcounts := counts_ofDocuments field docs
  rw [(hcounts.isKey text b hlookup).1, ← hcounts.countOf_eq, countOf_of_lookup hlookup]

/-- A bucket is kept under the text of its key. -/
theorem render_key_of_mem {e : String × Bucket} (h : e ∈ ofDocuments field docs) :
    e.2.key.render = e.1 := by
  have hcounts := counts_ofDocuments field docs
  exact (hcounts.isKey e.1 e.2 ((Entries.lookup_eq_some_iff hcounts.nodup_keys).mpr h)).1

/-- The texts of the answered keys are the texts that buckets are kept
under. -/
theorem map_render_ranked_perm (field : String) (docs : List Document) :
    ((ofDocuments field docs).ranked.map (·.key.render)).Perm
      (Entries.keys (ofDocuments field docs)) := by
  refine ((ranked_perm _).map _).trans (.of_eq ?_)
  rw [Entries.keys, List.map_map]
  exact List.map_congr_left fun e he => render_key_of_mem he

/-- Every scalar of a document has the text of exactly one answered key. -/
theorem countP_ranked {doc : Document} {v : Scalar} (hdoc : doc ∈ docs)
    (hv : v ∈ doc.scalars field) :
    (ofDocuments field docs).ranked.countP (v.render = ·.key.render) = 1 := by
  have hmem : v.render ∈ Entries.keys (ofDocuments field docs) :=
    mem_keys_ofDocuments hdoc (Document.hasText_iff.mpr (List.mem_map_of_mem hv))
  have hcount : ((ofDocuments field docs).ranked.map (·.key.render)).count v.render = 1 := by
    rw [(map_render_ranked_perm field docs).count_eq]
    rw [(counts_ofDocuments field docs).nodup_keys.count, if_pos hmem]
  rw [← hcount, List.count, List.countP_map]
  refine List.countP_congr fun b _ => ?_
  rw [Function.comp_apply, beq_iff_eq, decide_eq_true_iff, eq_comm]

end Tally

end FacetedSearch
