import FacetedSearch.Proofs.Document.Ranking
import Mathlib

/-!
# `FacetedSearch.Proofs.Document.Buckets`: the buckets of an aggregation

A tally has one bucket for each text that a scalar of the documents has at
the field (`Tally.texts`), and the texts of its keys differ. So the order of
the buckets, by falling count and then by rising text, is strict
(`Tally.pairwise_ranked`). There is one list of buckets in this order,
however the tally is enumerated (`Tally.ranked_congr`).

`Aggregation.answer_exact` says all that is answered: which buckets there
are, what each of them counts, how they are ordered and how many of them
are returned.
-/

set_option autoImplicit false

namespace FacetedSearch

namespace Tally

variable {field text : String} {docs : List Document} {t : Tally}

/-- The texts that scalars of the documents have at the field. -/
def texts (field : String) (docs : List Document) : Finset String :=
  (docs.flatMap fun doc => (doc.scalars field).map Scalar.render).toFinset

theorem mem_texts_iff : text ∈ texts field docs ↔ ∃ doc ∈ docs, doc.hasText field text = true := by
  rw [texts, List.mem_toFinset, List.mem_flatMap]
  simp only [Document.hasText_iff]

/-! ### One bucket for each text -/

theorem nodup_render_ranked (field : String) (docs : List Document) :
    ((ofDocuments field docs).ranked.map (·.key.render)).Nodup :=
  (map_render_ranked_perm field docs).nodup_iff.mpr (counts_ofDocuments field docs).nodup_keys

theorem toFinset_render_ranked (field : String) (docs : List Document) :
    ((ofDocuments field docs).ranked.map (·.key.render)).toFinset = texts field docs := by
  ext text
  rw [List.mem_toFinset, (map_render_ranked_perm field docs).mem_iff, mem_keys_ofDocuments_iff,
    mem_texts_iff]

theorem length_ranked (field : String) (docs : List Document) :
    (ofDocuments field docs).ranked.length = (texts field docs).card := by
  rw [← toFinset_render_ranked, List.toFinset_card_of_nodup (nodup_render_ranked field docs),
    List.length_map]

/-- A bucket counts a document, and no more than there are. -/
theorem count_bounds {b : Bucket} (hb : b ∈ (ofDocuments field docs).ranked) :
    1 ≤ b.count ∧ b.count ≤ docs.length := by
  obtain ⟨doc, hdoc, hkey⟩ := exists_key_of_mem_ranked hb
  rw [count_of_mem_ranked hb]
  refine ⟨List.countP_pos_iff.mpr ⟨doc, hdoc, ?_⟩, List.countP_le_length⟩
  exact Document.hasText_iff.mpr (List.mem_map_of_mem hkey)

/-! ### The order of the buckets -/

/-- No two buckets could change places. -/
theorem pairwise_ranked (field : String) (docs : List Document) :
    (ofDocuments field docs).ranked.Pairwise fun b b' =>
      b'.count < b.count ∨ (b.count = b'.count ∧ b.key.render < b'.key.render) := by
  have hsorted : ((ofDocuments field docs).ranked.map Bucket.shown).Pairwise fun x y =>
      x.precedes y = true := by
    rw [shown_ranked (.refl _)]
    exact List.pairwise_mergeSort FacetValue.precedes_trans FacetValue.precedes_total _
  rw [List.pairwise_map] at hsorted
  have hdistinct := nodup_render_ranked field docs
  rw [List.Nodup, List.pairwise_map] at hdistinct
  refine hsorted.imp₂ (fun b b' hle hne => ?_) hdistinct
  refine (FacetValue.precedes_iff.mp hle).imp id fun h => ⟨h.1, ?_⟩
  exact String.not_le.mp fun hle' => hne (String.le_antisymm h.2 hle')

/-- What an entry is ranked by, its text and its count. -/
def value (e : String × Bucket) : FacetValue := ⟨e.1, e.2.count⟩

/-- Entries of one tally are answered in one order, whichever they are given in. -/
theorem ranked_congr (h : t.Perm (ofDocuments field docs)) :
    t.ranked = (ofDocuments field docs).ranked := by
  have htrans (e e' e'' : String × Bucket) : precedes e e' = true → precedes e' e'' = true →
      precedes e e'' = true := FacetValue.precedes_trans (value e) (value e') (value e'')
  have htotal (e e' : String × Bucket) : (precedes e e' || precedes e' e) = true :=
    FacetValue.precedes_total (value e) (value e')
  rw [ranked, ranked, mergeSort_eq_of_perm htrans htotal ?_ h]
  intro e he e' he' hle hle'
  -- Entries with one text are one entry.
  have htext : e.1 = e'.1 :=
    congrArg FacetValue.value (FacetValue.precedes_antisymm (value e) (value e') hle hle')
  exact List.inj_on_of_nodup_map (counts_ofDocuments field docs).nodup_keys (h.mem_iff.mp he)
    (h.mem_iff.mp he') htext

end Tally

namespace Aggregation

/-- **What an aggregation answers.** Before it is cut to its size there is one
bucket for each text that the scalars at the field have. A bucket counts
the documents with such a scalar, each once; that is one at least, and no
more than there are. The buckets are ordered by falling count, those of
one count by rising text, and no two of them alike. The answer is the
beginning of this list, of ten buckets if no size is given, or the whole
list if it is shorter. The order in which the tally is enumerated does not
matter. -/
theorem answer_exact (docs : List Document) (a : Aggregation) :
    let buckets := (Tally.ofDocuments a.field docs).ranked
    let size := (a.size.map (·.toNat)).getD 10
    ((buckets.map (·.key.render)).Nodup ∧
      (buckets.map (·.key.render)).toFinset = Tally.texts a.field docs) ∧
    (∀ b ∈ buckets, b.count = docs.countP (·.hasText a.field b.key.render) ∧
      1 ≤ b.count ∧ b.count ≤ docs.length) ∧
    (buckets.Pairwise fun b b' =>
      b'.count < b.count ∨ (b.count = b'.count ∧ b.key.render < b'.key.render)) ∧
    (∃ answered, a.answer docs = .terms answered ∧ answered <+: buckets ∧
      answered.length = min size (Tally.texts a.field docs).card) ∧
    ∀ t : Tally, t.Perm (Tally.ofDocuments a.field docs) → t.ranked = buckets := by
  intro buckets size
  refine ⟨⟨Tally.nodup_render_ranked a.field docs, Tally.toFinset_render_ranked a.field docs⟩,
    fun b hb => ⟨Tally.count_of_mem_ranked hb, Tally.count_bounds hb⟩,
    Tally.pairwise_ranked a.field docs, ⟨buckets.take size, rfl, List.take_prefix _ _, ?_⟩,
    fun t ht => Tally.ranked_congr ht⟩
  rw [List.length_take, Tally.length_ranked]

/-- Posts with tags: one repeats a tag, and one has a number and the text of it. -/
def posts : List Document :=
  [[("tags", .array [.string "rust", .string "rust", .null, .integer 1])],
    [("tags", .array [.string "async", .object [], .string "1", .integer 1])],
    [("tags", .string "rust")],
    [("title", .string "untagged")]]

/-- Three texts are counted, two of them in two posts each, and two are answered. -/
theorem answer_exact_posts :
    (Tally.ofDocuments "tags" posts).ranked =
      [⟨.integer 1, 2⟩, ⟨.text "rust", 2⟩, ⟨.text "async", 1⟩] ∧
    2 = posts.countP (·.hasText "tags" "rust") ∧
    (∃ answered, (Aggregation.mk "tags_agg" "tags" (some 2)).answer posts = .terms answered ∧
      answered <+: (Tally.ofDocuments "tags" posts).ranked ∧
      answered.length = min 2 (Tally.texts "tags" posts).card) ∧
    Tally.ranked (Tally.ofDocuments "tags" posts).reverse =
      (Tally.ofDocuments "tags" posts).ranked := by
  have hbuckets : (Tally.ofDocuments "tags" posts).ranked =
      [⟨.integer 1, 2⟩, ⟨.text "rust", 2⟩, ⟨.text "async", 1⟩] := by
    cbv
  obtain ⟨-, hcount, -, hanswer, hranked⟩ := answer_exact posts ⟨"tags_agg", "tags", some 2⟩
  have hrust := hcount ⟨.text "rust", 2⟩ (by rw [hbuckets]; simp)
  exact ⟨hbuckets, hrust.1, hanswer, hranked _ (List.reverse_perm _)⟩

end Aggregation

end FacetedSearch
