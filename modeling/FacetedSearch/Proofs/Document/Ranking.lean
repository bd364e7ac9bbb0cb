import FacetedSearch.Proofs.Document.Tally
import FacetedSearch.Results

/-!
# `FacetedSearch.Proofs.Document.Ranking`: the order in which values are shown

Of a bucket a facet shows the text of the key and the count
(`Bucket.shown`). Values are shown by falling count, and by rising text
where the counts are equal. The texts of a tally differ, so of two values
one always comes first: `FacetValue.precedes` is a linear order.

A linear order sorts a list in one way only. What is shown therefore does
not depend on how a tally is enumerated, nor on the order in which the
documents were counted, nor on which of several scalars with one text was
met first and became the key (`shown_ranked_congr`).
-/

set_option autoImplicit false

namespace FacetedSearch

/-- If only equal items of a list tie, it is sorted to what its rearrangements
are sorted to. -/
theorem mergeSort_eq_of_perm {α : Type} {le : α → α → Bool} {as bs : List α}
    (trans : ∀ a b c, le a b = true → le b c = true → le a c = true)
    (total : ∀ a b, (le a b || le b a) = true)
    (antisymm : ∀ a ∈ as, ∀ b ∈ as, le a b = true → le b a = true → a = b)
    (hperm : as.Perm bs) : as.mergeSort le = bs.mergeSort le := by
  have hsorted : (as.mergeSort le).Perm (bs.mergeSort le) :=
    ((List.mergeSort_perm as le).trans hperm).trans (List.mergeSort_perm bs le).symm
  refine hsorted.eq_of_pairwise (fun a b ha hb => ?_) (List.pairwise_mergeSort trans total as)
    (List.pairwise_mergeSort trans total bs)
  exact antisymm a (List.mem_mergeSort.mp ha) b (hperm.mem_iff.mpr (List.mem_mergeSort.mp hb))

/-- What a facet shows of a bucket. -/
def Bucket.shown (b : Bucket) : FacetValue := ⟨b.key.render, b.count⟩

namespace FacetValue

/-- Whether a value is shown no later than another one. -/
def precedes (a b : FacetValue) : Bool :=
  b.count < a.count || (a.count = b.count && a.value ≤ b.value)

theorem precedes_iff {a b : FacetValue} :
    a.precedes b = true ↔ b.count < a.count ∨ (a.count = b.count ∧ a.value ≤ b.value) := by
  simp [precedes]

theorem precedes_total (a b : FacetValue) : (a.precedes b || b.precedes a) = true := by
  rw [Bool.or_eq_true, precedes_iff, precedes_iff]
  -- Where the counts are equal, the texts decide.
  rcases Nat.lt_trichotomy a.count b.count with hlt | heq | hgt
  · exact .inr (.inl hlt)
  · exact (String.le_total a.value b.value).imp (fun h => .inr ⟨heq, h⟩)
      fun h => .inr ⟨heq.symm, h⟩
  · exact .inl (.inl hgt)

theorem precedes_trans (a b c : FacetValue) (hab : a.precedes b = true)
    (hbc : b.precedes c = true) : a.precedes c = true := by
  rw [precedes_iff] at hab hbc ⊢
  rcases hab with hab | ⟨hab, hvalue⟩ <;> rcases hbc with hbc | ⟨hbc, hvalue'⟩
  · exact .inl (by omega)
  · exact .inl (by omega)
  · exact .inl (by omega)
  · exact .inr ⟨by omega, String.le_trans hvalue hvalue'⟩

theorem precedes_antisymm (a b : FacetValue) (hab : a.precedes b = true)
    (hba : b.precedes a = true) : a = b := by
  rw [precedes_iff] at hab hba
  rcases hab with hab | ⟨hcount, hab⟩ <;> rcases hba with hba | ⟨hcount', hba⟩
  · omega
  · omega
  · omega
  · cases a
    cases b
    exact FacetValue.mk.injEq .. |>.mpr ⟨String.le_antisymm hab hba, hcount⟩

/-- Values that are given in any order are sorted to one list. -/
theorem mergeSort_congr {vs vs' : List FacetValue} (h : vs.Perm vs') :
    vs.mergeSort precedes = vs'.mergeSort precedes :=
  mergeSort_eq_of_perm precedes_trans precedes_total (fun a _ b _ => precedes_antisymm a b) h

end FacetValue

/-! ### The values of a field -/

namespace Tally

variable {field : String} {docs docs' : List Document} {t t' : Tally}

/-- A text is kept exactly when some document has it. -/
theorem mem_keys_ofDocuments_iff {text : String} :
    text ∈ Entries.keys (ofDocuments field docs) ↔
      ∃ doc ∈ docs, doc.hasText field text = true := by
  constructor
  · intro htext
    obtain ⟨⟨text, b⟩, he, rfl⟩ := List.mem_map.mp htext
    have hcounts := counts_ofDocuments field docs
    -- The key of the bucket is a scalar of a document, and has this text.
    obtain ⟨hrender, doc, hdoc, hkey⟩ :=
      hcounts.isKey text b ((Entries.lookup_eq_some_iff hcounts.nodup_keys).mpr he)
    exact ⟨doc, hdoc, Document.hasText_iff.mpr (hrender ▸ List.mem_map_of_mem hkey)⟩
  · intro ⟨doc, hdoc, htext⟩
    exact mem_keys_ofDocuments hdoc htext

/-- The values that a field has in documents, in the order of their first
mention, with the number of documents that have each of them. -/
def values (field : String) (docs : List Document) : List FacetValue :=
  (Entries.keys (ofDocuments field docs)).map fun text =>
    ⟨text, docs.countP (·.hasText field text)⟩

/-- The buckets of a tally show these values. -/
theorem map_shown_ofDocuments (field : String) (docs : List Document) :
    (ofDocuments field docs).map (·.2.shown) = values field docs := by
  rw [values, Entries.keys, List.map_map]
  refine List.map_congr_left fun e he => ?_
  have hcounts := counts_ofDocuments field docs
  have hlookup := (Entries.lookup_eq_some_iff hcounts.nodup_keys).mpr he
  show e.2.shown = ⟨e.1, docs.countP (·.hasText field e.1)⟩
  rw [Bucket.shown, render_key_of_mem he, ← hcounts.countOf_eq, countOf_of_lookup hlookup]

/-- A tally shows its values in order, however it is enumerated. -/
theorem shown_ranked (ht : t.Perm (ofDocuments field docs)) :
    t.ranked.map Bucket.shown = (values field docs).mergeSort FacetValue.precedes := by
  -- Every entry is kept under the text that its bucket shows, so sorting the
  -- entries sorts what they show.
  have hentry (e : String × Bucket) (he : e ∈ t) : e.1 = e.2.shown.value :=
    (render_key_of_mem (ht.mem_iff.mp he)).symm
  have hprecedes : ∀ e ∈ t, ∀ e' ∈ t, precedes e e' = e.2.shown.precedes e'.2.shown := by
    intro e he e' he'
    rw [precedes, FacetValue.precedes, hentry e he, hentry e' he']
    rfl
  rw [ranked, List.map_map]
  calc (t.mergeSort precedes).map (fun e => e.2.shown)
      = (t.map fun e => e.2.shown).mergeSort FacetValue.precedes := List.map_mergeSort hprecedes
    _ = (values field docs).mergeSort FacetValue.precedes := by
      rw [← map_shown_ofDocuments]
      exact FacetValue.mergeSort_congr (ht.map _)

end Tally

end FacetedSearch
