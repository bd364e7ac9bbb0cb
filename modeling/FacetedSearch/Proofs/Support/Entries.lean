import FacetedSearch.Entries
import FacetedSearch.Proofs.Support.Traversal

/-!
# `FacetedSearch.Proofs.Support.Entries`: the keys of a map that is written to

Writing an entry adds its key if it is new, and no key is ever repeated
(`keys_put`, `nodup_keys_put`). A map whose keys are all different is
built from its entries as it is (`collect_eq_self`).

What is found after writing or removing an entry, or after changing every
value, is said for every key at once (`lookup_put`, `lookup_erase`,
`lookup_map`). Writing what is there already and removing what is not there
change nothing (`put_of_lookup`, `erase_of_lookup`).
-/

set_option autoImplicit false

namespace FacetedSearch.Entries

variable {α : Type} {k : String} {es : Entries α}

theorem keys_put (k : String) (v : α) (es : Entries α) :
    keys (put k v es) = if k ∈ keys es then keys es else keys es ++ [k] := by
  induction es with
  | nil => simp [put, keys]
  | cons e rest ih =>
      obtain ⟨k', v'⟩ := e
      by_cases hk : k = k'
      · simp [put, keys, hk]
      · have hput : keys (put k v ((k', v') :: rest)) = k' :: keys (put k v rest) := by
          rw [put, if_neg hk]
          rfl
        have hmem : k ∈ keys ((k', v') :: rest) ↔ k ∈ keys rest := by simp [keys, hk]
        rw [hput, ih]
        simp only [hmem]
        split <;> rfl

theorem nodup_keys_put (v : α) (h : (keys es).Nodup) : (keys (put k v es)).Nodup := by
  rw [keys_put]
  split
  · exact h
  · rename_i hk
    refine List.nodup_append.mpr ⟨h, by simp, fun a ha b hb => ?_⟩
    rw [List.mem_singleton.mp hb]
    exact fun hak => hk (hak ▸ ha)

/-- A map without repeated keys is collected as it is. -/
theorem collect_eq_self (h : (keys es).Nodup) : collect es = es := by
  -- What has been collected comes first, and shares no key with the rest.
  suffices hfold : ∀ out : Entries α, (keys (out ++ es)).Nodup →
      es.foldl (fun out e => put e.1 e.2 out) out = out ++ es from hfold [] h
  clear h
  induction es with
  | nil => intro out _; simp
  | cons e rest ih =>
      intro out hout
      obtain ⟨k, v⟩ := e
      have hk : k ∉ keys out := by
        intro hk
        simp only [keys, List.map_append, List.map_cons, List.nodup_append] at hout hk
        exact hout.2.2 k hk k List.mem_cons_self rfl
      rw [List.foldl_cons, put_of_notMem v hk, ih _ (by simpa using hout), List.append_assoc]
      rfl

/-! ### What is found -/

theorem lookup_put (k k' : String) (v : α) (es : Entries α) :
    (put k v es).lookup k' = if k' = k then some v else es.lookup k' := by
  split
  · rename_i hk
    rw [hk, lookup_put_self]
  · rename_i hk
    exact lookup_put_of_ne hk v es

theorem lookup_erase (k k' : String) (es : Entries α) :
    (erase k es).lookup k' = if k' = k then none else es.lookup k' := by
  induction es with
  | nil => simp [erase]
  | cons e rest ih =>
      obtain ⟨k'', v⟩ := e
      by_cases hk : k'' = k
      · -- The entry is removed, and only the key removed is not found any more.
        have herase : erase k ((k'', v) :: rest) = erase k rest := by simp [erase, hk]
        rw [herase, ih]
        refine ite_congr rfl (fun _ => rfl) fun hk' => ?_
        have hb : (k' == k'') = false := beq_eq_false_iff_ne.mpr (hk ▸ hk')
        rw [List.lookup_cons, hb]
      · have herase : erase k ((k'', v) :: rest) = (k'', v) :: erase k rest := by
          simp [erase, hk]
        rw [herase, List.lookup_cons, List.lookup_cons, ih]
        by_cases hk' : k' = k''
        · subst hk'
          simp [hk]
        · have hb : (k' == k'') = false := beq_eq_false_iff_ne.mpr hk'
          rw [hb]

/-- What is found after changing every value is the changed value. -/
theorem lookup_map {β : Type} (f : α → β) (k : String) (es : Entries α) :
    (es.map fun e => (e.1, f e.2)).lookup k = (es.lookup k).map f := by
  induction es with
  | nil => rfl
  | cons e rest ih =>
      rw [List.map_cons, List.lookup_cons, List.lookup_cons, ih]
      split <;> rfl

/-- To write the value that a key has changes nothing. -/
theorem put_of_lookup {v : α} (h : es.lookup k = some v) : put k v es = es := by
  induction es with
  | nil => cases h
  | cons e rest ih =>
      obtain ⟨k', v'⟩ := e
      rw [List.lookup_cons] at h
      by_cases hk : k = k'
      · simp_all [put]
      · have hb : (k == k') = false := beq_eq_false_iff_ne.mpr hk
        rw [hb] at h
        rw [put, if_neg hk, ih h]

/-- To remove a key that is not there changes nothing. -/
theorem erase_of_lookup (h : es.lookup k = none) : erase k es = es := by
  refine List.filter_eq_self.mpr fun e he => ?_
  rw [decide_eq_true_iff]
  exact lookup_eq_none_iff.mp h e he

end FacetedSearch.Entries
