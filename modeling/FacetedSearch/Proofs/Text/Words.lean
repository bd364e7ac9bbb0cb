import FacetedSearch.Text.Matching

/-!
# `FacetedSearch.Proofs.Text.Words`: texts as words between separators

A text consists of words and of characters that separate them. `Spells`
says so without a word about cutting: separators may stand anywhere, and a
word goes on until a separator or the end comes. Every text spells one
list of words and no other, and this is what cutting it finds
(`spells_iff_runs_eq`).

A separator between two texts keeps their words apart (`runs_append`), and
since each word is put into lower case by itself, nothing of the one text
has a part in the words of the other (`words_append`).
-/

set_option autoImplicit false

namespace FacetedSearch.Text

variable {cs w : List Char} {ws : List (List Char)}

/-! ### Cutting a text -/

/-- A separator keeps apart what stands before it and after it. -/
theorem runs_append_cons {c : Char} (hc : isAlphanumeric c = false) (xs ys : List Char) :
    runs (xs ++ c :: ys) = runs xs ++ runs ys := by
  rw [runs, List.splitOnP_append_cons xs ys (by rw [hc]; rfl), List.filter_append]
  rfl

theorem runs_cons {c : Char} (hc : isAlphanumeric c = false) (cs : List Char) :
    runs (c :: cs) = runs cs :=
  runs_append_cons hc [] cs

/-- Separators at the start do not matter. -/
theorem runs_separators_append (hw : ∀ c ∈ w, isAlphanumeric c = false) (cs : List Char) :
    runs (w ++ cs) = runs cs := by
  induction w with
  | nil => rfl
  | cons c w ih =>
      rw [List.forall_mem_cons] at hw
      rw [List.cons_append, runs_cons hw.1, ih hw.2]

/-- Separators between two texts keep their words apart. -/
theorem runs_append (hne : w ≠ []) (hw : ∀ c ∈ w, isAlphanumeric c = false)
    (xs ys : List Char) : runs (xs ++ (w ++ ys)) = runs xs ++ runs ys := by
  obtain ⟨c, w, rfl⟩ := List.exists_cons_of_ne_nil hne
  rw [List.forall_mem_cons] at hw
  rw [List.cons_append, runs_append_cons hw.1, runs_separators_append hw.2]

/-- A text without separators is one word. -/
theorem runs_of_alphanumeric (hne : w ≠ []) (hw : ∀ c ∈ w, isAlphanumeric c = true) :
    runs w = [w] := by
  rw [runs, List.splitOnP_eq_singleton fun c hc => by rw [hw c hc]; rfl]
  simp [hne]

/-! ### Spelling words -/

/-- The text has these words, with separators between neighbours and
perhaps before and after them. -/
inductive Spells : List (List Char) → List Char → Prop where
  | nil : Spells [] []
  | separator {ws : List (List Char)} {c : Char} {cs : List Char}
      (separates : isAlphanumeric c = false) (rest : Spells ws cs) : Spells ws (c :: cs)
  | word {ws : List (List Char)} {w cs : List Char} (nonempty : w ≠ [])
      (letters : ∀ c ∈ w, isAlphanumeric c = true)
      (ends : ∀ c ∈ cs.head?, isAlphanumeric c = false) (rest : Spells ws cs) :
      Spells (w :: ws) (w ++ cs)

namespace Spells

/-- Cutting a text finds the words that it spells. -/
theorem runs_eq (h : Spells ws cs) : runs cs = ws := by
  induction h with
  | nil => rfl
  | separator separates _ ih => rw [runs_cons separates, ih]
  | @word ws w cs nonempty letters ends _ ih =>
      cases cs with
      | nil =>
          rw [List.append_nil, runs_of_alphanumeric nonempty letters, ← ih]
          rfl
      | cons c cs =>
          have hc : isAlphanumeric c = false := ends c rfl
          rw [runs_append_cons hc, runs_of_alphanumeric nonempty letters, ← ih, runs_cons hc]
          rfl

/-- Only a text of separators has no words. -/
theorem eq_nil_iff (h : Spells ws cs) : ws = [] ↔ ∀ c ∈ cs, isAlphanumeric c = false := by
  induction h with
  | nil => simp
  | separator separates _ ih => rw [ih, List.forall_mem_cons, and_iff_right separates]
  | @word ws w cs nonempty letters _ _ _ =>
      refine iff_of_false (List.cons_ne_nil _ _) fun h => ?_
      obtain ⟨c, hc⟩ := List.exists_mem_of_ne_nil w nonempty
      have hfalse := h c (List.mem_append_left cs hc)
      rw [letters c hc] at hfalse
      cases hfalse

/-- A character more at the start belongs to the first word or is one. -/
theorem exists_cons (h : Spells ws cs) (c : Char) : ∃ ws', Spells ws' (c :: cs) := by
  cases hc : isAlphanumeric c with
  | false => exact ⟨ws, .separator hc h⟩
  | true =>
      have hword : ∀ d ∈ [c], isAlphanumeric d = true := by simpa using hc
      cases h with
      | nil => exact ⟨[[c]], .word (List.cons_ne_nil _ _) hword (by simp) .nil⟩
      | separator separates rest =>
          exact ⟨_, .word (List.cons_ne_nil _ _) hword (by simpa using separates)
            (.separator separates rest)⟩
      | word _ letters ends rest =>
          exact ⟨_, .word (List.cons_ne_nil _ _) (List.forall_mem_cons.mpr ⟨hc, letters⟩) ends rest⟩

end Spells

theorem exists_spells (cs : List Char) : ∃ ws, Spells ws cs := by
  induction cs with
  | nil => exact ⟨[], .nil⟩
  | cons c cs ih =>
      obtain ⟨ws, h⟩ := ih
      exact h.exists_cons c

/-- Every text spells the words that cutting finds, and no others. -/
theorem spells_iff_runs_eq : Spells ws cs ↔ runs cs = ws := by
  refine ⟨Spells.runs_eq, ?_⟩
  rintro rfl
  obtain ⟨ws, h⟩ := exists_spells cs
  rwa [h.runs_eq]

theorem runs_eq_nil_iff : runs cs = [] ↔ ∀ c ∈ cs, isAlphanumeric c = false := by
  obtain ⟨ws, h⟩ := exists_spells cs
  rw [h.runs_eq, h.eq_nil_iff]

/-! ### Words in lower case -/

/-- Separators between two texts keep their words apart, in lower case,
too. -/
theorem words_append {x sep y : String} (hne : sep ≠ "")
    (hsep : ∀ c ∈ sep.toList, isAlphanumeric c = false) :
    words (x ++ sep ++ y) = words x ++ words y := by
  have hne' : sep.toList ≠ [] := by simpa using hne
  rw [words, String.toList_append, String.toList_append, List.append_assoc,
    runs_append hne' hsep, List.map_append, words, words]

/-- Texts that spell the same words, each any number of times and in any
order, have the same words in lower case. -/
theorem mem_words_congr {x y : String} {ws ws' : List (List Char)} (hx : Spells ws x.toList)
    (hy : Spells ws' y.toList) (h : ∀ w, w ∈ ws ↔ w ∈ ws') (word : List Char) :
    word ∈ words x ↔ word ∈ words y := by
  rw [words, words, hx.runs_eq, hy.runs_eq, List.mem_map, List.mem_map]
  simp only [h]

theorem words_eq_nil_iff {x : String} :
    words x = [] ↔ ∀ c ∈ x.toList, isAlphanumeric c = false := by
  rw [words, List.map_eq_nil_iff, runs_eq_nil_iff]

end FacetedSearch.Text
