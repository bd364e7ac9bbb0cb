import FacetedSearch.Proofs.Query.Selection
import FacetedSearch.Proofs.Text.Words

/-!
# `FacetedSearch.Proofs.Query.Words`: searching for several words

A text condition takes nothing of its text but the words, and one of them
is enough. So it selects what the conditions on the parts of its text
select, wherever a separator allows to part it, and neither the order of
the words nor repeating them nor what stands between them can be told from
what is found. `Query.selects_text_of_words` is the main statement.
-/

set_option autoImplicit false

namespace FacetedSearch.Query

open Text (Spells isAlphanumeric)

variable {doc : Document} {field : String}

/-- A text condition depends on nothing but the words it looks for. -/
theorem selects_text_congr {v v' : Scalar}
    (h : ∀ word, word ∈ Text.words v.render ↔ word ∈ Text.words v'.render) :
    (Query.text field v).selects doc = (Query.text field v').selects doc := by
  rw [Bool.eq_iff_iff, selects_text_iff, selects_text_iff]
  simp only [h]

/-- The words of two texts are found where those of one of them are. -/
theorem selects_text_of_words_append {v x y : Scalar}
    (h : Text.words v.render = Text.words x.render ++ Text.words y.render) :
    (Query.text field v).selects doc =
      ((Query.text field x).selects doc || (Query.text field y).selects doc) := by
  rw [Bool.eq_iff_iff, Bool.or_eq_true]
  simp only [selects_text_iff, h, List.mem_append]
  constructor
  · rintro ⟨s, hs, word, hword, hx | hy⟩
    · exact .inl ⟨s, hs, word, hword, hx⟩
    · exact .inr ⟨s, hs, word, hword, hy⟩
  · rintro (⟨s, hs, word, hword, hx⟩ | ⟨s, hs, word, hword, hy⟩)
    · exact ⟨s, hs, word, hword, .inl hx⟩
    · exact ⟨s, hs, word, hword, .inr hy⟩

/-- Without words nothing is found. -/
theorem selects_text_of_words_nil {v : Scalar} (h : Text.words v.render = []) :
    (Query.text field v).selects doc = false := by
  rw [Bool.eq_false_iff, ne_eq, selects_text_iff, h]
  rintro ⟨_, _, _, _, hword⟩
  cases hword

/-- **A condition on several words asks for one of them.** Where characters
that are not alphanumeric stand between two texts, the words of the whole
are those of the one followed by those of the other, and the condition on
it selects what one of theirs selects, on any field or pattern. Two texts
that spell the same words, in any order, each any number of times and with
any separators between and around them, select the same documents. A text
of separators selects none. -/
theorem selects_text_of_words (field : String) (doc : Document) :
    (∀ x sep y : String, sep ≠ "" → (∀ c ∈ sep.toList, isAlphanumeric c = false) →
      Text.words (x ++ sep ++ y) = Text.words x ++ Text.words y ∧
      (Query.text field (.text (x ++ sep ++ y))).selects doc =
        ((Query.text field (.text x)).selects doc || (Query.text field (.text y)).selects doc)) ∧
    (∀ (x y : String) (ws ws' : List (List Char)), Spells ws x.toList → Spells ws' y.toList →
      (∀ w, w ∈ ws ↔ w ∈ ws') →
      (Query.text field (.text x)).selects doc = (Query.text field (.text y)).selects doc) ∧
    ∀ x : String, (∀ c ∈ x.toList, isAlphanumeric c = false) →
      (Query.text field (.text x)).selects doc = false := by
  refine ⟨fun x sep y hne hsep => ?_, fun x y ws ws' hx hy hsame => ?_, fun x hx => ?_⟩
  · have hwords := Text.words_append (x := x) (y := y) hne hsep
    exact ⟨hwords, selects_text_of_words_append hwords⟩
  · exact selects_text_congr (Text.mem_words_congr hx hy hsame)
  · exact selects_text_of_words_nil (Text.words_eq_nil_iff.mpr hx)

/-- The sigma at the end of the first word is a final one wherever the word
stands, so it is found in all of these. -/
theorem selects_text_of_words_street :
    let doc : Document := [("sign", .string "οδος 9")]
    ((", " ≠ "" ∧ ∀ c ∈ ", ".toList, isAlphanumeric c = false) ∧
      Spells ["ΟΔΟΣ".toList, "Rust".toList] "ΟΔΟΣ, Rust".toList ∧
      Spells ["Rust".toList, "ΟΔΟΣ".toList, "Rust".toList] "Rust/ΟΔΟΣ Rust!".toList) ∧
    Text.words ("ΟΔΟΣ" ++ ", " ++ "Rust") = Text.words "ΟΔΟΣ" ++ Text.words "Rust" ∧
    (Query.text "s*" (.text "ΟΔΟΣ, Rust")).selects doc = true ∧
    (Query.text "s*" (.text "Rust/ΟΔΟΣ Rust!")).selects doc = true ∧
    (Query.text "s*" (.text ", ")).selects doc = false := by
  intro doc
  have hall : ", ".toList.all (!isAlphanumeric ·) = true := by decide +kernel
  have hsep : ∀ c ∈ ", ".toList, isAlphanumeric c = false := fun c hc => by
    simpa using List.all_eq_true.mp hall c hc
  have hx : Spells ["ΟΔΟΣ".toList, "Rust".toList] "ΟΔΟΣ, Rust".toList :=
    Text.spells_iff_runs_eq.mpr (by decide +kernel)
  have hy : Spells ["Rust".toList, "ΟΔΟΣ".toList, "Rust".toList] "Rust/ΟΔΟΣ Rust!".toList :=
    Text.spells_iff_runs_eq.mpr (by decide +kernel)
  have hfound : (Query.text "s*" (.text "ΟΔΟΣ")).selects doc = true := by decide +kernel
  obtain ⟨hparts, hsame, hnone⟩ := selects_text_of_words "s*" doc
  obtain ⟨hwords, hor⟩ := hparts "ΟΔΟΣ" ", " "Rust" (by decide) hsep
  have hwhole : (Query.text "s*" (.text "ΟΔΟΣ, Rust")).selects doc = true := by
    rw [hfound] at hor
    exact hor
  refine ⟨⟨⟨by decide, hsep⟩, hx, hy⟩, hwords, hwhole, ?_, hnone ", " hsep⟩
  rw [← hwhole]
  exact (hsame _ _ _ _ hx hy (by simp [or_comm])).symm

end FacetedSearch.Query
