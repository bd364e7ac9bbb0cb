import FacetedSearch.Text.Matching
import Mathlib.Data.List.Infix

/-!
# `FacetedSearch.Proofs.Text.Wildcard`: the keys that a pattern matches

A pattern is a list of pieces with a star between neighbours (`pieces`,
`intercalate_pieces`). A key should match it when the key is made of the
pieces in their order, with some text in place of every star (`filled`).

The matcher does not try out which text that may be. It takes each piece
at the leftmost place and never comes back to it. `exists_afterLeftmost?`
is the reason why nothing is lost: wherever else the piece may stand, the
leftmost place leaves at least what that place leaves, and what it leaves
beyond that goes into the next gap.

`matchesPattern_iff_filled` is the main statement, for patterns with stars
and without.
-/

set_option autoImplicit false

namespace FacetedSearch.Text

variable {gap piece cs rest : List Char}

/-! ### The leftmost occurrence -/

/-- What follows the leftmost occurrence follows an occurrence. -/
theorem eq_append_of_afterLeftmost? (h : afterLeftmost? piece cs = some rest) :
    ∃ gap, gap ++ (piece ++ rest) = cs := by
  induction cs with
  | nil =>
      rw [afterLeftmost?, List.isPrefixOf?_eq_some_iff_append_eq] at h
      exact ⟨[], h⟩
  | cons c cs ih =>
      rw [afterLeftmost?] at h
      cases hhere : piece.isPrefixOf? (c :: cs) with
      | some remainder =>
          rw [hhere] at h
          cases h
          rw [List.isPrefixOf?_eq_some_iff_append_eq] at hhere
          exact ⟨[], hhere⟩
      | none =>
          rw [hhere] at h
          obtain ⟨gap, rfl⟩ := ih h
          exact ⟨c :: gap, rfl⟩

/-- A piece at the start is its own leftmost occurrence. -/
theorem afterLeftmost?_append (piece rest : List Char) :
    afterLeftmost? piece (piece ++ rest) = some rest := by
  have hhere : piece.isPrefixOf? (piece ++ rest) = some rest :=
    List.isPrefixOf?_eq_some_iff_append_eq.mpr rfl
  cases hcs : piece ++ rest with
  | nil =>
      rw [hcs] at hhere
      exact hhere
  | cons c cs =>
      rw [hcs] at hhere
      rw [afterLeftmost?, hhere]
      rfl

/-- The leftmost occurrence of a piece leaves all that any occurrence
leaves. -/
theorem exists_afterLeftmost? (gap piece rest : List Char) :
    ∃ skipped, afterLeftmost? piece (gap ++ (piece ++ rest)) = some (skipped ++ rest) := by
  induction gap with
  | nil => exact ⟨[], afterLeftmost?_append piece rest⟩
  | cons c gap ih =>
      rw [List.cons_append, afterLeftmost?]
      cases hhere : piece.isPrefixOf? (c :: (gap ++ (piece ++ rest))) with
      | none => exact ih
      | some remainder =>
          -- Both are ends of one text, and the remainder is not the shorter one.
          rw [List.isPrefixOf?_eq_some_iff_append_eq] at hhere
          have hends : rest <:+ piece ++ remainder :=
            hhere ▸ ⟨c :: (gap ++ piece), by simp⟩
          have hlength : rest.length ≤ remainder.length := by
            have := congrArg List.length hhere
            simp only [List.length_append, List.length_cons] at this
            omega
          obtain ⟨skipped, rfl⟩ :=
            List.suffix_of_suffix_length_le hends (List.suffix_append piece remainder) hlength
          exact ⟨skipped, rfl⟩

/-! ### Pieces and gaps -/

/-- The pieces of a pattern: what its stars stand between. -/
def pieces (pattern : String) : List (List Char) := pattern.toList.splitOn '*'

/-- The pieces one after the other, with these texts in the gaps between
neighbours. -/
def filled (gaps : List (List Char)) : List (List Char) → List Char
  | [] => []
  | first :: rest => first ++ (List.zipWith (· ++ ·) gaps rest).flatten

theorem filled_cons (gap piece : List Char) (gaps pieces : List (List Char)) :
    filled (gap :: gaps) ([] :: piece :: pieces) =
      gap ++ (piece ++ filled gaps ([] :: pieces)) := by
  simp [filled]

/-- A text before the first gap can be taken for a part of it. -/
theorem append_filled (skipped gap : List Char) (gaps : List (List Char)) (piece : List Char)
    (pieces : List (List Char)) :
    skipped ++ filled (gap :: gaps) ([] :: piece :: pieces) =
      filled ((skipped ++ gap) :: gaps) ([] :: piece :: pieces) := by
  rw [filled_cons, filled_cons, List.append_assoc]

/-- Before the last piece, the matcher goes on after the leftmost place. -/
theorem matchesPieces_cons_cons_iff {key piece next : List Char} {rest : List (List Char)} :
    matchesPieces key (piece :: next :: rest) = true ↔
      ∃ remainder, afterLeftmost? piece key = some remainder ∧
        matchesPieces remainder (next :: rest) = true := by
  rw [matchesPieces.eq_3 _ _ _ (List.cons_ne_nil _ _)]
  cases afterLeftmost? piece key <;> simp

/-- The matcher finds the pieces when there are gaps to put before them. -/
theorem matchesPieces_iff {key : List Char} {pieces : List (List Char)} :
    matchesPieces key pieces = true ↔
      ∃ gaps, gaps.length = pieces.length ∧ filled gaps ([] :: pieces) = key := by
  -- On the pieces: the key shrinks to what follows the leftmost occurrence.
  induction pieces generalizing key with
  | nil =>
      rw [matchesPieces, List.isEmpty_iff]
      constructor
      · rintro rfl
        exact ⟨[], rfl, rfl⟩
      · rintro ⟨gaps, -, rfl⟩
        simp [filled]
  | cons piece rest ih =>
      cases rest with
      | nil =>
          rw [matchesPieces, List.isSuffixOf_iff_suffix]
          constructor
          · rintro ⟨gap, rfl⟩
            exact ⟨[gap], rfl, by simp [filled]⟩
          · rintro ⟨gaps, hlength, rfl⟩
            obtain ⟨gap, rfl⟩ := List.length_eq_one_iff.mp hlength
            exact ⟨gap, by simp [filled]⟩
      | cons next rest =>
          constructor
          · intro h
            obtain ⟨remainder, hremainder, hrest⟩ := matchesPieces_cons_cons_iff.mp h
            obtain ⟨gap, rfl⟩ := eq_append_of_afterLeftmost? hremainder
            obtain ⟨gaps, hlength, rfl⟩ := ih.mp hrest
            exact ⟨gap :: gaps, congrArg (· + 1) hlength, filled_cons gap piece gaps _⟩
          · rintro ⟨gaps, hlength, rfl⟩
            obtain ⟨gap, gaps, rfl⟩ := List.exists_cons_of_length_eq_add_one hlength
            obtain ⟨nextGap, gaps, rfl⟩ :=
              List.exists_cons_of_length_eq_add_one (Nat.succ.inj hlength)
            obtain ⟨skipped, hskipped⟩ := exists_afterLeftmost? gap piece
              (filled (nextGap :: gaps) ([] :: next :: rest))
            rw [filled_cons]
            refine matchesPieces_cons_cons_iff.mpr ⟨_, hskipped, ?_⟩
            -- What the leftmost place leaves over goes before the next piece.
            exact ih.mpr ⟨(skipped ++ nextGap) :: gaps, Nat.succ.inj hlength,
              (append_filled skipped nextGap gaps next rest).symm⟩

/-! ### Patterns -/

/-- With stars between its pieces, a pattern is put together again. -/
theorem intercalate_pieces (pattern : String) :
    ['*'].intercalate (pieces pattern) = pattern.toList :=
  List.intercalate_splitOn '*'

theorem notMem_of_mem_splitOn {c : Char} (h : piece ∈ cs.splitOn c) : c ∉ piece := by
  induction cs generalizing piece with
  | nil =>
      rw [List.splitOn_nil, List.mem_singleton] at h
      simp [h]
  | cons c' cs ih =>
      obtain ⟨first, others, hfirst⟩ := List.exists_cons_of_ne_nil (List.splitOn_ne_nil c cs)
      rw [List.splitOn_cons_eq_if_modifyHead] at h
      split at h
      · rcases List.mem_cons.mp h with rfl | h
        · exact List.not_mem_nil
        · exact ih h
      · -- The character joins the first piece, and it is no separator.
        rename_i hc
        rw [hfirst] at ih h
        rcases List.mem_cons.mp h with rfl | h
        · rw [List.mem_cons, not_or]
          exact ⟨fun heq => hc (beq_iff_eq.mpr heq.symm), ih List.mem_cons_self⟩
        · exact ih (List.mem_cons_of_mem _ h)

theorem pieces_of_not_isPattern {pattern : String} (h : isPattern pattern = false) :
    pieces pattern = [pattern.toList] := by
  refine List.splitOn_eq_singleton ?_
  rwa [isPattern, List.contains_eq_mem, decide_eq_false_iff_not] at h

theorem matchesPattern_iff {pattern key : String} :
    matchesPattern pattern key = true ↔
      ∃ gaps, gaps.length + 1 = (pieces pattern).length ∧
        filled gaps (pieces pattern) = key.toList := by
  obtain ⟨first, rest, hpieces⟩ :=
    List.exists_cons_of_ne_nil (List.splitOn_ne_nil '*' pattern.toList)
  rw [matchesPattern, pieces, hpieces]
  simp only [List.length_cons, Nat.add_right_cancel_iff]
  cases hfirst : first.isPrefixOf? key.toList with
  | none =>
      refine iff_of_false nofun ?_
      rintro ⟨gaps, -, hkey⟩
      rw [filled, ← List.isPrefixOf?_eq_some_iff_append_eq, hfirst] at hkey
      cases hkey
  | some remainder =>
      rw [List.isPrefixOf?_eq_some_iff_append_eq] at hfirst
      simp only [matchesPieces_iff, filled, List.nil_append, ← hfirst, List.append_cancel_left_eq]

/-- **A pattern matches what it becomes with texts in place of its stars,
and nothing else.** Its pieces have no star themselves and are the pattern
again with stars between them. If there is a star, a key matches exactly
when it is made of the pieces, in their order and without overlap, with
some text between neighbours, be it none. If there is no star, the only
key that matches is the pattern. -/
theorem matchesPattern_iff_filled (pattern key : String) :
    (['*'].intercalate (pieces pattern) = pattern.toList ∧
      ∀ piece ∈ pieces pattern, '*' ∉ piece) ∧
    (isPattern pattern = true →
      (matchesPattern pattern key = true ↔
        ∃ gaps, gaps.length + 1 = (pieces pattern).length ∧
          filled gaps (pieces pattern) = key.toList)) ∧
    (isPattern pattern = false → (matchesPattern pattern key = true ↔ pattern = key)) := by
  refine ⟨⟨intercalate_pieces pattern, fun _ => notMem_of_mem_splitOn⟩,
    fun _ => matchesPattern_iff, fun h => ?_⟩
  rw [matchesPattern_iff, pieces_of_not_isPattern h]
  simp [filled, String.toList_inj]

/-- The leftmost places are not the only ones here: the middle piece stands
in the key twice. A key that is too short for both ends has no place for
them, and a pattern without a star has one key. -/
theorem matchesPattern_iff_filled_twice :
    (isPattern "a*ab*b" = true ∧ isPattern "ab*ba" = true ∧ isPattern "title" = false) ∧
    matchesPattern "a*ab*b" "axabyabb" = true ∧
    matchesPattern "ab*ba" "aba" = false ∧
    matchesPattern "title" "titles" = false := by
  have hmiddle : isPattern "a*ab*b" = true := by decide
  have hends : isPattern "ab*ba" = true := by decide
  have hplain : isPattern "title" = false := by decide
  refine ⟨⟨hmiddle, hends, hplain⟩, ?_, ?_, ?_⟩
  · -- The second occurrence of the middle piece does as well.
    exact ((matchesPattern_iff_filled "a*ab*b" "axabyabb").2.1 hmiddle).mpr
      ⟨["xaby".toList, []], by decide, by decide⟩
  · rw [Bool.eq_false_iff, ne_eq, (matchesPattern_iff_filled "ab*ba" "aba").2.1 hends]
    rintro ⟨gaps, hlength, hkey⟩
    have hpieces : pieces "ab*ba" = ["ab".toList, "ba".toList] := by decide
    rw [hpieces] at hlength hkey
    obtain ⟨gap, rfl⟩ := List.length_eq_one_iff.mp (Nat.succ.inj hlength)
    -- Both ends together are longer than the key.
    have hlong : (filled [gap] ["ab".toList, "ba".toList]).length = gap.length + 4 := by
      simp [filled]
    rw [hkey] at hlong
    have hshort : "aba".toList.length = 3 := by decide
    omega
  · rw [Bool.eq_false_iff, ne_eq, (matchesPattern_iff_filled "title" "titles").2.2 hplain]
    decide

end FacetedSearch.Text
