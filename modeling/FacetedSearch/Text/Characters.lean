/-!
# `FacetedSearch.Text.Characters`: sets of characters, and white space

The character properties of this library are data: increasing, disjoint
ranges of code points, ends included. `inRanges` is the membership test.
It stops at the first range that begins past the character.

Blank characters are those with the Unicode property White_Space. The
zero width space and the byte order mark do not have it, the no-break
space and the ideographic space do. `trim` drops them at both ends of a
text; a text of which nothing is left is `isBlankText`.
-/

set_option autoImplicit false

namespace FacetedSearch.Text

/-- Whether a code point lies in one of the increasing ranges. -/
def inRanges (n : Nat) : List (Nat × Nat) → Bool
  | [] => false
  | (first, last) :: rest => if n < first then false else n ≤ last || inRanges n rest

/-! ### White space -/

/-- The characters with the property White_Space. -/
def blankRanges : List (Nat × Nat) :=
  [(0x9, 0xd), (0x20, 0x20), (0x85, 0x85), (0xa0, 0xa0), (0x1680, 0x1680), (0x2000, 0x200a),
   (0x2028, 0x2029), (0x202f, 0x202f), (0x205f, 0x205f), (0x3000, 0x3000)]

/-- Whether a character is white space. -/
def isBlank (c : Char) : Bool := inRanges c.toNat blankRanges

/-- The text without the white space at its ends. -/
def trimChars (cs : List Char) : List Char :=
  ((cs.dropWhile isBlank).reverse.dropWhile isBlank).reverse

/-- The text without the white space at its ends. -/
def trim (s : String) : String := String.ofList (trimChars s.toList)

/-- Whether a text holds nothing but white space. -/
def isBlankText (s : String) : Bool := s.toList.all isBlank

/-- A text is blank exactly when trimming leaves nothing of it. -/
theorem trimChars_eq_nil_iff (cs : List Char) : trimChars cs = [] ↔ cs.all isBlank := by
  have key : ∀ l : List Char, l.dropWhile isBlank = [] ↔ l.all isBlank := by
    intro l
    induction l with
    | nil => simp
    | cons c l ih => by_cases h : isBlank c <;> simp [h, ih]
  constructor
  · intro h
    have h₁ : ((cs.dropWhile isBlank).reverse.dropWhile isBlank) = [] := by
      simpa [trimChars] using h
    have h₂ := (key _).1 h₁
    rw [List.all_reverse] at h₂
    have h₃ := List.takeWhile_append_dropWhile (p := isBlank) (l := cs)
    rw [← h₃, List.all_append, h₂, Bool.and_true]
    exact List.all_takeWhile
  · intro h
    simp [trimChars, (key cs).2 h]

end FacetedSearch.Text
