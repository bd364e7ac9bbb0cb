import FacetedSearch.Text.Alphanumeric
import FacetedSearch.Text.Lowercase

/-!
# `FacetedSearch.Text.Matching`: words and field patterns

Full text search compares words. The words of a text are its maximal
runs of alphanumeric characters, in lower case. Everything else only
separates them.

A pattern is a text in which every `*` stands for any characters, none
included. Its pieces are what lies between the stars. A key matches when
it starts with the first piece, ends with the last one, and has the
pieces between them one after the other in what remains. The leftmost
place is taken for each of these, which leaves the most room for the
next. A pattern without a star matches itself alone.
-/

set_option autoImplicit false

namespace FacetedSearch.Text

/-! ### Words -/

/-- The maximal runs of alphanumeric characters, as written. -/
def runs (cs : List Char) : List (List Char) :=
  (cs.splitOnP (fun c => !isAlphanumeric c)).filter (· ≠ [])

/-- The words of a text: its runs in lower case. -/
def words (s : String) : List (List Char) := (runs s.toList).map lowercase

/-- Whether a text has one of the wanted words. -/
def sharesWord (wanted : List (List Char)) (s : String) : Bool :=
  (words s).any (wanted.contains ·)

/-! ### Field patterns -/

/-- Whether a field name is a pattern. -/
def isPattern (field : String) : Bool := field.toList.contains '*'

/-- What follows the leftmost occurrence of `piece`. -/
def afterLeftmost? (piece : List Char) : List Char → Option (List Char)
  | [] => piece.isPrefixOf? []
  | c :: cs => piece.isPrefixOf? (c :: cs) <|> afterLeftmost? piece cs

/-- Whether `key` holds the pieces in order, the last one at its end. -/
def matchesPieces (key : List Char) : List (List Char) → Bool
  | [] => key.isEmpty
  | [last] => last.isSuffixOf key
  | piece :: rest =>
    match afterLeftmost? piece key with
    | some remainder => matchesPieces remainder rest
    | none => false

/-- Whether a key matches a pattern. -/
def matchesPattern (pattern key : String) : Bool :=
  match pattern.toList.splitOn '*' with
  | [] => key.isEmpty
  | first :: rest =>
    match first.isPrefixOf? key.toList with
    | some remainder => matchesPieces remainder rest
    | none => false

end FacetedSearch.Text
