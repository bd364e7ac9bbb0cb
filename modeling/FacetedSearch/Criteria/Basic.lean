import FacetedSearch.Distinct
import FacetedSearch.Filter.Clauses
import FacetedSearch.Text.Characters

/-!
# `FacetedSearch.Criteria.Basic`: search criteria

Criteria are what a caller asks for: a filter, free text, the page and
the fields wanted, an order, and the facets to count. `Criteria.compile`
turns the filter and the free text into a query. Free text is one more
clause that has to hold; text of white space alone is no text.
-/

set_option autoImplicit false

namespace FacetedSearch

/-- A direction of sorting. -/
inductive Direction where
  | ascending | descending
deriving DecidableEq, Inhabited

/-- The word for a direction. -/
def Direction.name : Direction → String
  | .ascending => "asc"
  | .descending => "desc"

/-- A field to sort by. -/
structure SortBy where
  field : String
  direction : Direction := .ascending
deriving DecidableEq, Inhabited

/-- What a caller asks for. -/
structure Criteria where
  pageNumber : Option UInt32 := none
  pageSize : Option UInt32 := none
  /-- The fields to return; every field when there are none. -/
  requestedFields : List String := []
  filter : Filter := []
  facets : List String := []
  searchText : Option String := none
  sortBy : Option SortBy := none
deriving Inhabited

namespace Criteria

/-! ### Building -/

/-- Asks for one page. -/
def page (c : Criteria) (number size : UInt32) : Criteria :=
  { c with pageNumber := some number, pageSize := some size }

/-- Asks something of a field, in place of what was asked of it before. -/
def constrain (c : Criteria) (field : String) (value : Json) : Criteria :=
  { c with filter := Entries.put field value c.filter }

/-- Asks for these fields. -/
def select (c : Criteria) (fields : List String) : Criteria := { c with requestedFields := fields }

/-- Asks for one more facet. -/
def facet (c : Criteria) (field : String) : Criteria := { c with facets := c.facets ++ [field] }

/-- Asks for a text. -/
def search (c : Criteria) (text : String) : Criteria := { c with searchText := some text }

/-- Asks for an order. -/
def sort (c : Criteria) (field : String) (direction : Direction) : Criteria :=
  { c with sortBy := some ⟨field, direction⟩ }

/-! ### Reading -/

/-- The facets asked for, each once, in the order of their first mention. -/
def facetFields (c : Criteria) : List String := distinct c.facets

/-- The free text without the white space at its ends, if anything is left. -/
def freeText? (c : Criteria) : Option String :=
  (c.searchText.map Text.trim).filter (!·.isEmpty)

/-- The clause for free text: one of the configured fields has a word of it. -/
def textClause (s : Settings) (text : String) : Query :=
  match s.freeTextFields with
  | [] => .text "*" (.text text)
  | [field] => .text field (.text text)
  | fields => .bool { should := fields.map fun field => .text field (.text text) }

/-- The clauses for criteria: those of the filter, and the free text. -/
def clauses (s : Settings) (c : Criteria) : Except Filter.Error (Clauses Query) := do
  let filtered ← Filter.clauses s c.filter
  return match c.freeText? with
    | some text => filtered.push .must (textClause s text)
    | none => filtered

/-- The query for criteria. -/
def compile (s : Settings) (c : Criteria) : Except Filter.Error Query := do
  return .bool (← clauses s c)

end Criteria

end FacetedSearch
