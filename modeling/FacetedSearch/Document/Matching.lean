import FacetedSearch.Document.Path
import FacetedSearch.Query.Basic
import FacetedSearch.Text.Matching

/-!
# `FacetedSearch.Document.Matching`: which documents a query selects

A condition on a field holds when one leaf of the field meets it; the
bounds of a range have to be met by the same leaf. A text condition
compares words. On a pattern it looks at every string inside the fields
of the document whose names match, at any depth; on any other field only
at the leaves.

`Query.selects_bool` is the rule for compositions: the alternatives of
`should` are only asked for when `must` and `filter` are empty.
-/

set_option autoImplicit false

namespace FacetedSearch

/-- Whether a scalar meets a bound. -/
def meets (v : Scalar) (accepts : Ordering → Bool) : Option Scalar → Bool
  | none => true
  | some bound => (v.compare? bound).any accepts

/-- Whether a scalar meets all bounds. -/
def Bounds.admits (b : Bounds) (v : Scalar) : Bool :=
  meets v Ordering.isGT b.gt && meets v Ordering.isGE b.gte &&
    meets v Ordering.isLT b.lt && meets v Ordering.isLE b.lte

namespace Document

/-- The strings that a text condition on a field looks at. -/
def texts (doc : Document) (field : String) : List String :=
  if Text.isPattern field then
    (doc.filter fun m => Text.matchesPattern field m.1).flatMap fun m => m.2.texts
  else (doc.leaves field).filterMap Json.string?

end Document

namespace Query

mutual

/-- Whether a query selects a document. -/
def selects (doc : Document) : Query → Bool
  | .term field value => (doc.scalars field).any (·.sameValue value)
  | .terms field values => (doc.scalars field).any fun v => values.any v.sameValue
  | .text field value =>
    (doc.texts field).any (Text.sharesWord (Text.words value.render))
  | .range field bounds => (doc.scalars field).any bounds.admits
  | .bool ⟨must, filter, should, mustNot⟩ =>
    allSelect doc must && allSelect doc filter && !anySelects doc mustNot &&
      (should.isEmpty || !must.isEmpty || !filter.isEmpty || anySelects doc should)

/-- Whether every query of a list selects a document. -/
def allSelect (doc : Document) : List Query → Bool
  | [] => true
  | q :: rest => selects doc q && allSelect doc rest

/-- Whether some query of a list selects a document. -/
def anySelects (doc : Document) : List Query → Bool
  | [] => false
  | q :: rest => selects doc q || anySelects doc rest

end

theorem allSelect_eq_all (doc : Document) (qs : List Query) :
    allSelect doc qs = qs.all (·.selects doc) := by
  induction qs with
  | nil => rfl
  | cons q rest ih => simp [allSelect, ih]

theorem anySelects_eq_any (doc : Document) (qs : List Query) :
    anySelects doc qs = qs.any (·.selects doc) := by
  induction qs with
  | nil => rfl
  | cons q rest ih => simp [anySelects, ih]

/-- A composition selects what is selected by everything required, by
nothing excluded, and by one of the alternatives if nothing is required. -/
theorem selects_bool (doc : Document) (c : Clauses Query) :
    (Query.bool c).selects doc =
      (c.must.all (·.selects doc) && c.filter.all (·.selects doc) &&
        !c.mustNot.any (·.selects doc) &&
        (c.should.isEmpty || !c.must.isEmpty || !c.filter.isEmpty ||
          c.should.any (·.selects doc))) := by
  cases c
  simp [Query.selects, allSelect_eq_all, anySelects_eq_any]

end Query

end FacetedSearch
