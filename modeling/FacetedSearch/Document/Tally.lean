import FacetedSearch.Distinct
import FacetedSearch.Document.Path
import FacetedSearch.Request.Basic
import FacetedSearch.Response

/-!
# `FacetedSearch.Document.Tally`: counting the values of a field

A tally counts, for every text that a scalar at a field is written as,
the documents that have such a scalar. A document counts once for a
text, however often its array repeats it. The key of a bucket is the
first scalar that was met with the text.

Buckets are answered by falling count, and by rising text where the
counts are equal; the texts differ, so this settles their order.
-/

set_option autoImplicit false

namespace FacetedSearch

/-- Buckets under the texts of their keys. -/
abbrev Tally := Entries Bucket

namespace Tally

/-- Counts one more document for the text of a scalar. -/
def count (t : Tally) (v : Scalar) : Tally :=
  let bucket := (t.lookup v.render).getD ⟨v, 0⟩
  Entries.put v.render { bucket with count := bucket.count + 1 } t

/-- Counts a document for every text at a field. -/
def add (field : String) (t : Tally) (doc : Document) : Tally :=
  (distinctBy Scalar.render (doc.scalars field)).foldl count t

/-- The tally of a field over documents. -/
def ofDocuments (field : String) (docs : List Document) : Tally := docs.foldl (add field) []

/-- Whether a bucket is answered no later than another one. -/
def precedes (a b : String × Bucket) : Bool :=
  b.2.count < a.2.count || (a.2.count = b.2.count && a.1 ≤ b.1)

/-- The buckets in the order of the answer. -/
def ranked (t : Tally) : List Bucket := (t.mergeSort precedes).map (·.2)

end Tally

/-- How many hits or buckets an answer has when the request does not say. -/
def defaultSize : Nat := 10

/-- What documents answer to an aggregation. -/
def Aggregation.answer (a : Aggregation) (docs : List Document) : Aggregate :=
  .terms ((Tally.ofDocuments a.field docs).ranked.take ((a.size.map (·.toNat)).getD defaultSize))

end FacetedSearch
