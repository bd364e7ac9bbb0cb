import FacetedSearch.Proofs.Document.Tally
import FacetedSearch.Proofs.Number.Nearest
import FacetedSearch.Proofs.Query.Algebra
import Mathlib

/-!
# `FacetedSearch.Proofs.Document.DrillDown`: from a bucket to its documents

A facet shows how many of the documents that were found have a value,
and choosing the value narrows the search to them. The number shown and
the number then found come about differently: a bucket counts the
documents with one text, a condition on the field selects those with an
equal value. `1` and `1.0` are equal and have two texts, and integers
beyond `2⁵³` are equal to their neighbours.

Among values of one kind, integers not being too large, both are the
same (`Scalar.OfOneKind.sameValue_iff`). There the number shown is exact,
and every value of a document that was found belongs to one bucket
(`Aggregation.answer_drillDown`).
-/

set_option autoImplicit false

namespace FacetedSearch

/-! ### Texts and values -/

namespace Scalar

/-- All scalars are texts, or all are truth values, or all are integers
that a number has exactly. -/
inductive OfOneKind (vs : List Scalar) : Prop where
  | texts (h : ∀ v ∈ vs, ∃ s, v = .text s)
  | booleans (h : ∀ v ∈ vs, ∃ b, v = .boolean b)
  | integers (h : ∀ v ∈ vs, ∃ n : Int64, v = .integer n ∧ n.toInt.natAbs ≤ 2 ^ 53)

theorem render_boolean_inj {a b : Bool} :
    (Scalar.boolean a).render = (Scalar.boolean b).render ↔ a = b := by
  cases a <;> cases b <;> decide

theorem render_integer_inj {n n' : Int64} :
    (Scalar.integer n).render = (Scalar.integer n').render ↔ n = n' :=
  ⟨fun h => Int64.toInt_inj.mp (Int.repr_injective h), fun h => by rw [h]⟩

/-- Among scalars of one kind, the equal ones are those with one text. -/
theorem OfOneKind.sameValue_iff {vs : List Scalar} (h : OfOneKind vs) {v w : Scalar} (hv : v ∈ vs)
    (hw : w ∈ vs) : v.sameValue w = true ↔ v.render = w.render := by
  cases h with
  | texts h =>
      obtain ⟨s, rfl⟩ := h v hv
      obtain ⟨s', rfl⟩ := h w hw
      exact decide_eq_true_iff
  | booleans h =>
      obtain ⟨b, rfl⟩ := h v hv
      obtain ⟨b', rfl⟩ := h w hw
      rw [render_boolean_inj]
      exact decide_eq_true_iff
  | integers h =>
      obtain ⟨n, rfl, hn⟩ := h v hv
      obtain ⟨n', rfl, hn'⟩ := h w hw
      have hcompare : (Scalar.integer n).sameValue (.integer n') =
          decide (some (compare n.toInt n'.toInt) = some .eq) := by
        rw [← Binary64.compare?_ofInt hn hn']
        rfl
      rw [render_integer_inj, hcompare, decide_eq_true_iff, Option.some_inj, compare_eq_iff_eq,
        Int64.toInt_inj]

end Scalar

/-! ### Buckets -/

/-- Among values of one kind, a document has the text of a value when the
condition on that value selects it. -/
theorem Document.hasText_eq_selects_term {docs : List Document} {doc : Document} {field : String}
    {v : Scalar} (h : Scalar.OfOneKind (docs.flatMap (·.scalars field))) (hdoc : doc ∈ docs)
    (hv : v ∈ docs.flatMap (·.scalars field)) :
    doc.hasText field v.render = (Query.term field v).selects doc := by
  rw [Bool.eq_iff_iff, Query.selects_term_iff, hasText, List.any_eq_true]
  refine exists_congr fun w => and_congr_right fun hw => ?_
  rw [decide_eq_true_iff, h.sameValue_iff (List.mem_flatMap_of_mem hdoc hw) hv]

namespace Aggregation

/-- **Drilling down is exact** where the values of a field are of one kind:
the count of a bucket is the number of documents that are found when its
key is required as well. Every value of a document that was found equals
the key of one bucket, before the answer is cut to its size, and of no
other. -/
theorem answer_drillDown (docs : List Document) (q : Query) (a : Aggregation)
    (h : Scalar.OfOneKind (docs.flatMap (·.scalars a.field))) :
    let found := docs.filter (q.selects ·)
    let buckets := (Tally.ofDocuments a.field found).ranked
    a.answer found = .terms (buckets.take ((a.size.map (·.toNat)).getD 10)) ∧
      (∀ b ∈ buckets, b.count = docs.countP ((q.and (.term a.field b.key)).selects ·)) ∧
      ∀ doc ∈ found, ∀ v ∈ doc.scalars a.field, buckets.countP (v.sameValue ·.key) = 1 := by
  intro found buckets
  -- A key is a value like any other, so the comparisons below stay within the kind.
  have hkey {b : Bucket} (hb : b ∈ buckets) : b.key ∈ docs.flatMap (·.scalars a.field) := by
    obtain ⟨doc, hdoc, hkey⟩ := Tally.exists_key_of_mem_ranked hb
    exact List.mem_flatMap.mpr ⟨doc, List.mem_of_mem_filter hdoc, hkey⟩
  refine ⟨rfl, fun b hb => ?_, fun doc hdoc v hv => ?_⟩
  · rw [Tally.count_of_mem_ranked hb, List.countP_filter]
    refine List.countP_congr fun doc hdoc => ?_
    rw [Query.selects_and, Document.hasText_eq_selects_term h hdoc (hkey hb), Bool.and_comm]
  · have hvalue : v ∈ docs.flatMap (·.scalars a.field) :=
      List.mem_flatMap.mpr ⟨doc, List.mem_of_mem_filter hdoc, hv⟩
    rw [← Tally.countP_ranked hdoc hv]
    refine List.countP_congr fun b hb => ?_
    rw [h.sameValue_iff hvalue (hkey hb), decide_eq_true_iff]

/-- Editions with the years they were printed in, one year twice. -/
def editions : List Document :=
  [[("print", .object [("year", .array [.integer 1994, .integer 1994, .integer 2001])])],
    [("print", .object [("year", .integer 1994)])],
    [("print", .object [("year", .array [.null, .integer 2001])]), ("lost", .bool true)],
    [("title", .string "undated")]]

/-- The editions that are not lost. -/
def present : Query := (Query.term "lost" (.boolean true)).negate

theorem answer_drillDown_editions :
    Scalar.OfOneKind (editions.flatMap (·.scalars "print.year")) ∧
    (Aggregation.mk "years" "print.year" none).answer (editions.filter (present.selects ·)) =
      .terms [⟨.integer 1994, 2⟩, ⟨.integer 2001, 1⟩] ∧
    editions.countP ((present.and (.term "print.year" (.integer 1994))).selects ·) = 2 ∧
    editions.countP ((present.and (.term "print.year" (.integer 2001))).selects ·) = 1 := by
  have hyears : editions.flatMap (·.scalars "print.year") =
      [.integer 1994, .integer 1994, .integer 2001, .integer 1994, .integer 2001] := by
    cbv
  have hkind : Scalar.OfOneKind (editions.flatMap (·.scalars "print.year")) := by
    rw [hyears]
    refine .integers fun v hv => ?_
    simp only [List.mem_cons, List.not_mem_nil, or_false] at hv
    rcases hv with rfl | rfl | rfl | rfl | rfl <;> exact ⟨_, rfl, by decide⟩
  have hbuckets : (Tally.ofDocuments "print.year" (editions.filter (present.selects ·))).ranked =
      [⟨.integer 1994, 2⟩, ⟨.integer 2001, 1⟩] := by
    cbv
  obtain ⟨hanswer, hcount, -⟩ :=
    answer_drillDown editions present ⟨"years", "print.year", none⟩ hkind
  rw [hbuckets] at hanswer hcount
  rw [List.forall_mem_cons, List.forall_mem_cons] at hcount
  exact ⟨hkind, hanswer, hcount.1.symm, hcount.2.1.symm⟩

end Aggregation

end FacetedSearch
