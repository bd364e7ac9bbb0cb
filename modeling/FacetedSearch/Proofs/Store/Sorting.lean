import FacetedSearch.Proofs.Document.Order
import FacetedSearch.Proofs.Store.Search

/-!
# `FacetedSearch.Proofs.Store.Sorting`: the order of hits

What is said here of sorted hits holds of every way of sorting, every
index, every query and both directions.

Hits are there and in order unless three of the documents found straddle
(`Store.hits_in_order`). Then nothing can be said: `Store.hits_out_of_order`
has a larger number before a smaller one, two texts standing between them.

If all scalars at the field are of one kind, the order of the hits is
settled (`Store.hits_of_one_kind`). Documents with a scalar come first, in
the direction asked for. Those with equal scalars, and those without any,
stand in the order in which they were put into the index.
-/

set_option autoImplicit false

namespace FacetedSearch.Store

variable {docs : List Stored} {r : Request} {s : SortBy}

/-! ### When hits are in order -/

/-- **Hits are in order unless documents straddle.** The order of documents
is reversed with its sides, and it is transitive but for three documents
that straddle: two scalars in the wrong order and one of another kind
between them. If no documents straddle among those that a query selects,
sorting them comes back, and no hit comes before one that it belongs after. -/
theorem hits_in_order (s : SortBy) :
    (∀ a b : Document, s.compare b a = (s.compare a b).swap) ∧
    (∀ a b c : Document, s.compare a b ≠ .gt → s.compare b c ≠ .gt →
      (s.compare a c ≠ .gt ↔ ¬s.Straddles a b c)) ∧
    ∀ (sorter : Sorter Stored) (docs : List Stored) (r : Request), r.sortBy = some s →
      let found := docs.filter fun d => r.query.selects d.document
      (∀ a ∈ found, ∀ b ∈ found, ∀ c ∈ found,
        ¬s.Straddles a.document b.document c.document) →
      ∃ sorted, hits sorter docs r = some sorted ∧
        sorted.Pairwise fun a b => ∀ v w, a.document.scalar? s.field = some v →
          b.document.scalar? s.field = some w → v.compare? w ≠ some s.direction.wrongWay := by
  refine ⟨fun a b => SortBy.compare_swap s a b, fun a b c hab hbc => not_congr ?_, ?_⟩
  · rw [SortBy.straddles_iff, and_iff_right hab, and_iff_right hbc]
  · intro sorter docs r hsort found hfound
    obtain ⟨sorted, hsorted, hstable⟩ := s.exists_sort sorter hfound
    refine ⟨sorted, (hits_eq_sort hsort).trans hsorted, ?_⟩
    refine hstable.pairwise.imp fun {a b} hab v w hv hw hwrong => hab ?_
    exact (SortBy.compare_eq_gt_iff hv hw).mpr hwrong

/-- Everything, by falling `n`. -/
def falling : Request := { index := "books", query := .all, sortBy := some ⟨"n", .descending⟩ }

/-- Numbers of both sorts, two of them equal, and two documents without one. -/
def numbered : List Stored :=
  [⟨"1", [("n", .integer 2)]⟩, ⟨"2", []⟩, ⟨"3", [("n", .float ⟨0x4000000000000000⟩)]⟩,
    ⟨"4", [("n", .null)]⟩, ⟨"5", [("n", .integer 7)]⟩]

theorem kind?_numbered : ∀ d ∈ numbered, ∀ v, d.document.scalar? "n" = some v →
    v.kind? = some .number := by
  intro d hd v hv
  simp only [numbered, List.mem_cons, List.not_mem_nil, or_false] at hd
  rcases hd with rfl | rfl | rfl | rfl | rfl
  · exact Option.some.inj hv ▸ rfl
  · cases hv
  · obtain rfl := Option.some.inj hv
    decide
  · cases hv
  · exact Option.some.inj hv ▸ rfl

/-- Numbers do not straddle: their hits are in order, whichever documents have none. -/
theorem hits_in_order_numbered :
    let s : SortBy := ⟨"n", .descending⟩
    (s.compare [("n", .integer 7)] [("n", .integer 2)] ≠ .gt ∧
      s.compare [("n", .integer 2)] [] ≠ .gt ∧ s.compare [("n", .integer 7)] [] ≠ .gt ∧
      ¬s.Straddles [("n", .integer 7)] [("n", .integer 2)] []) ∧
    falling.sortBy = some s ∧
    (∀ a ∈ numbered, ∀ b ∈ numbered, ∀ c ∈ numbered,
      ¬s.Straddles a.document b.document c.document) ∧
    ∃ sorted, hits .insertion numbered falling = some sorted ∧
      sorted.Pairwise fun a b => ∀ v w, a.document.scalar? "n" = some v →
        b.document.scalar? "n" = some w → v.compare? w ≠ some .lt := by
  intro s
  have hstraddles : ∀ a ∈ numbered, ∀ b ∈ numbered, ∀ c ∈ numbered,
      ¬s.Straddles a.document b.document c.document := by
    intro a ha b hb c _
    exact SortBy.not_straddles_of_kind (kind?_numbered a ha) (kind?_numbered b hb)
  obtain ⟨-, htrans, hhits⟩ := hits_in_order s
  have hfirst : s.compare [("n", .integer 7)] [("n", .integer 2)] ≠ .gt := by decide +kernel
  have hsecond : s.compare [("n", .integer 2)] [] ≠ .gt := by decide
  have hthird : s.compare [("n", .integer 7)] [] ≠ .gt := by decide
  exact ⟨⟨hfirst, hsecond, hthird, (htrans _ _ _ hfirst hsecond).mp hthird⟩, rfl, hstraddles,
    hhits .insertion numbered falling rfl hstraddles⟩

/-- Everything, by rising `n`. -/
def rising : Request := { index := "mixed", query := .all, sortBy := some ⟨"n", .ascending⟩ }

/-- Two numbers, the larger one first, with two texts between them. -/
def mixed : List Stored :=
  [⟨"1", [("n", .integer 2)]⟩, ⟨"2", [("n", .string "a")]⟩, ⟨"3", [("n", .string "b")]⟩,
    ⟨"4", [("n", .integer 1)]⟩]

/-- Where documents straddle, hits can be out of order: no document is put
before the one it is next to. -/
theorem hits_out_of_order :
    let s : SortBy := ⟨"n", .ascending⟩
    (s.compare [("n", .integer 2)] [("n", .string "a")] ≠ .gt ∧
      s.compare [("n", .string "a")] [("n", .integer 1)] ≠ .gt ∧
      s.compare [("n", .integer 2)] [("n", .integer 1)] = .gt) ∧
    hits .insertion mixed rising = some mixed ∧
    ¬mixed.Pairwise fun a b => ∀ v w, a.document.scalar? "n" = some v →
      b.document.scalar? "n" = some w → v.compare? w ≠ some .gt := by
  refine ⟨⟨by decide, by decide, by decide +kernel⟩, ?_, fun h => ?_⟩
  · rfl
  · rw [mixed, List.pairwise_cons] at h
    have hfirst := h.1 ⟨"4", [("n", .integer 1)]⟩ (by simp) (.integer 2) (.integer 1) rfl rfl
    exact hfirst (by decide +kernel)

/-! ### One kind of scalars -/

/-- **In a column of one kind, hits are sorted and what is equal keeps its
order.** Sorting comes back. The hits are the documents that the query
selects, each once. Those with a scalar at the field come before those without, whichever the
direction, and none comes before one that it belongs after. Documents with
equal scalars stand in the order of the index, and so do those without. -/
theorem hits_of_one_kind (sorter : Sorter Stored) (hsort : r.sortBy = some s) {k : Scalar.Kind}
    (hkind : ∀ d ∈ docs, r.query.selects d.document = true →
      ∀ v, d.document.scalar? s.field = some v → v.kind? = some k) :
    let found := docs.filter fun d => r.query.selects d.document
    ∃ sorted, hits sorter docs r = some sorted ∧ sorted.Perm found ∧
    (sorted.Pairwise fun a b =>
      (b.document.scalar? s.field).isSome → (a.document.scalar? s.field).isSome) ∧
    (sorted.Pairwise fun a b => ∀ v w, a.document.scalar? s.field = some v →
      b.document.scalar? s.field = some w →
        ∃ o, v.compare? w = some o ∧ o ≠ s.direction.wrongWay) ∧
    (∀ v, (sorted.filter fun d => (d.document.scalar? s.field).any (·.sameValue v)) =
      found.filter fun d => (d.document.scalar? s.field).any (·.sameValue v)) ∧
    (sorted.filter fun d => (d.document.scalar? s.field).isNone) =
      found.filter fun d => (d.document.scalar? s.field).isNone := by
  intro found
  have hfound : ∀ d ∈ found, ∀ v, d.document.scalar? s.field = some v → v.kind? = some k := by
    intro d hd
    exact hkind d (List.mem_filter.mp hd).1 (List.mem_filter.mp hd).2
  have hstraddles : ∀ a ∈ found, ∀ b ∈ found, ∀ c ∈ found,
      ¬s.Straddles a.document b.document c.document :=
    fun a ha b hb c _ => SortBy.not_straddles_of_kind (hfound a ha) (hfound b hb)
  obtain ⟨sorted, hsorted, hstable⟩ := s.exists_sort sorter hstraddles
  have hperm : sorted.Perm found := sorter.perm hsorted
  refine ⟨sorted, (hits_eq_sort hsort).trans hsorted, hperm, ?_, ?_, fun v => ?_, ?_⟩
  · refine hstable.pairwise.imp fun {a b} hab hb => ?_
    rw [Option.isSome_iff_exists] at hb ⊢
    exact SortBy.exists_scalar_of_compare hab hb
  · refine hstable.pairwise.imp_of_mem fun {a b} ha hb hab v w hv hw => ?_
    have hvw : v.SameKind w :=
      ⟨k, hfound a (hperm.mem_iff.mp ha) v hv, hfound b (hperm.mem_iff.mp hb) w hw⟩
    obtain ⟨o, ho⟩ := Scalar.exists_compare?_iff.mpr hvw
    refine ⟨o, ho, fun hwrong => hab ?_⟩
    exact (SortBy.compare_eq_gt_iff hv hw).mpr (hwrong ▸ ho)
  · exact hstable.filter_eq _ fun a _ b _ => SortBy.compare_eq_eq_of_sameValue
  · exact hstable.filter_eq _ fun a _ b _ => SortBy.compare_eq_eq_of_isNone

/-- Equal numbers keep their places in falling order, and so do the documents
without a number, which come last. -/
theorem hits_of_one_kind_numbered :
    (falling.sortBy = some ⟨"n", .descending⟩ ∧
      ∀ d ∈ numbered, falling.query.selects d.document = true →
        ∀ v, d.document.scalar? "n" = some v → v.kind? = some .number) ∧
    ∃ sorted, hits .insertion numbered falling = some sorted ∧ sorted.Perm numbered ∧
      (sorted.Pairwise fun a b =>
        (b.document.scalar? "n").isSome → (a.document.scalar? "n").isSome) ∧
      ((sorted.filter fun d =>
        (d.document.scalar? "n").any (·.sameValue (.integer 2))).map (·.id) = ["1", "3"]) ∧
      (sorted.filter fun d => (d.document.scalar? "n").isNone).map (·.id) = ["2", "4"] := by
  have hkind : ∀ d ∈ numbered, falling.query.selects d.document = true →
      ∀ v, d.document.scalar? "n" = some v → v.kind? = some .number :=
    fun d hd _ => kind?_numbered d hd
  obtain ⟨sorted, hsorted, hperm, hlast, -, hequal, hnone⟩ :=
    hits_of_one_kind .insertion (r := falling) rfl hkind
  refine ⟨⟨rfl, hkind⟩, sorted, hsorted, hperm, hlast, ?_, ?_⟩
  · rw [hequal]
    decide +kernel
  · rw [hnone]
    decide +kernel

end FacetedSearch.Store
