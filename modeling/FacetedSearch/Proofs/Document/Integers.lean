import FacetedSearch.Proofs.Document.Order
import FacetedSearch.Proofs.Query.Selection
import FacetedSearch.Store
import Mathlib

/-!
# `FacetedSearch.Proofs.Document.Integers`: how integers in documents compare

Integers are compared as the binary64 numbers nearest to them, with integers
as well as with other numbers. Two integers that are rounded to one number
are `Alike`: conditions take them for equal, and sorting does not tell them
apart. Up to `2⁵³` an integer is only like itself (`alike_iff_eq`).

Rounding keeps the order, so this is all that happens. A strict bound is
missed by what is like it, a bound that may be reached is met by it, and a
larger integer comes before a smaller one only if they are alike
(`Document.integers_rounded`).
-/

set_option autoImplicit false

namespace FacetedSearch

open Binary64 (nearestInteger nearestInteger_eq_self nearestInteger_mono compare?_ofInt_nearest)

namespace Scalar

/-- Two integers with the same nearest number. -/
def Alike (n b : Int64) : Prop := nearestInteger n.toInt = nearestInteger b.toInt

instance (n b : Int64) : Decidable (Alike n b) := inferInstanceAs (Decidable (_ = _))

variable {n b : Int64}

theorem alike_comm : Alike n b ↔ Alike b n := eq_comm

/-- Integers that a number has exactly are not taken for each other. -/
theorem alike_iff_eq (hn : n.toInt.natAbs ≤ 2 ^ 53) (hb : b.toInt.natAbs ≤ 2 ^ 53) :
    Alike n b ↔ n = b := by
  rw [Alike, nearestInteger_eq_self hn, nearestInteger_eq_self hb, Int64.toInt_inj]

/-- The larger number belongs to the larger integer. -/
theorem nearestInteger_lt_iff :
    nearestInteger n.toInt < nearestInteger b.toInt ↔ n < b ∧ ¬Alike n b := by
  rw [Int64.lt_iff_toInt_lt]
  constructor
  · intro h
    exact ⟨nearestInteger_mono.reflect_lt h, h.ne⟩
  · intro ⟨hlt, hne⟩
    exact lt_of_le_of_ne (nearestInteger_mono hlt.le) hne

theorem nearestInteger_le_iff :
    nearestInteger n.toInt ≤ nearestInteger b.toInt ↔ n ≤ b ∨ Alike n b := by
  rw [le_iff_lt_or_eq, nearestInteger_lt_iff]
  constructor
  · intro h
    exact h.imp (fun h => Int64.le_of_lt h.1) id
  · intro h
    by_cases halike : Alike n b
    · exact .inr halike
    · have hle := h.resolve_right halike
      have hne : n ≠ b := by
        rintro rfl
        exact halike rfl
      exact .inl ⟨Int64.lt_of_le_of_ne hle hne, halike⟩

theorem compare?_integer :
    (integer n).compare? (integer b) =
      some (compare (nearestInteger n.toInt) (nearestInteger b.toInt)) :=
  compare?_ofInt_nearest (natAbs_toInt_le n) (natAbs_toInt_le b)

theorem sameValue_integer_iff : (integer n).sameValue (integer b) = true ↔ Alike n b := by
  rw [sameValue_iff_compare?, compare?_integer, Option.some_inj, compare_eq_iff_eq, Alike]

theorem ofJson?_integer : ofJson? (.integer n.toInt) = some (integer n) := by
  have hlow := n.le_toInt
  have hhigh := n.toInt_lt
  rw [ofJson?, if_pos (by omega), Int64.ofInt_toInt]

end Scalar

open Scalar (Alike)

/-! ### Conditions -/

namespace Query

variable {doc : Document} {field : String} {n : Int64}

theorem scalars_integer (h : doc.find? field = some (.integer n.toInt)) :
    doc.scalars field = [.integer n] := by
  have hleaves : doc.leaves field = [.integer n.toInt] := by rw [Document.leaves, h]
  rw [Document.scalars, hleaves, List.filterMap_cons_some Scalar.ofJson?_integer,
    List.filterMap_nil]

theorem selects_term_integer_iff (h : doc.find? field = some (.integer n.toInt)) {b : Int64} :
    (Query.term field (.integer b)).selects doc = true ↔ Alike n b := by
  rw [selects_term_iff, scalars_integer h]
  simp [Scalar.sameValue_integer_iff]

theorem selects_terms_integer_iff (h : doc.find? field = some (.integer n.toInt))
    {bs : List Int64} :
    (Query.terms field (bs.map .integer)).selects doc = true ↔ ∃ b ∈ bs, Alike n b := by
  rw [selects_terms_iff, scalars_integer h]
  simp [Scalar.sameValue_integer_iff]

theorem selects_range_integer_iff (h : doc.find? field = some (.integer n.toInt))
    {bounds : Bounds} :
    (Query.range field bounds).selects doc = true ↔ bounds.admits (.integer n) = true := by
  rw [selects_range_iff, scalars_integer h]
  simp

end Query

section
variable {n b : Int64}

theorem meets_gt_integer_iff :
    meets (.integer n) Ordering.isGT (some (.integer b)) = true ↔ b < n ∧ ¬Alike n b := by
  rw [meets, Scalar.compare?_integer, Option.any_some, Ordering.isGT_iff_eq_gt, compare_gt_iff_gt,
    Scalar.nearestInteger_lt_iff, Scalar.alike_comm]

theorem meets_gte_integer_iff :
    meets (.integer n) Ordering.isGE (some (.integer b)) = true ↔ b ≤ n ∨ Alike n b := by
  rw [meets, Scalar.compare?_integer, Option.any_some, Ordering.isGE_iff_ne_lt, ← ne_eq,
    compare_ge_iff_ge, Scalar.nearestInteger_le_iff, Scalar.alike_comm]

theorem meets_lt_integer_iff :
    meets (.integer n) Ordering.isLT (some (.integer b)) = true ↔ n < b ∧ ¬Alike n b := by
  rw [meets, Scalar.compare?_integer, Option.any_some, Ordering.isLT_iff_eq_lt, compare_lt_iff_lt,
    Scalar.nearestInteger_lt_iff]

theorem meets_lte_integer_iff :
    meets (.integer n) Ordering.isLE (some (.integer b)) = true ↔ n ≤ b ∨ Alike n b := by
  rw [meets, Scalar.compare?_integer, Option.any_some, Ordering.isLE_iff_ne_gt, ← ne_eq,
    compare_le_iff_le, Scalar.nearestInteger_le_iff]

end

/-! ### Sorting -/

namespace Document

/-- The field has an integer for its value, or no scalar at all. -/
def HasInteger (doc : Document) (field : String) : Prop :=
  ∀ v, doc.scalar? field = some v → ∃ n, v = .integer n

/-- Where a document is sorted to: by the number nearest to its integer, or last. -/
def rank (field : String) (doc : Document) : WithTop Int :=
  match doc.scalar? field with
  | some (.integer n) => nearestInteger n.toInt
  | _ => ⊤

theorem rank_of_integer {doc : Document} {field : String} {n : Int64}
    (h : doc.scalar? field = some (.integer n)) :
    doc.rank field = nearestInteger n.toInt := by
  rw [rank, h]

/-- Documents with integers are in order when their ranks are. -/
theorem compare_ne_gt_iff {field : String} {a b : Document} (ha : a.HasInteger field)
    (hb : b.HasInteger field) :
    SortBy.compare ⟨field, .ascending⟩ a b ≠ .gt ↔ a.rank field ≤ b.rank field := by
  rw [SortBy.compare, rank, rank]
  cases hva : a.scalar? field with
  | none => cases hvb : b.scalar? field with
    | none => simp
    | some w =>
        obtain ⟨m, rfl⟩ := hb w hvb
        simp
  | some v =>
      obtain ⟨n, rfl⟩ := ha v hva
      cases hvb : b.scalar? field with
      | none => simp
      | some w =>
          obtain ⟨m, rfl⟩ := hb w hvb
          simp only [SortBy.compareScalars, Scalar.compare?_integer, Option.getD_some,
            WithTop.coe_le_coe]
          exact compare_le_iff_le

end Document

/-- Sorting documents with integers comes back, and puts a larger integer
before a smaller one only if they are alike. -/
theorem SortBy.exists_sort_integers {α : Type} (sorter : Sorter α) {document : α → Document}
    {field : String} {as : List α} (h : ∀ a ∈ as, (document a).HasInteger field) :
    ∃ bs, SortBy.sort ⟨field, .ascending⟩ sorter document as = some bs ∧
      bs.Pairwise fun a b => ∀ n m, (document a).scalar? field = some (.integer n) →
        (document b).scalar? field = some (.integer m) → n ≤ m ∨ Alike n m := by
  -- The documents are ordered as their ranks are.
  have hconsistent : Consistent
      (fun a b => SortBy.compare ⟨field, .ascending⟩ (document a) (document b)) as := by
    refine ⟨fun a _ b _ => compare_swap _ _ _, fun a ha b hb c hc => ?_⟩
    rw [Document.compare_ne_gt_iff (h a ha) (h b hb), Document.compare_ne_gt_iff (h b hb) (h c hc),
      Document.compare_ne_gt_iff (h a ha) (h c hc)]
    exact le_trans
  obtain ⟨bs, hbs, hsorted⟩ := sorter.stable hconsistent
  have hmem {b : α} : b ∈ bs → b ∈ as := (sorter.perm hbs).mem_iff.mp
  refine ⟨bs, hbs, hsorted.pairwise.imp_of_mem fun {a b} ha hb hab n m hn hm => ?_⟩
  rw [Document.compare_ne_gt_iff (h a (hmem ha)) (h b (hmem hb)), Document.rank_of_integer hn,
    Document.rank_of_integer hm, WithTop.coe_le_coe, Scalar.nearestInteger_le_iff] at hab
  exact hab

/-- **Integers compare as the numbers nearest to them.** In every condition on
a field with the integer `n`, and in sorting, what is like `n` counts as equal
to it. All other integers, and all integers up to `2⁵³`, compare as they are.
Sorting by a field with integers always comes back. -/
theorem Document.integers_rounded {doc : Document} {field : String} {n : Int64}
    (h : doc.find? field = some (.integer n.toInt)) (b : Int64) (bs : List Int64)
    (sorter : Sorter Stored) {as : List Stored} (has : ∀ a ∈ as, a.document.HasInteger field) :
    ((Query.term field (.integer b)).selects doc = true ↔ Alike n b) ∧
      ((Query.terms field (bs.map .integer)).selects doc = true ↔ ∃ b ∈ bs, Alike n b) ∧
      ((Query.range field { gt := some (.integer b) }).selects doc = true ↔ b < n ∧ ¬Alike n b) ∧
      ((Query.range field { gte := some (.integer b) }).selects doc = true ↔ b ≤ n ∨ Alike n b) ∧
      ((Query.range field { lt := some (.integer b) }).selects doc = true ↔ n < b ∧ ¬Alike n b) ∧
      ((Query.range field { lte := some (.integer b) }).selects doc = true ↔ n ≤ b ∨ Alike n b) ∧
      (∃ sorted, SortBy.sort ⟨field, .ascending⟩ sorter Stored.document as = some sorted ∧
        sorted.Perm as ∧ sorted.Pairwise fun a a' => ∀ m m',
          a.document.scalar? field = some (.integer m) →
          a'.document.scalar? field = some (.integer m') → m ≤ m' ∨ Alike m m') ∧
      (n.toInt.natAbs ≤ 2 ^ 53 → b.toInt.natAbs ≤ 2 ^ 53 → (Alike n b ↔ n = b)) := by
  obtain ⟨sorted, hsort, hsorted⟩ := SortBy.exists_sort_integers sorter has
  refine ⟨Query.selects_term_integer_iff h, Query.selects_terms_integer_iff h, ?_, ?_, ?_, ?_,
    ⟨sorted, hsort, sorter.perm hsort, hsorted⟩, Scalar.alike_iff_eq⟩
  · rw [Query.selects_range_integer_iff h, ← meets_gt_integer_iff]
    simp [Bounds.admits, meets]
  · rw [Query.selects_range_integer_iff h, ← meets_gte_integer_iff]
    simp [Bounds.admits, meets]
  · rw [Query.selects_range_integer_iff h, ← meets_lt_integer_iff]
    simp [Bounds.admits, meets]
  · rw [Query.selects_range_integer_iff h, ← meets_lte_integer_iff]
    simp [Bounds.admits, meets]

/-- Two records with consecutive numbers, the larger one first. -/
def neighbours : List Stored :=
  [⟨"1", [("n", .integer 0x20000000000001)]⟩, ⟨"2", [("n", .integer 0x20000000000000)]⟩]

theorem Document.integers_rounded_neighbours :
    let doc : Document := [("n", .integer 0x20000000000001)]
    doc.find? "n" = some (.integer (0x20000000000001 : Int64).toInt) ∧
      (∀ a ∈ neighbours, a.document.HasInteger "n") ∧
      (Query.term "n" (.integer 0x20000000000000)).selects doc = true ∧
      ¬(Query.terms "n" [.integer 1, .integer 0x20000000000002]).selects doc = true ∧
      ¬(Query.range "n" { gt := some (.integer 0x20000000000000) }).selects doc = true ∧
      (Query.range "n" { gte := some (.integer 0x20000000000000) }).selects doc = true := by
  intro doc
  have hfind : doc.find? "n" = some (.integer (0x20000000000001 : Int64).toInt) := rfl
  have hintegers : ∀ a ∈ neighbours, a.document.HasInteger "n" := by
    intro a ha v hv
    simp only [neighbours, List.mem_cons, List.not_mem_nil, or_false] at ha
    rcases ha with rfl | rfl <;> exact ⟨_, (Option.some.inj hv).symm⟩
  have halike : Alike 0x20000000000001 0x20000000000000 := by decide +kernel
  have hother : ¬∃ b ∈ [1, 0x20000000000002], Alike 0x20000000000001 b := by decide +kernel
  obtain ⟨hterm, hterms, hgt, hgte, -⟩ :=
    integers_rounded hfind 0x20000000000000 [1, 0x20000000000002] .insertion hintegers
  exact ⟨hfind, hintegers, hterm.mpr halike, fun h => hother (hterms.mp h),
    fun h => (hgt.mp h).2 halike, hgte.mpr (.inr halike)⟩

/-- A larger integer can equal a smaller one, not exceed it, and be sorted before it. -/
theorem Document.integers_taken_for_equal :
    (0x20000000000000 : Int64) < 0x20000000000001 ∧
    (neighbours.map fun a => a.document.scalar? "n") =
      [some (.integer 0x20000000000001), some (.integer 0x20000000000000)] ∧
    (neighbours.map fun a => (Query.term "n" (.integer 0x20000000000000)).selects a.document) =
      [true, true] ∧
    (neighbours.map fun a =>
      (Query.range "n" { gt := some (.integer 0x20000000000000) }).selects a.document) =
      [false, false] ∧
    ∀ sorter : Sorter Stored,
      SortBy.sort ⟨"n", .ascending⟩ sorter Stored.document neighbours = some neighbours := by
  refine ⟨by decide, rfl, by decide +kernel, by decide +kernel, fun sorter => ?_⟩
  -- The two records tie, so they stay in their order.
  have hties : ∀ a ∈ neighbours, ∀ b ∈ neighbours,
      SortBy.compare ⟨"n", .ascending⟩ a.document b.document = .eq := by decide +kernel
  have hconsistent : Consistent
      (fun a b : Stored => SortBy.compare ⟨"n", .ascending⟩ a.document b.document) neighbours := by
    refine ⟨fun a ha b hb => ?_, fun a ha b _ c hc _ _ => ?_⟩
    · rw [hties a ha b hb, hties b hb a ha]
      rfl
    · rw [hties a ha c hc]
      nofun
  obtain ⟨sorted, hsort, hstable⟩ := sorter.stable hconsistent
  have hall := hstable.filter_eq (fun _ => true) fun a ha b hb _ _ => hties a ha b hb
  rw [List.filter_true, List.filter_true] at hall
  rw [SortBy.sort, hsort, hall]

end FacetedSearch
