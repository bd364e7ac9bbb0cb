import FacetedSearch.Criteria.Basic
import FacetedSearch.Document.Path

/-!
# `FacetedSearch.Document.Sorting`: the order of documents

Documents are ordered by the scalar at a field. Documents without one
come last, whichever the direction. Scalars of different kinds count as
equal.

Counting as equal in this way is not transitive, so such a comparison does
not order every list. What sorting makes of one that it does not order is
left open: `Sorter` is any way of sorting that is stable on the lists that
a comparison orders (`Consistent`), and returns some rearrangement of the
others or gives up on them. `Sorter.insertion`, which never gives up, is the
one that is run with; `Sorter.cautious` gives up whenever it may.
-/

set_option autoImplicit false

namespace FacetedSearch

/-! ### Ways of sorting -/

/-- A comparison orders the items of a list, up to ties: with its sides
exchanged it is reversed, and it is transitive. -/
structure Consistent {α : Type} (cmp : α → α → Ordering) (as : List α) : Prop where
  swap : ∀ a ∈ as, ∀ b ∈ as, cmp b a = (cmp a b).swap
  trans : ∀ a ∈ as, ∀ b ∈ as, ∀ c ∈ as, cmp a b ≠ .gt → cmp b c ≠ .gt → cmp a c ≠ .gt

/-- No item of the second list comes before one that it belongs after, and
items that tie with one another stand in it as they do in the first list. -/
structure StablySorted {α : Type} (cmp : α → α → Ordering) (as bs : List α) : Prop where
  pairwise : bs.Pairwise fun a b => cmp a b ≠ .gt
  filter_eq : ∀ p : α → Bool,
    (∀ a ∈ as, ∀ b ∈ as, p a = true → p b = true → cmp a b = .eq) → bs.filter p = as.filter p

/-- A way of sorting. What comes of a list depends on the comparison and the
list alone. It is a rearrangement of the list, or nothing (`none`) if the
comparison does not order the list and sorting gives up on it. -/
structure Sorter (α : Type) where
  sort : (α → α → Ordering) → List α → Option (List α)
  perm : ∀ {cmp as bs}, sort cmp as = some bs → bs.Perm as
  stable : ∀ {cmp as}, Consistent cmp as → ∃ bs, sort cmp as = some bs ∧ StablySorted cmp as bs

namespace Consistent

variable {α : Type} {cmp : α → α → Ordering} {as bs : List α}

instance (cmp : α → α → Ordering) (as : List α) : Decidable (Consistent cmp as) :=
  decidable_of_iff
    ((∀ a ∈ as, ∀ b ∈ as, cmp b a = (cmp a b).swap) ∧
      ∀ a ∈ as, ∀ b ∈ as, ∀ c ∈ as, cmp a b ≠ .gt → cmp b c ≠ .gt → cmp a c ≠ .gt)
    ⟨fun h => ⟨h.1, h.2⟩, fun h => ⟨h.swap, h.trans⟩⟩

theorem of_subset (h : Consistent cmp as) (hsub : ∀ b ∈ bs, b ∈ as) : Consistent cmp bs where
  swap a ha b hb := h.swap a (hsub a ha) b (hsub b hb)
  trans a ha b hb c hc := h.trans a (hsub a ha) b (hsub b hb) c (hsub c hc)

end Consistent

/-! ### Sorting by insertion -/

namespace Sorter

variable {α : Type}

/-- Puts an item into a list that falls, behind the items that it comes before. -/
def insert (cmp : α → α → Ordering) (x : α) : List α → List α
  | [] => [x]
  | y :: ys => if cmp x y = .lt then y :: insert cmp x ys else x :: y :: ys

/-- The items of a list in falling order, put in one after the other from the last one on. -/
def falling (cmp : α → α → Ordering) (as : List α) : List α := as.foldr (insert cmp) []

section
variable {cmp : α → α → Ordering} {x : α} {as ys : List α}

theorem perm_insert (cmp : α → α → Ordering) (x : α) (ys : List α) :
    (insert cmp x ys).Perm (x :: ys) := by
  induction ys with
  | nil => exact .refl _
  | cons y ys ih =>
    rw [insert]
    split
    · exact (ih.cons y).trans (.swap x y ys)
    · exact .refl _

theorem perm_falling (cmp : α → α → Ordering) (as : List α) : (falling cmp as).Perm as := by
  induction as with
  | nil => exact .refl _
  | cons a as ih => exact (perm_insert cmp a _).trans (ih.cons a)

theorem pairwise_insert (h : Consistent cmp (x :: ys))
    (hys : ys.Pairwise fun a b => cmp b a ≠ .gt) :
    (insert cmp x ys).Pairwise fun a b => cmp b a ≠ .gt := by
  induction ys with
  | nil => exact List.pairwise_singleton _ _
  | cons y ys ih =>
    have ⟨hy, hrest⟩ := List.pairwise_cons.mp hys
    rw [insert]
    split
    · rename_i hxy
      have hsub : ∀ b ∈ x :: ys, b ∈ x :: y :: ys := fun b hb =>
        (List.mem_cons.mp hb).elim (· ▸ List.mem_cons_self)
          fun hb => List.mem_cons_of_mem _ (List.mem_cons_of_mem _ hb)
      refine List.pairwise_cons.mpr ⟨fun b hb => ?_, ih (h.of_subset hsub) hrest⟩
      rcases List.mem_cons.mp ((perm_insert cmp x ys).mem_iff.mp hb) with rfl | hb
      · rw [hxy]
        nofun
      · exact hy b hb
    · rename_i hxy
      have hx : x ∈ x :: y :: ys := List.mem_cons_self
      have hy' : y ∈ x :: y :: ys := List.mem_cons_of_mem _ List.mem_cons_self
      have hyx : cmp y x ≠ .gt := by
        rw [h.swap x hx y hy']
        cases hcmp : cmp x y <;> simp_all
      refine List.pairwise_cons.mpr ⟨fun b hb => ?_, hys⟩
      rcases List.mem_cons.mp hb with rfl | hb
      · exact hyx
      · exact h.trans b (List.mem_cons_of_mem _ (List.mem_cons_of_mem _ hb)) y hy' x hx
          (hy b hb) hyx

theorem pairwise_falling (h : Consistent cmp as) :
    (falling cmp as).Pairwise fun a b => cmp b a ≠ .gt := by
  induction as with
  | nil => exact .nil
  | cons a as ih =>
    have htail := ih (h.of_subset fun _ => List.mem_cons_of_mem a)
    refine pairwise_insert (h.of_subset fun b hb => ?_) htail
    exact ((perm_falling cmp as).cons a).mem_iff.mp hb

/-- An item does not get past one that it ties with. -/
theorem filter_insert {p : α → Bool} (hp : ∀ y ∈ ys, p x = true → p y = true → cmp x y = .eq) :
    (insert cmp x ys).filter p = (x :: ys).filter p := by
  induction ys with
  | nil => rfl
  | cons y ys ih =>
    rw [insert]
    split
    · rename_i hxy
      have ih := ih fun b hb => hp b (List.mem_cons_of_mem _ hb)
      cases hpx : p x with
      | false => simp only [List.filter_cons, hpx, ih, Bool.false_eq_true, if_false]
      | true =>
        -- What the item gets past is filtered out.
        have hpy : p y = false := by
          refine Bool.eq_false_iff.mpr fun hpy => ?_
          rw [hp y List.mem_cons_self hpx hpy] at hxy
          cases hxy
        simp only [List.filter_cons, hpx, hpy, ih, Bool.false_eq_true, if_false, if_true]
    · rfl

theorem filter_falling {p : α → Bool}
    (hp : ∀ a ∈ as, ∀ b ∈ as, p a = true → p b = true → cmp a b = .eq) :
    (falling cmp as).filter p = as.filter p := by
  induction as with
  | nil => rfl
  | cons a as ih =>
    have htail := ih fun b hb c hc =>
      hp b (List.mem_cons_of_mem a hb) c (List.mem_cons_of_mem a hc)
    have hinsert : (insert cmp a (falling cmp as)).filter p = (a :: falling cmp as).filter p :=
      filter_insert fun y hy => hp a List.mem_cons_self y
        (List.mem_cons_of_mem a ((perm_falling cmp as).mem_iff.mp hy))
    show (insert cmp a (falling cmp as)).filter p = _
    rw [hinsert, List.filter_cons, List.filter_cons, htail]

end

/-- Puts the items of a list into place one after the other, from the first
one on. It never gives up. -/
def insertion : Sorter α where
  sort cmp as := some (falling cmp as.reverse).reverse
  perm h := by
    cases h
    exact (List.reverse_perm _).trans ((perm_falling _ _).trans (List.reverse_perm _))
  stable {cmp as} h := by
    have hmem {a : α} : a ∈ as.reverse → a ∈ as := List.mem_reverse.mp
    refine ⟨_, rfl, ?_, fun p hp => ?_⟩
    · exact List.pairwise_reverse.mpr (pairwise_falling (h.of_subset fun _ => hmem))
    · rw [List.filter_reverse, filter_falling fun a ha b hb => hp a (hmem ha) b (hmem hb),
        List.filter_reverse, List.reverse_reverse]

instance : Inhabited (Sorter α) := ⟨insertion⟩

end Sorter

/-! ### Documents -/

namespace SortBy

/-- The order of two scalars in the direction asked for. -/
def compareScalars (s : SortBy) (a b : Scalar) : Ordering :=
  let order := (a.compare? b).getD .eq
  match s.direction with
  | .ascending => order
  | .descending => order.swap

/-- The order of two documents. -/
def compare (s : SortBy) (a b : Document) : Ordering :=
  match a.scalar? s.field, b.scalar? s.field with
  | some a, some b => s.compareScalars a b
  | some _, none => .lt
  | none, some _ => .gt
  | none, none => .eq

/-- Sorts whatever has a document. -/
def sort {α : Type} (s : SortBy) (sorter : Sorter α) (document : α → Document) (as : List α) :
    Option (List α) :=
  sorter.sort (fun a b => s.compare (document a) (document b)) as

end SortBy

end FacetedSearch
