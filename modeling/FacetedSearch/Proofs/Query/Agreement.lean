import FacetedSearch.Proofs.Query.Selection
import FacetedSearch.Proofs.Support.Rearrangement

/-!
# `FacetedSearch.Proofs.Query.Agreement`: queries that select the same

Queries agree when they select the same documents. Compositions agree
when each slot of one has the queries of the other's slot, up to
agreement and in any order. That is more than selecting the same, and it
is what passes through joining: agreeing compositions can be joined slot
by slot (`append`) and in any order (`concat`), and still agree.

`Clauses.Agrees.bool` leads back to queries.

Joining is the same for every relation of what stands in the slots, also
for one that is not the same in each slot. So it is proved for any such
relation first.
-/

set_option autoImplicit false

namespace FacetedSearch

/-! ### Slots that are related -/

namespace Clauses

variable {α β : Type} {R : Slot → α → β → Prop}

/-- Compositions related slot by slot can be joined, in any order. -/
theorem rearranged_get_concat {as : List (Clauses α)} {bs : List (Clauses β)}
    (h : Rearranged (fun a b => ∀ slot, Rearranged (R slot) (a.get slot) (b.get slot)) as bs)
    (slot : Slot) : Rearranged (R slot) ((concat as).get slot) ((concat bs).get slot) := by
  rw [get_concat, get_concat]
  exact h.flatMap fun _ _ hab => hab slot

theorem rearranged_get_only {slot : Slot} {as : List α} {bs : List β}
    (h : Rearranged (R slot) as bs) (slot' : Slot) :
    Rearranged (R slot') ((only slot as).get slot') ((only slot bs).get slot') := by
  rw [get_only, get_only]
  by_cases hslot : slot' = slot
  · subst hslot
    rw [if_pos rfl, if_pos rfl]
    exact h
  · rw [if_neg hslot, if_neg hslot]
    exact .of_forall₂ .nil

end Clauses

/-! ### Queries that agree -/

/-- Both queries select the same documents. -/
def Query.Agrees (q r : Query) : Prop := ∀ doc, q.selects doc = r.selects doc

/-- Slot for slot, the queries of both compositions agree, in any order. -/
def Clauses.Agrees (a b : Clauses Query) : Prop :=
  ∀ slot, Rearranged Query.Agrees (a.get slot) (b.get slot)

theorem Query.Agrees.refl (q : Query) : q.Agrees q := fun _ => rfl

namespace Clauses.Agrees

variable {a a' b b' : Clauses Query}

theorem refl (a : Clauses Query) : a.Agrees a := fun _ => .of_perm Query.Agrees.refl (.refl _)

theorem append (h : a.Agrees b) (h' : a'.Agrees b') : (a ++ a').Agrees (b ++ b') := by
  intro slot
  rw [get_append, get_append]
  exact (h slot).append (h' slot)

theorem concat {as bs : List (Clauses Query)} (h : Rearranged Clauses.Agrees as bs) :
    (Clauses.concat as).Agrees (Clauses.concat bs) :=
  rearranged_get_concat h

theorem only (slot : Slot) {qs rs : List Query} (h : Rearranged Query.Agrees qs rs) :
    (Clauses.only slot qs).Agrees (Clauses.only slot rs) :=
  rearranged_get_only (R := fun _ => Query.Agrees) h

/-- Compositions that agree select the same documents. -/
theorem bool (h : a.Agrees b) : (Query.bool a).Agrees (.bool b) := by
  intro doc
  have hiff (q r : Query) (hqr : q.Agrees r) : q.selects doc = true ↔ r.selects doc = true := by
    rw [hqr doc]
  have hrequired : Rearranged Query.Agrees (a.must ++ a.filter) (b.must ++ b.filter) :=
    (h .must).append (h .filter)
  have hall := hrequired.forall_mem_iff fun q _ r => hiff q r
  have hexcluded := (h .mustNot).exists_mem_iff fun q _ r => hiff q r
  have hsome := (h .should).exists_mem_iff fun q _ r => hiff q r
  have hnone : a.should = [] ↔ b.should = [] := (h .should).eq_nil_iff
  rw [Bool.eq_iff_iff, Query.selects_bool_iff, Query.selects_bool_iff]
  simp only [get] at hexcluded hsome
  rw [hall, hexcluded, hsome, hrequired.eq_nil_iff, ne_eq, ne_eq, hnone]

end Clauses.Agrees

end FacetedSearch
