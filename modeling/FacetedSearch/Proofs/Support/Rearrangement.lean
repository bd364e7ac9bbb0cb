import FacetedSearch.Proofs.Support.Traversal
import Mathlib.Data.List.Perm.Basic

/-!
# `FacetedSearch.Proofs.Support.Rearrangement`: lists equal up to order

`Rearranged R as bs` says that two lists have related items, paired off
one to one and in any order. With equality for `R` it is `List.Perm`; with
an equivalence of queries it is what changing the order of keys does to
the lists of a filter and, in the end, to the lists of its query.

Statements about all or some of the items do not see the difference
(`forall_mem_iff`, `exists_mem_iff`), joining lists keeps it (`append`,
`flatMap`), and a run over one list has a rearranged run over the other
(`exists_forall₂`).
-/

set_option autoImplicit false

namespace FacetedSearch

variable {α β γ δ : Type}

/-- The items of the second list are related to those of the first one, one
to one and in any order. -/
def Rearranged (R : α → β → Prop) (as : List α) (bs : List β) : Prop :=
  ∃ cs, List.Forall₂ R as cs ∧ cs.Perm bs

namespace Rearranged

variable {R : α → β → Prop} {as as' : List α} {bs bs' : List β}

theorem of_forall₂ (h : List.Forall₂ R as bs) : Rearranged R as bs := ⟨bs, h, .refl bs⟩

theorem of_perm {R : α → α → Prop} (hR : ∀ a, R a a) (h : as.Perm as') : Rearranged R as as' :=
  ⟨as, List.forall₂_same.mpr fun a _ => hR a, h⟩

/-- Related items can be replaced and put in order in either order. -/
theorem flip (h : Rearranged R as bs) : Rearranged (fun b a => R a b) bs as := by
  obtain ⟨cs, hcs, hperm⟩ := h
  obtain ⟨ds, hds, hperm'⟩ := List.perm_comp_forall₂ hperm.symm hcs.flip
  exact ⟨ds, hds, hperm'⟩

theorem imp {S : α → β → Prop} (h : Rearranged R as bs) (hRS : ∀ a b, R a b → S a b) :
    Rearranged S as bs := by
  obtain ⟨cs, hcs, hperm⟩ := h
  exact ⟨cs, hcs.imp hRS, hperm⟩

theorem append (h : Rearranged R as bs) (h' : Rearranged R as' bs') :
    Rearranged R (as ++ as') (bs ++ bs') := by
  obtain ⟨cs, hcs, hperm⟩ := h
  obtain ⟨cs', hcs', hperm'⟩ := h'
  exact ⟨cs ++ cs', List.rel_append hcs hcs', hperm.append hperm'⟩

theorem flatMap {S : γ → δ → Prop} {f : α → List γ} {g : β → List δ} (h : Rearranged R as bs)
    (hfg : ∀ a b, R a b → Rearranged S (f a) (g b)) :
    Rearranged S (as.flatMap f) (bs.flatMap g) := by
  obtain ⟨cs, hcs, hperm⟩ := h
  have hitems : Rearranged S (as.flatMap f) (cs.flatMap g) := by
    clear hperm
    induction hcs with
    | nil => exact of_forall₂ .nil
    | cons hac _ ih => exact (hfg _ _ hac).append ih
  obtain ⟨ds, hds, hperm'⟩ := hitems
  exact ⟨ds, hds, hperm'.trans (hperm.flatMap_right g)⟩

theorem flatten {ass : List (List α)} {bss : List (List β)}
    (h : Rearranged (Rearranged R) ass bss) : Rearranged R ass.flatten bss.flatten := by
  rw [← List.flatMap_id, ← List.flatMap_id]
  exact h.flatMap fun _ _ h => h

/-- Every item of the second list is related to one of the first list. -/
theorem exists_of_mem_right (h : Rearranged R as bs) {b : β} (hb : b ∈ bs) : ∃ a ∈ as, R a b := by
  obtain ⟨cs, hcs, hperm⟩ := h
  replace hb := hperm.mem_iff.mpr hb
  clear hperm
  induction hcs with
  | nil => cases hb
  | cons hac _ ih =>
      rw [List.exists_mem_cons_iff]
      cases hb with
      | head => exact .inl hac
      | tail _ hb => exact .inr (ih hb)

/-- Rearranged lists satisfy related statements about all of their items. -/
theorem forall_mem_iff {P : α → Prop} {Q : β → Prop} (h : Rearranged R as bs)
    (hR : ∀ a ∈ as, ∀ b, R a b → (P a ↔ Q b)) : (∀ a ∈ as, P a) ↔ ∀ b ∈ bs, Q b := by
  obtain ⟨cs, hcs, hperm⟩ := h
  simp only [← hperm.mem_iff]
  exact forall_mem_iff_of_forall₂ (forall₂_imp_of_mem hcs hR)

/-- Rearranged lists satisfy related statements about one of their items. -/
theorem exists_mem_iff {P : α → Prop} {Q : β → Prop} (h : Rearranged R as bs)
    (hR : ∀ a ∈ as, ∀ b, R a b → (P a ↔ Q b)) : (∃ a ∈ as, P a) ↔ ∃ b ∈ bs, Q b := by
  obtain ⟨cs, hcs, hperm⟩ := h
  simp only [← hperm.mem_iff]
  exact exists_mem_iff_of_forall₂ (forall₂_imp_of_mem hcs hR)

theorem eq_nil_iff (h : Rearranged R as bs) : as = [] ↔ bs = [] := by
  obtain ⟨cs, hcs, hperm⟩ := h
  rw [← List.length_eq_zero_iff, hcs.length_eq, hperm.length_eq, List.length_eq_zero_iff]

theorem singleton_iff {a : α} : Rearranged R [a] bs ↔ ∃ b, bs = [b] ∧ R a b := by
  constructor
  · rintro ⟨cs, hcs, hperm⟩
    cases hcs with
    | cons hab htail =>
        cases htail
        exact ⟨_, (List.singleton_perm.mp hperm).symm, hab⟩
  · rintro ⟨b, rfl, hab⟩
    exact of_forall₂ (.cons hab .nil)

/-- A list whose items are each related to themselves alone is permuted. -/
theorem perm_of_eq {R : α → α → Prop} (h : Rearranged R as as')
    (hR : ∀ a ∈ as, ∀ b, R a b → b = a) : as.Perm as' := by
  obtain ⟨cs, hcs, hperm⟩ := h
  have heq : List.Forall₂ Eq as cs :=
    forall₂_imp_of_mem hcs fun a ha b hab => (hR a ha b hab).symm
  rw [List.forall₂_eq_eq_eq] at heq
  rwa [heq]

/-- A run over a list has a rearranged run over a rearranged list, if each
step has one. -/
theorem exists_forall₂ {P : α → γ → Prop} {Q : β → δ → Prop} {S : γ → δ → Prop} {cs : List γ}
    (h : Rearranged R as bs) (hcs : List.Forall₂ P as cs)
    (hstep : ∀ a ∈ as, ∀ b c, R a b → P a c → ∃ d, Q b d ∧ S c d) :
    ∃ ds, List.Forall₂ Q bs ds ∧ Rearranged S cs ds := by
  obtain ⟨bs', hbs', hperm⟩ := h
  have hitems : ∃ ds', List.Forall₂ Q bs' ds' ∧ List.Forall₂ S cs ds' := by
    clear hperm
    induction hbs' generalizing cs with
    | nil =>
        cases hcs
        exact ⟨[], .nil, .nil⟩
    | cons hab _ ih =>
        rw [List.forall_mem_cons] at hstep
        cases hcs with
        | cons hac hcs =>
            obtain ⟨d, hbd, hcd⟩ := hstep.1 _ _ hab hac
            obtain ⟨ds', hds', hcs'⟩ := ih hcs hstep.2
            exact ⟨d :: ds', .cons hbd hds', .cons hcd hcs'⟩
  obtain ⟨ds', hds', hcs'⟩ := hitems
  obtain ⟨ds, hds, hperm'⟩ := List.perm_comp_forall₂ hperm.symm hds'
  exact ⟨ds, hds, ds', hcs', hperm'.symm⟩

end Rearranged

end FacetedSearch
