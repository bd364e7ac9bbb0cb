import FacetedSearch.Query.Basic
import Mathlib.Data.List.Forall2

/-!
# `FacetedSearch.Proofs.Support.Traversal`: values taken apart item by item

Filters and queries are trees whose nodes hold lists, and reading one is
a run over the items of such a list that stops at the first item that is
refused. Two kinds of facts about such runs are used everywhere:

* `mapM_eq_ok_iff`: a run over a list succeeds exactly when the step for
  every item does, and its result is the list of their results.
  `exists_mapM_eq_ok_iff` only asks whether it succeeds.
* `Json.induction` and `Query.induction`: a statement about all values
  follows when each value has it as soon as its parts have.
-/

set_option autoImplicit false

namespace FacetedSearch

/-! ### Runs that succeed -/

section
variable {α β ε : Type}

@[simp] theorem pure_eq_ok_iff {a b : α} : (pure a : Except ε α) = .ok b ↔ a = b := by
  show (Except.ok a : Except ε α) = .ok b ↔ a = b
  rw [Except.ok.injEq]

/-- A run of two steps succeeds when the first one does and the second
one does with its result. -/
@[simp] theorem bind_eq_ok_iff {x : Except ε α} {f : α → Except ε β} {b : β} :
    (x >>= f) = .ok b ↔ ∃ a, x = .ok a ∧ f a = .ok b := by
  cases x with
  | error e => simp [bind, Except.bind]
  | ok a => simp [bind, Except.bind]

@[simp] theorem map_eq_ok_iff {x : Except ε α} {f : α → β} {b : β} :
    x.map f = .ok b ↔ ∃ a, x = .ok a ∧ f a = b := by
  cases x with
  | error e => simp [Except.map]
  | ok a => simp [Except.map]

/-- A run whose result is only made into another one succeeds when it
does. -/
theorem bind_pure_eq_ok_iff {x : Except ε α} {f : α → β} {b : β} :
    (x >>= fun a => pure (f a)) = .ok b ↔ ∃ a, x = .ok a ∧ f a = b := by
  rw [bind_eq_ok_iff]
  simp only [pure_eq_ok_iff]

/-- What is done with the result of a run does not make it fail. -/
theorem exists_bind_pure_eq_ok_iff {x : Except ε α} {f : α → β} :
    (∃ b, (x >>= fun a => pure (f a)) = .ok b) ↔ ∃ a, x = .ok a := by
  simp only [bind_pure_eq_ok_iff]
  constructor
  · rintro ⟨_, a, ha, -⟩
    exact ⟨a, ha⟩
  · rintro ⟨a, ha⟩
    exact ⟨f a, a, ha, rfl⟩

/-- A run over a list succeeds with the results of its steps. -/
theorem mapM_eq_ok_iff {f : α → Except ε β} {as : List α} {bs : List β} :
    as.mapM f = .ok bs ↔ List.Forall₂ (fun a b => f a = .ok b) as bs := by
  induction as generalizing bs with
  | nil =>
      rw [List.mapM_nil, pure_eq_ok_iff, List.forall₂_nil_left_iff]
      exact eq_comm
  | cons a as ih =>
      rw [List.mapM_cons, List.forall₂_cons_left_iff]
      constructor
      · intro h
        obtain ⟨b, hb, h⟩ := bind_eq_ok_iff.mp h
        obtain ⟨bs', hbs, h⟩ := bind_eq_ok_iff.mp h
        exact ⟨b, bs', hb, ih.mp hbs, (pure_eq_ok_iff.mp h).symm⟩
      · rintro ⟨b, bs', hb, hbs, rfl⟩
        rw [hb, ih.mpr hbs]
        rfl

/-- A run over a list succeeds exactly when each of its steps does. -/
theorem exists_mapM_eq_ok_iff {f : α → Except ε β} {as : List α} :
    (∃ bs, as.mapM f = .ok bs) ↔ ∀ a ∈ as, ∃ b, f a = .ok b := by
  constructor
  · rintro ⟨bs, h⟩ a ha
    induction mapM_eq_ok_iff.mp h with
    | nil => cases ha
    | cons hb hbs ih =>
        cases ha with
        | head => exact ⟨_, hb⟩
        | tail _ ha => exact ih (mapM_eq_ok_iff.mpr hbs) ha
  · intro h
    induction as with
    | nil => exact ⟨[], rfl⟩
    | cons a as ih =>
        obtain ⟨b, hb⟩ := h a List.mem_cons_self
        obtain ⟨bs, hbs⟩ := ih fun a ha => h a (List.mem_cons_of_mem _ ha)
        exact ⟨b :: bs, mapM_eq_ok_iff.mpr (.cons hb (mapM_eq_ok_iff.mp hbs))⟩

/-- A relation between lists can be weakened item by item, knowing which
item it is about. -/
theorem forall₂_imp_of_mem {R S : α → β → Prop} {as : List α} {bs : List β}
    (h : List.Forall₂ R as bs) (hRS : ∀ a ∈ as, ∀ b, R a b → S a b) : List.Forall₂ S as bs :=
  ((List.forall₂_and_left as bs).mpr ⟨hRS, h⟩).imp fun _ b hab => hab.1 b hab.2

/-- Related lists satisfy related statements about all of their items. -/
theorem forall_mem_iff_of_forall₂ {P : α → Prop} {Q : β → Prop} {as : List α} {bs : List β}
    (h : List.Forall₂ (fun a b => P a ↔ Q b) as bs) : (∀ a ∈ as, P a) ↔ ∀ b ∈ bs, Q b := by
  induction h with
  | nil => simp
  | cons hab _ ih => rw [List.forall_mem_cons, List.forall_mem_cons, hab, ih]

/-- Related lists satisfy related statements about one of their items. -/
theorem exists_mem_iff_of_forall₂ {P : α → Prop} {Q : β → Prop} {as : List α} {bs : List β}
    (h : List.Forall₂ (fun a b => P a ↔ Q b) as bs) : (∃ a ∈ as, P a) ↔ ∃ b ∈ bs, Q b := by
  induction h with
  | nil => simp
  | cons hab _ ih => rw [List.exists_mem_cons_iff, List.exists_mem_cons_iff, hab, ih]

end

/-! ### Maps without repeated keys -/

namespace Entries

variable {α : Type}

/-- A key is not found when no entry has it. -/
theorem lookup_eq_none_iff {k : String} {es : Entries α} :
    es.lookup k = none ↔ ∀ e ∈ es, e.1 ≠ k := by
  rw [List.lookup_eq_none_iff]
  refine forall₂_congr fun e _ => ?_
  rw [bne_iff_ne, ne_comm]

/-- Without repeated keys, every entry is found under its key. -/
theorem lookup_eq_some_iff {k : String} {v : α} {es : Entries α} (hes : (es.map (·.1)).Nodup) :
    es.lookup k = some v ↔ (k, v) ∈ es := by
  induction es with
  | nil => simp
  | cons e rest ih =>
      obtain ⟨k', v'⟩ := e
      rw [List.map_cons, List.nodup_cons] at hes
      by_cases hk : k = k'
      · subst hk
        have hrest : (k, v) ∉ rest := fun h => hes.1 (List.mem_map.mpr ⟨(k, v), h, rfl⟩)
        simp [hrest, eq_comm]
      · have hb : (k == k') = false := beq_eq_false_iff_ne.mpr hk
        simp [List.lookup_cons, hb, hk, ih hes.2]

/-- A new key is written at the end. -/
theorem put_of_notMem {k : String} (v : α) {es : Entries α} (hk : k ∉ keys es) :
    put k v es = es ++ [(k, v)] := by
  induction es with
  | nil => rfl
  | cons e rest ih =>
      obtain ⟨k', v'⟩ := e
      rw [keys, List.map_cons, List.mem_cons, not_or] at hk
      rw [put, if_neg hk.1, ih hk.2, List.cons_append]

end Entries

/-! ### Induction -/

/-- A statement holds of every JSON value if it holds of the values
without parts, of an array when it holds of the items, and of an object
when it holds of the values of the members. -/
@[elab_as_elim]
theorem Json.induction {motive : Json → Prop} (null : motive .null)
    (bool : ∀ b, motive (.bool b)) (integer : ∀ n, motive (.integer n))
    (float : ∀ x, motive (.float x)) (string : ∀ s, motive (.string s))
    (array : ∀ items, (∀ j ∈ items, motive j) → motive (.array items))
    (object : ∀ members : Entries Json, (∀ m ∈ members, motive m.2) → motive (.object members))
    (j : Json) : motive j := by
  refine @Json.rec motive (fun items => ∀ j ∈ items, motive j)
    (fun members => ∀ m ∈ members, motive m.2) (fun m => motive m.2)
    null bool integer float string array object ?_ ?_ ?_ ?_ ?_ j
  · exact fun j hj => absurd hj List.not_mem_nil
  · exact fun _ _ head tail => List.forall_mem_cons.mpr ⟨head, tail⟩
  · exact fun m hm => absurd hm List.not_mem_nil
  · exact fun _ _ head tail => List.forall_mem_cons.mpr ⟨head, tail⟩
  · exact fun _ _ value => value

/-- A statement holds of every query if it holds of the conditions, and of
a composition when it holds of everything in its slots. -/
@[elab_as_elim]
theorem Query.induction {motive : Query → Prop}
    (term : ∀ field value, motive (.term field value))
    (terms : ∀ field values, motive (.terms field values))
    (text : ∀ field value, motive (.text field value))
    (range : ∀ field bounds, motive (.range field bounds))
    (bool : ∀ c : Clauses Query, (∀ slot, ∀ q ∈ c.get slot, motive q) → motive (.bool c))
    (q : Query) : motive q := by
  refine @Query.rec motive (fun c => ∀ slot, ∀ q ∈ c.get slot, motive q)
    (fun qs => ∀ q ∈ qs, motive q) term terms text range bool ?_ ?_ ?_ q
  · intro must filter should mustNot hmust hfilter hshould hmustNot slot
    cases slot with
    | must => exact hmust
    | filter => exact hfilter
    | should => exact hshould
    | mustNot => exact hmustNot
  · exact fun q hq => absurd hq List.not_mem_nil
  · exact fun _ _ head tail => List.forall_mem_cons.mpr ⟨head, tail⟩

end FacetedSearch
