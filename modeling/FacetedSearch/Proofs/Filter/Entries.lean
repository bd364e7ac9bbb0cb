import FacetedSearch.Criteria.Basic
import FacetedSearch.Proofs.Filter.Composition
import FacetedSearch.Proofs.Filter.Range

/-!
# `FacetedSearch.Proofs.Filter.Entries`: when entries of a filter are read

A filter is compiled entry by entry. What each entry gives is joined, so
that what the filter asks for in a slot is what its entries ask for there
(`mem_get_clauses_iff`).

The maps that stand for a field are told apart by their keys, and one
shape goes before another. `nested_eq_ok_iff` says for each shape when a
map of it is read and what it gives, without the order of the tests.

The free text of criteria is one clause more (`Criteria.textClauses`), so
criteria compile when their filter does (`Criteria.clauses_eq_ok_iff`).
-/

set_option autoImplicit false

namespace FacetedSearch.Filter

variable {s : Settings}

/-! ### Single entries -/

theorem scalars_eq_ok_iff {field : String} {items : List Json} {values : List Scalar} :
    scalars field items = .ok values ↔
      List.Forall₂ (fun j v => Scalar.ofJson? j = some v) items values := by
  simp only [scalars, mapM_eq_ok_iff, scalar_eq_ok_iff]

/-- A map for a field is taken as comparisons, the empty map among them,
as an exclusion, or as flags. -/
theorem nested_eq_ok_iff {name : String} {members : Entries Json} {c : Clauses Query} :
    nested name members = .ok c ↔
      (∃ q, (∀ m ∈ members, Operator.isName m.1 = true) ∧ range name members = .ok q ∧
        .only .must [q] = c) ∨
      (∃ excluded q, members = [("must_not", excluded)] ∧ exclusion name excluded = .ok q ∧
        .only .mustNot [q] = c) ∨
      (∃ qs, members ≠ [] ∧ (∀ m ∈ members, ¬Operator.isName m.1 = true ∧ m.1 ≠ "must_not") ∧
        (members.mapM fun m => flag name m.1 m.2) = .ok qs ∧ .only .must qs = c) := by
  constructor
  · intro h
    by_cases hcond : (members.isEmpty || members.any fun m => Operator.isName m.1) = true
    · -- An operator somewhere, or no key at all: the map was taken as
      -- comparisons, so all of its keys are operators.
      rw [nested, if_pos hcond] at h
      obtain ⟨q, hq, hc⟩ := bind_pure_eq_ok_iff.mp h
      obtain ⟨b, hb, -⟩ := bind_pure_eq_ok_iff.mp hq
      exact .inl ⟨q, fun m hm => (exists_bounds_iff.mp ⟨b, hb⟩ m hm).1, hq, hc⟩
    · rw [nested, if_neg hcond] at h
      rw [Bool.or_eq_true, List.isEmpty_iff, List.any_eq_true, not_or] at hcond
      obtain ⟨hsome, hnames⟩ := hcond
      cases hlookup : members.lookup "must_not" with
      | some excluded =>
          rw [hlookup] at h
          -- The key is there and there is only one.
          rcases members with _ | ⟨m, _ | ⟨m', rest⟩⟩
          · exact absurd rfl hsome
          · obtain ⟨key, j⟩ := m
            have hkeys : ([(key, j)].map (·.1)).Nodup := by simp
            cases List.mem_singleton.mp ((Entries.lookup_eq_some_iff hkeys).mp hlookup)
            obtain ⟨q, hq, hc⟩ := bind_pure_eq_ok_iff.mp h
            exact .inr (.inl ⟨excluded, q, rfl, hq, hc⟩)
          · have hlength : 1 < (m :: m' :: rest).length := by simp
            replace h := (if_pos hlength).symm.trans h
            cases h
      | none =>
          rw [hlookup] at h
          obtain ⟨qs, hqs, hc⟩ := bind_pure_eq_ok_iff.mp h
          have hkeys : ∀ m ∈ members, ¬Operator.isName m.1 = true ∧ m.1 ≠ "must_not" :=
            fun m hm => ⟨fun hname => hnames ⟨m, hm, hname⟩,
              Entries.lookup_eq_none_iff.mp hlookup m hm⟩
          exact .inr (.inr ⟨qs, hsome, hkeys, hqs, hc⟩)
  · rintro (⟨q, hnames, hq, hc⟩ | ⟨excluded, q, rfl, hq, hc⟩ | ⟨qs, hsome, hkeys, hqs, hc⟩)
    · have hcond : (members.isEmpty || members.any fun m => Operator.isName m.1) = true := by
        cases members with
        | nil => rfl
        | cons m rest => simp [hnames m List.mem_cons_self]
      rw [nested, if_pos hcond]
      exact bind_pure_eq_ok_iff.mpr ⟨q, hq, hc⟩
    · show (exclusion name excluded >>= fun q => pure (Clauses.only .mustNot [q])) = .ok c
      exact bind_pure_eq_ok_iff.mpr ⟨q, hq, hc⟩
    · have hcond : ¬(members.isEmpty || members.any fun m => Operator.isName m.1) = true := by
        rw [Bool.or_eq_true, List.isEmpty_iff, List.any_eq_true, not_or]
        exact ⟨hsome, fun ⟨m, hm, hname⟩ => (hkeys m hm).1 hname⟩
      have hlookup : members.lookup "must_not" = none :=
        Entries.lookup_eq_none_iff.mpr fun m hm => (hkeys m hm).2
      rw [nested, if_neg hcond, hlookup]
      exact bind_pure_eq_ok_iff.mpr ⟨qs, hqs, hc⟩

/-- Only a `bool` entry has alternatives. -/
theorem should_of_entry {key : String} {j : Json} {c : Clauses Query} (h : entry s key j = .ok c)
    (hkey : key ≠ "bool") : c.should = [] := by
  rw [entry, if_neg hkey] at h
  split at h
  · -- The exclusions of the filter.
    cases j with
    | object fields =>
        obtain ⟨_, _, rfl⟩ := bind_pure_eq_ok_iff.mp h
        rfl
    | _ =>
        obtain ⟨_, _, rfl⟩ := bind_pure_eq_ok_iff.mp h
        rfl
  · -- A field.
    cases j with
    | object members =>
        rcases nested_eq_ok_iff.mp h with ⟨_, _, _, rfl⟩ | ⟨_, _, _, _, rfl⟩ | ⟨_, _, _, _, rfl⟩
        · rfl
        · rfl
        · rfl
    | _ =>
        obtain ⟨_, _, rfl⟩ := bind_pure_eq_ok_iff.mp h
        rfl

/-! ### All entries -/

/-- The clauses of a filter are those of its entries, joined in order. -/
theorem clauses_eq_ok_iff {f : Filter} {c : Clauses Query} :
    clauses s f = .ok c ↔ ∃ cs,
      List.Forall₂ (fun m c => entry s m.1 m.2 = .ok c) f cs ∧ Clauses.concat cs = c := by
  rw [clauses]
  simp only [bind_eq_ok_iff, pure_eq_ok_iff, mapM_eq_ok_iff]

/-- The entries of a filter can be read in two parts, one after the other. -/
theorem clauses_append (s : Settings) (f g : Filter) :
    clauses s (f ++ g) = do return (← clauses s f) ++ (← clauses s g) := by
  simp only [clauses, List.mapM_append, bind_assoc, pure_bind, Clauses.concat_append]

/-- A filter compiles to a composition. -/
theorem compile_eq_ok_iff {f : Filter} {q : Query} :
    compile s f = .ok q ↔ ∃ c, clauses s f = .ok c ∧ q = .bool c := by
  rw [compile]
  simp only [bind_eq_ok_iff, pure_eq_ok_iff, @eq_comm _ q]

/-- What a filter asks for is asked for by one of its entries. -/
theorem mem_get_clauses_iff {f : Filter} {c : Clauses Query} (h : clauses s f = .ok c)
    (slot : Slot) {q : Query} :
    q ∈ c.get slot ↔ ∃ m ∈ f, ∃ c', entry s m.1 m.2 = .ok c' ∧ q ∈ c'.get slot := by
  obtain ⟨cs, hcs, rfl⟩ := clauses_eq_ok_iff.mp h
  clear h
  rw [Clauses.get_concat, List.mem_flatMap]
  induction hcs with
  | nil => simp
  | cons hm _ ih =>
      rw [List.exists_mem_cons_iff, List.exists_mem_cons_iff, ih, hm]
      simp only [Except.ok.injEq, exists_eq_left']

/-- A filter without a `bool` entry has no alternatives. -/
theorem should_of_clauses {f : Filter} {c : Clauses Query} (h : clauses s f = .ok c)
    (hbool : "bool" ∉ Entries.keys f) : c.should = [] := by
  refine List.eq_nil_iff_forall_not_mem.mpr fun q hq => ?_
  obtain ⟨m, hm, c', hentry, hq'⟩ := (mem_get_clauses_iff h .should).mp hq
  have hkey : m.1 ≠ "bool" := fun hkey => hbool (hkey ▸ List.mem_map_of_mem hm)
  have hnone : c'.should = [] := should_of_entry hentry hkey
  rw [Clauses.get, hnone] at hq'
  cases hq'

end FacetedSearch.Filter

/-! ### Criteria -/

namespace FacetedSearch.Criteria

/-- The clauses for the free text, if there is any. -/
def textClauses (s : Settings) (c : Criteria) : Clauses Query :=
  .only .must (c.freeText?.map (textClause s)).toList

/-- The clauses for criteria are those of the filter and of the free text. -/
theorem clauses_eq_ok_iff {s : Settings} {c : Criteria} {a : Clauses Query} :
    c.clauses s = .ok a ↔
      ∃ f, Filter.clauses s c.filter = .ok f ∧ f ++ c.textClauses s = a := by
  rw [clauses, bind_pure_eq_ok_iff]
  refine exists_congr fun f => and_congr_right fun _ => ?_
  rw [textClauses]
  cases c.freeText? with
  | none =>
      show f = a ↔ f ++ {} = a
      rw [Clauses.append_empty]
  | some text => rfl

theorem compile_eq_ok_iff {s : Settings} {c : Criteria} {q : Query} :
    c.compile s = .ok q ↔ ∃ a, c.clauses s = .ok a ∧ .bool a = q := by
  rw [compile, bind_pure_eq_ok_iff]

end FacetedSearch.Criteria
