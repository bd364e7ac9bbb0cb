import FacetedSearch.Filter.Clauses
import FacetedSearch.Proofs.Support.Traversal

/-!
# `FacetedSearch.Proofs.Filter.Composition`: when parts of a filter are read

The functions that read a `bool` entry call each other through the lists
of its slots, parts and forms. Here each of them becomes a run over such
a list, member by member, so that no later proof has to follow their
recursion:

* `composition_eq_ok_iff`: a composition is read when every slot is, and
  its clauses are those of the slots, joined in order.
* `slotParts_eq_ok_iff`: a slot is read when it is an array of parts that
  are all read, or one part.
* `part_eq_ok_iff`: a part is read when all its forms are and they have
  a clause among them.
-/

set_option autoImplicit false

namespace FacetedSearch

theorem Clauses.concat_append {α : Type} (cs cs' : List (Clauses α)) :
    concat (cs ++ cs') = concat cs ++ concat cs' :=
  ext_get fun slot => by rw [get_append, get_concat, get_concat, get_concat, List.flatMap_append]

namespace Filter

/-! ### The members of a list -/

/-- The clauses of one slot of a composition. -/
def slotEntry (key : String) (body : Json) : Except Error (Clauses Query) :=
  match Slot.named? key with
  | none => .error (.unsupportedForm ("bool." ++ key))
  | some slot => do return Clauses.only slot (← slotParts key body)

/-- The clauses of one form of a part. -/
def formClauses (key : String) (body : Json) : Except Error (List Query) :=
  if key = "bool" then (composition body).map ([.bool ·]) else conditions key body

theorem slotClauses_eq_mapM (slots : Entries Json) :
    slotClauses slots = do return .concat (← slots.mapM fun m => slotEntry m.1 m.2) := by
  induction slots with
  | nil => rfl
  | cons m rest ih =>
      obtain ⟨key, body⟩ := m
      rw [slotClauses, ih, List.mapM_cons]
      cases hslot : Slot.named? key with
      | none => simp [slotEntry, hslot, bind, Except.bind]
      | some slot =>
          simp only [slotEntry, hslot, bind_assoc, pure_bind]
          rfl

theorem partList_eq_mapM (parts : List Json) : partList parts = parts.mapM part := by
  induction parts with
  | nil => rfl
  | cons p rest ih => rw [partList, ih, List.mapM_cons]

theorem partClauses_eq_mapM (forms : Entries Json) :
    partClauses forms = do return (← forms.mapM fun m => formClauses m.1 m.2).flatten := by
  induction forms with
  | nil => rfl
  | cons m rest ih =>
      obtain ⟨key, body⟩ := m
      rw [partClauses, ih, List.mapM_cons]
      by_cases hkey : key = "bool" <;>
        simp only [formClauses, hkey, if_true, if_false, bind_assoc, pure_bind, List.flatten_cons]

/-! ### When they are read -/

theorem Form.name_ne_bool (form : Form) : form.name ≠ "bool" := by
  cases form <;> decide

/-- A form is read field by field. -/
theorem conditions_eq_ok_iff {key : String} {body : Json} {qs : List Query} :
    conditions key body = .ok qs ↔ ∃ form fields, key = Form.name form ∧ body = .object fields ∧
      List.Forall₂ (fun m q => form.condition m.1 m.2 = .ok q) fields qs := by
  unfold conditions
  cases hform : Form.named? key with
  | none =>
      refine iff_of_false nofun ?_
      rintro ⟨form, _, rfl, _⟩
      rw [Form.named?_name] at hform
      cases hform
  | some form =>
      obtain rfl := Form.named?_eq_some_iff.mp hform
      cases body with
      | object fields =>
          simp only [mapM_eq_ok_iff, Json.object.injEq]
          constructor
          · intro hqs
            exact ⟨form, fields, rfl, rfl, hqs⟩
          · rintro ⟨form', _, hname, rfl, hqs⟩
            obtain rfl := Form.name_injective hname
            exact hqs
      | _ => simp

theorem slotClauses_eq_ok_iff {slots : Entries Json} {c : Clauses Query} :
    slotClauses slots = .ok c ↔ ∃ cs,
      List.Forall₂ (fun m c => slotEntry m.1 m.2 = .ok c) slots cs ∧ Clauses.concat cs = c := by
  rw [slotClauses_eq_mapM]
  simp only [bind_eq_ok_iff, pure_eq_ok_iff, mapM_eq_ok_iff]

/-- A composition is read slot by slot. -/
theorem composition_eq_ok_iff {j : Json} {c : Clauses Query} :
    composition j = .ok c ↔ ∃ slots cs, j = .object slots ∧
      List.Forall₂ (fun m c => slotEntry m.1 m.2 = .ok c) slots cs ∧ Clauses.concat cs = c := by
  cases j with
  | object slots =>
      rw [composition, slotClauses_eq_ok_iff]
      simp only [Json.object.injEq]
      constructor
      · rintro ⟨cs, hcs, hc⟩
        exact ⟨slots, cs, rfl, hcs, hc⟩
      · rintro ⟨_, cs, rfl, hcs, hc⟩
        exact ⟨cs, hcs, hc⟩
  | _ => simp [composition]

/-- A slot is read under its own name. -/
theorem slotEntry_eq_ok_iff {key : String} {body : Json} {c : Clauses Query} :
    slotEntry key body = .ok c ↔ ∃ slot qs, key = slot.name ∧
      slotParts key body = .ok qs ∧ c = .only slot qs := by
  unfold slotEntry
  cases hslot : Slot.named? key with
  | none =>
      -- The name of a slot would have named it.
      refine iff_of_false nofun ?_
      rintro ⟨slot, _, rfl, _⟩
      rw [Slot.named?_name] at hslot
      cases hslot
  | some slot =>
      obtain rfl := Slot.named?_eq_some_iff.mp hslot
      simp only [bind_eq_ok_iff, pure_eq_ok_iff]
      constructor
      · rintro ⟨qs, hqs, rfl⟩
        exact ⟨slot, qs, rfl, hqs, rfl⟩
      · rintro ⟨slot', qs, hname, hqs, rfl⟩
        exact ⟨qs, hqs, by rw [Slot.name_injective hname]⟩

/-- A slot is an array of parts, or one part. -/
theorem slotParts_eq_ok_iff {key : String} {body : Json} {qs : List Query} :
    slotParts key body = .ok qs ↔
      (∃ parts, body = .array parts ∧ List.Forall₂ (fun p q => part p = .ok q) parts qs) ∨
      (∃ q, part body = .ok q ∧ qs = [q]) := by
  cases body with
  | array parts => simp [slotParts, part, partList_eq_mapM, mapM_eq_ok_iff]
  | object forms =>
      -- One part stands for an array of one.
      have halone : slotParts key (.object forms) = part (.object forms) >>= fun q => pure [q] := by
        simp only [slotParts, part, bind_assoc]
      rw [halone, bind_pure_eq_ok_iff]
      simp [@eq_comm _ qs]
  | _ => simp [slotParts, part]

/-- A part is an object of forms with a clause among them. -/
theorem part_eq_ok_iff {j : Json} {q : Query} :
    part j = .ok q ↔ ∃ forms qss, j = .object forms ∧
      List.Forall₂ (fun m qs => formClauses m.1 m.2 = .ok qs) forms qss ∧
      join qss.flatten = .ok q := by
  cases j with
  | object forms =>
      rw [part, partClauses_eq_mapM]
      simp [mapM_eq_ok_iff]
  | _ => simp [part]

end Filter

end FacetedSearch
