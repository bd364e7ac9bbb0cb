/-!
# `FacetedSearch.Distinct`: lists without repetitions

`distinctBy f` keeps, of the elements with one value under `f`, the first
one; `distinct` does so for the elements themselves. The result has the
same values (`mem_distinct`), each once (`nodup_distinct`).
-/

set_option autoImplicit false

namespace FacetedSearch

variable {α β : Type} [DecidableEq β]

/-- The elements that are the first ones with their value. -/
def distinctBy (f : α → β) : List α → List α
  | [] => []
  | a :: as => a :: (distinctBy f as).filter fun b => f b ≠ f a

/-- The elements of a list, each at its first place only. -/
def distinct (bs : List β) : List β := distinctBy (fun b => b) bs

theorem mem_of_mem_distinctBy {f : α → β} {as : List α} {a : α} (h : a ∈ distinctBy f as) :
    a ∈ as := by
  induction as with
  | nil => cases h
  | cons a' as ih =>
      rw [distinctBy, List.mem_cons, List.mem_filter] at h
      rcases h with rfl | ⟨h, -⟩
      · exact List.mem_cons_self
      · exact List.mem_cons_of_mem _ (ih h)

/-- The values that are kept are the values there were. -/
theorem mem_map_distinctBy {f : α → β} {as : List α} {b : β} :
    b ∈ (distinctBy f as).map f ↔ b ∈ as.map f := by
  induction as with
  | nil => simp [distinctBy]
  | cons a as ih =>
      simp only [List.mem_map] at ih
      by_cases h : b = f a
      · simp [distinctBy, h]
      · simp only [distinctBy, List.map_cons, List.mem_cons, h, false_or, List.mem_map,
          List.mem_filter, decide_eq_true_eq]
        rw [← ih]
        constructor
        · rintro ⟨x, ⟨hx, -⟩, rfl⟩
          exact ⟨x, hx, rfl⟩
        · rintro ⟨x, hx, rfl⟩
          exact ⟨x, ⟨hx, h⟩, rfl⟩

/-- No value is kept twice. -/
theorem nodup_map_distinctBy (f : α → β) (as : List α) : ((distinctBy f as).map f).Nodup := by
  induction as with
  | nil => simp [distinctBy]
  | cons a as ih =>
      rw [distinctBy, List.map_cons, List.nodup_cons]
      refine ⟨?_, ih.sublist (List.filter_sublist.map f)⟩
      simp only [List.mem_map, List.mem_filter, decide_eq_true_eq]
      rintro ⟨x, ⟨-, hx⟩, h⟩
      exact hx h

@[simp] theorem mem_distinct {b : β} {bs : List β} : b ∈ distinct bs ↔ b ∈ bs := by
  simpa [distinct] using @mem_map_distinctBy β β _ (fun b => b) bs b

theorem nodup_distinct (bs : List β) : (distinct bs).Nodup := by
  simpa [distinct] using nodup_map_distinctBy (fun b : β => b) bs

end FacetedSearch
