import FacetedSearch.Proofs.Document.Order
import FacetedSearch.Proofs.Query.Agreement
import FacetedSearch.Store

/-!
# `FacetedSearch.Proofs.Store.Search`: what a store answers

A store settles a request when it is switched on, owes no failure and has
the index. What it answers then depends on nothing but the documents of
the index and the request (`search_eq_ok_iff`), and of the query it depends
on nothing but which documents are selected (`search_congr`). The store is
left as it was (`search_eq_of_ok`).

The hits are the documents that the query selects (`perm_of_hits`). They
are there unless sorting gives up, which it may do only if three of the
documents straddle (`exists_hits`). The total of an answer counts the
hits. Neither the order nor the page that was asked for shows in it
(`total_of_answer`), so a query that selects less never has the larger
total (`total_le_of_answer`).
-/

set_option autoImplicit false

namespace FacetedSearch.Store

/-- A store settles a request when it can be reached and has the index. -/
theorem search_eq_ok_iff {r : Request} {s : Store} {resp : Option Response} :
    (search r s).1 = .ok resp ↔ s.available = true ∧ s.pendingFailures = 0 ∧
      ∃ docs, s.indices.lookup r.index = some docs ∧ answer s.sorter docs r = resp := by
  unfold search reach
  cases s.available with
  | false => simp
  | true =>
      cases s.pendingFailures with
      | succ n => simp
      | zero => cases hdocs : s.indices.lookup r.index <;> simp [hdocs]

/-- A store that settles a request is the same afterwards. -/
theorem search_eq_of_ok {r : Request} {s : Store} {resp : Option Response}
    (h : (search r s).1 = .ok resp) : search r s = (.ok resp, s) := by
  obtain ⟨havailable, hpending, docs, hdocs, rfl⟩ := search_eq_ok_iff.mp h
  simp [search, reach, havailable, hpending, hdocs]

/-- No search changes an index or the way of sorting. -/
theorem indices_search (r : Request) (s : Store) :
    (search r s).2.indices = s.indices ∧ (search r s).2.sorter = s.sorter := by
  unfold search reach
  cases s.available with
  | false => exact ⟨rfl, rfl⟩
  | true =>
      cases s.pendingFailures with
      | succ n => exact ⟨rfl, rfl⟩
      | zero => cases hdocs : s.indices.lookup r.index <;> simp [hdocs]

/-- Queries that select the same documents get the same answers. -/
theorem search_congr (r : Request) {q q' : Query} (h : q.Agrees q') :
    search { r with query := q } = search { r with query := q' } := by
  have hhits (sorter : Sorter Stored) (docs : List Stored) :
      hits sorter docs { r with query := q } = hits sorter docs { r with query := q' } := by
    have hselects : (fun d : Stored => q.selects d.document) = fun d => q'.selects d.document :=
      funext fun d => h d.document
    unfold hits
    simp only [hselects]
  have hanswer (sorter : Sorter Stored) (docs : List Stored) :
      answer sorter docs { r with query := q } = answer sorter docs { r with query := q' } := by
    unfold answer
    rw [hhits sorter docs]
    rfl
  funext s
  unfold search
  simp only [hanswer]

/-! ### Hits -/

section
variable {sorter : Sorter Stored} {docs found : List Stored} {r : Request}

/-- If an order is asked for, the hits are what the query selects, sorted. -/
theorem hits_eq_sort {s : SortBy} (h : r.sortBy = some s) :
    hits sorter docs r =
      s.sort sorter Stored.document (docs.filter fun d => r.query.selects d.document) := by
  rw [hits, h]

/-- If no order is asked for, they are what the query selects, as it stands. -/
theorem hits_eq_filter (h : r.sortBy = none) :
    hits sorter docs r = some (docs.filter fun d => r.query.selects d.document) := by
  rw [hits, h]

/-- The hits are the documents that the query selects, each once. -/
theorem perm_of_hits (h : hits sorter docs r = some found) :
    found.Perm (docs.filter fun d => r.query.selects d.document) := by
  cases hsort : r.sortBy with
  | none =>
      rw [hits_eq_filter hsort] at h
      cases h
      exact .refl _
  | some s =>
      rw [hits_eq_sort hsort] at h
      exact sorter.perm h

/-- An order is asked for in which documents that a query selects straddle. -/
def Straddling (docs : List Stored) (r : Request) : Prop :=
  ∃ s, r.sortBy = some s ∧ ∃ a b c, (a ∈ docs ∧ r.query.selects a.document = true) ∧
    (b ∈ docs ∧ r.query.selects b.document = true) ∧
    (c ∈ docs ∧ r.query.selects c.document = true) ∧
    s.Straddles a.document b.document c.document

theorem not_straddling_of_unsorted (h : r.sortBy = none) : ¬Straddling docs r := by
  rintro ⟨s, hs, -⟩
  rw [h] at hs
  cases hs

/-- Sorting does not give up on documents of which no three straddle. -/
theorem exists_hits (sorter : Sorter Stored) (h : ¬Straddling docs r) :
    ∃ found, hits sorter docs r = some found := by
  cases hsort : r.sortBy with
  | none => exact ⟨_, hits_eq_filter hsort⟩
  | some s =>
      rw [hits_eq_sort hsort]
      obtain ⟨found, hfound, -⟩ := s.exists_sort sorter fun a ha b hb c hc hstraddles =>
        h ⟨s, hsort, a, b, c, List.mem_filter.mp ha, List.mem_filter.mp hb, List.mem_filter.mp hc,
          hstraddles⟩
      exact ⟨found, hfound⟩

/-- Sorting gives up only on documents that straddle. -/
theorem straddling_of_hits_eq_none (h : hits sorter docs r = none) : Straddling docs r := by
  by_contra hnot
  obtain ⟨found, hfound⟩ := exists_hits sorter hnot
  rw [h] at hfound
  cases hfound

/-! ### Answers -/

theorem answer_eq_some_iff {resp : Response} : answer sorter docs r = some resp ↔
    ∃ found, hits sorter docs r = some found ∧ respond r found = resp := Option.map_eq_some_iff

/-- An index does not answer only if documents straddle. -/
theorem straddling_of_answer_eq_none (h : answer sorter docs r = none) : Straddling docs r :=
  straddling_of_hits_eq_none (Option.map_eq_none_iff.mp h)

/-- The total is the number of documents that the query selects. -/
theorem total_of_answer {resp : Response} (h : answer sorter docs r = some resp) :
    resp.total = docs.countP fun d => r.query.selects d.document := by
  obtain ⟨found, hfound, rfl⟩ := answer_eq_some_iff.mp h
  rw [List.countP_eq_length_filter]
  exact (perm_of_hits hfound).length_eq

/-- A query that selects less has no larger total. -/
theorem total_le_of_answer {r' : Request} {resp resp' : Response}
    (hresp : answer sorter docs r = some resp) (hresp' : answer sorter docs r' = some resp')
    (h : ∀ doc, r.query.selects doc = true → r'.query.selects doc = true) :
    resp.total ≤ resp'.total := by
  rw [total_of_answer hresp, total_of_answer hresp']
  exact List.countP_mono_left fun d _ => h d.document

end

end FacetedSearch.Store
