import FacetedSearch.Proofs.Query.Selection
import FacetedSearch.Proofs.Store.Search

/-!
# `FacetedSearch.Proofs.Query.Algebra`: combined queries

`and`, `or`, `negate` and `all` make queries out of queries. What they
select is the conjunction, the disjunction, the negation and the truth of
what their parts select (`selects_and`, `selects_or`, `selects_negate`,
`selects_all`), so a query that is put together from others means what the
expression says that it was put together by (`Expression.selects_query`).

Only `and` has to be looked at closely: it adds its second query to a
composition, and that would make mandatory alternatives optional. It does
so only where there are none (`Clauses.selects_push_must`).

A query and its negation divide the documents of an index among them
(`Store.total_add_negate`).
-/

set_option autoImplicit false

namespace FacetedSearch

/-- A requirement is added to what a composition without alternatives
requires. -/
theorem Clauses.selects_push_must {c : Clauses Query} (hc : c.should = []) (r : Query)
    (doc : Document) :
    (Query.bool (c.push .must r)).selects doc = ((Query.bool c).selects doc && r.selects doc) := by
  rw [push, selects_append hc rfl, Query.selects_only_must]

namespace Query

/-! ### Two queries -/

/-- A document is selected by both of two queries when each selects it. -/
theorem selects_and (q r : Query) (doc : Document) :
    (q.and r).selects doc = (q.selects doc && r.selects doc) := by
  have hpair : (Query.bool { must := [q, r] }).selects doc = (q.selects doc && r.selects doc) := by
    simp [selects_bool]
  cases q with
  | bool c =>
      rw [Query.and]
      split
      · rename_i hshould
        exact Clauses.selects_push_must (List.isEmpty_iff.mp hshould) r doc
      · exact hpair
  | term | terms | text | range => exact hpair

/-- A document is selected by one of two queries when one of them selects it. -/
theorem selects_or (q r : Query) (doc : Document) :
    (q.or r).selects doc = (q.selects doc || r.selects doc) := by
  simp [Query.or, selects_bool]

/-- The negation of a query selects what the query does not. -/
theorem selects_negate (q : Query) (doc : Document) :
    q.negate.selects doc = !q.selects doc := by
  simp [negate, selects_bool]

theorem selects_all (doc : Document) : Query.all.selects doc = true := by
  simp [all, selects_bool]

/-! ### Expressions -/

/-- How a query is put together from others. -/
inductive Expression where
  | leaf (q : Query)
  | all
  | and (a b : Expression)
  | or (a b : Expression)
  | negate (a : Expression)

namespace Expression

/-- The query that is put together. -/
def query : Expression → Query
  | .leaf q => q
  | .all => Query.all
  | .and a b => a.query.and b.query
  | .or a b => a.query.or b.query
  | .negate a => a.query.negate

/-- The truth value of an expression, given which of its leaves select a
document. -/
def holds (doc : Document) : Expression → Bool
  | .leaf q => q.selects doc
  | .all => true
  | .and a b => a.holds doc && b.holds doc
  | .or a b => a.holds doc || b.holds doc
  | .negate a => !a.holds doc

/-- The query selects the documents for which the expression is true. -/
theorem selects_query (e : Expression) (doc : Document) : e.query.selects doc = e.holds doc := by
  induction e with
  | leaf q => rfl
  | all => exact selects_all doc
  | and a b iha ihb => rw [query, selects_and, iha, ihb, holds]
  | or a b iha ihb => rw [query, selects_or, iha, ihb, holds]
  | negate a ih => rw [query, selects_negate, ih, holds]

end Expression

end Query

/-- Every document is selected by a query or by its negation, and by one of
them only. -/
theorem Store.total_add_negate {sorter : Sorter Stored} {docs : List Stored} {r : Request}
    {q : Query} {resp resp' : Response}
    (h : answer sorter docs { r with query := q } = some resp)
    (h' : answer sorter docs { r with query := q.negate } = some resp') :
    resp.total + resp'.total = docs.length := by
  rw [total_of_answer h, total_of_answer h',
    List.length_eq_countP_add_countP fun d => q.selects d.document]
  congr 1
  refine List.countP_congr fun d _ => ?_
  simp [Query.selects_negate]

/-- **Queries are combined as truth values are.** What `and`, `or`, `negate`
and `all` select follows from what their parts select, whatever these are,
and so does what a query selects that is put together from others in any
way. A store that answers reports as many documents for a query and its
negation as it holds in the index. It answers unless it gives up on sorting
documents that straddle, and so always when no order is asked for. -/
theorem Query.selects_combined :
    (∀ (q r : Query) (doc : Document),
      (q.and r).selects doc = (q.selects doc && r.selects doc) ∧
      (q.or r).selects doc = (q.selects doc || r.selects doc) ∧
      q.negate.selects doc = !q.selects doc ∧ Query.all.selects doc = true) ∧
    (∀ (e : Expression) (doc : Document), e.query.selects doc = e.holds doc) ∧
    ∀ (s : Store) (r : Request) (q : Query), s.available = true → s.pendingFailures = 0 →
      (s.indices.lookup r.index).isSome = true →
      ∃ answer answer', s.search { r with query := q } = (.ok answer, s) ∧
        s.search { r with query := q.negate } = (.ok answer', s) ∧
        (∀ resp resp', answer = some resp → answer' = some resp' →
          resp.total + resp'.total = s.size r.index) ∧
        (answer = none → Store.Straddling (s.documents r.index) { r with query := q }) ∧
        (answer' = none → Store.Straddling (s.documents r.index) { r with query := q.negate }) := by
  refine ⟨fun q r doc => ?_, Expression.selects_query, ?_⟩
  · exact ⟨selects_and q r doc, selects_or q r doc, selects_negate q doc, selects_all doc⟩
  · intro s r q havailable hpending hindex
    obtain ⟨docs, hdocs⟩ := Option.isSome_iff_exists.mp hindex
    have hanswer (q' : Query) : s.search { r with query := q' } =
        (.ok (Store.answer s.sorter docs { r with query := q' }), s) :=
      Store.search_eq_of_ok (Store.search_eq_ok_iff.mpr
        ⟨havailable, hpending, docs, hdocs, rfl⟩)
    have hdocuments : s.documents r.index = docs := congrArg (Option.getD · []) hdocs
    refine ⟨_, _, hanswer q, hanswer q.negate, fun resp resp' hresp hresp' => ?_, ?_, ?_⟩
    · rw [Store.size, hdocuments, Store.total_add_negate hresp hresp']
    · exact hdocuments ▸ Store.straddling_of_answer_eq_none
    · exact hdocuments ▸ Store.straddling_of_answer_eq_none

/-- Three toys, one of which has neither colour nor shape. -/
def toyShelf : Store where
  indices := [("toys", [⟨"1", [("colour", .string "red")]⟩,
    ⟨"2", [("colour", .string "blue"), ("shape", .string "round")]⟩, ⟨"3", []⟩])]

/-- Red or blue toys that are round. -/
def roundToys : Query :=
  ((Query.term "colour" (.text "red")).or (.term "colour" (.text "blue"))).and
    (.term "shape" (.text "round"))

theorem Query.selects_combined_toys :
    (toyShelf.available = true ∧ toyShelf.pendingFailures = 0 ∧
      (toyShelf.indices.lookup "toys").isSome = true) ∧
    ∃ resp resp',
      toyShelf.search { index := "toys", query := roundToys } = (.ok (some resp), toyShelf) ∧
      toyShelf.search { index := "toys", query := roundToys.negate } =
        (.ok (some resp'), toyShelf) ∧
      resp.total + resp'.total = 3 := by
  let r : Request := { index := "toys", query := roundToys }
  obtain ⟨-, -, hsearch⟩ := selects_combined
  obtain ⟨answer, answer', hanswer, hanswer', htotal, hsome, hsome'⟩ :=
    hsearch toyShelf r roundToys rfl rfl rfl
  -- No order is asked for.
  obtain ⟨resp, rfl⟩ : ∃ resp, answer = some resp :=
    Option.ne_none_iff_exists'.mp fun hnone => Store.not_straddling_of_unsorted rfl (hsome hnone)
  obtain ⟨resp', rfl⟩ : ∃ resp', answer' = some resp' :=
    Option.ne_none_iff_exists'.mp fun hnone => Store.not_straddling_of_unsorted rfl (hsome' hnone)
  exact ⟨⟨rfl, rfl, rfl⟩, resp, resp', hanswer, hanswer', htotal _ _ rfl rfl⟩

end FacetedSearch
