import FacetedSearch.Proofs.Filter.Entries
import FacetedSearch.Proofs.Store.Search
import FacetedSearch.Request.Basic

/-!
# `FacetedSearch.Proofs.Criteria.Narrowing`: asking for one thing more

Criteria that ask for one thing more (`Criteria.Narrowing`), a new entry
of the filter or a text, should select no further documents. What is
asked for is only ever added to: each slot of the smaller composition is
part of the larger one (`Criteria.Narrowing.extends`). For required and
forbidden conditions that settles it.

Alternatives are different. They only count while nothing is required, so
the first required condition turns alternatives that had to be met into
optional ones. `Criteria.selects_of_narrowing` says exactly what follows:

* A document found by the larger criteria is found by the smaller ones
  unless these ask for alternatives only and it meets none of them.
* If the larger criteria still ask for alternatives only whenever the
  smaller ones do, then nothing new is found, and no total grows.

`Criteria.narrowing_selects_more` is the case that is left out.
-/

set_option autoImplicit false

namespace FacetedSearch

/-! ### Compositions with more in their slots -/

/-- Nothing is required, and there are alternatives. -/
def Clauses.OnlyAlternatives {α : Type} (c : Clauses α) : Prop :=
  c.must ++ c.filter = [] ∧ c.should ≠ []

/-- The second composition asks for all that the first one does. Its
alternatives are those of the first one, if that has any. -/
structure Clauses.Extends (a b : Clauses Query) : Prop where
  get_subset : ∀ slot, a.get slot ⊆ b.get slot
  should_subset : a.should ≠ [] → b.should ⊆ a.should

namespace Clauses.Extends

variable {a b : Clauses Query} {doc : Document}

/-- Only the alternatives can keep the smaller composition from selecting
what the larger one selects. -/
theorem selects_iff (h : a.Extends b) (hb : (Query.bool b).selects doc = true) :
    (Query.bool a).selects doc = true ↔
      (a.OnlyAlternatives → ∃ q ∈ a.should, q.selects doc = true) := by
  obtain ⟨hrequired, hforbidden, -⟩ := Query.selects_bool_iff.mp hb
  have ha : ∀ q ∈ a.must ++ a.filter, q.selects doc = true := by
    intro q hq
    refine hrequired q ?_
    rw [List.mem_append] at hq ⊢
    exact hq.imp (@h.get_subset .must q) (@h.get_subset .filter q)
  have ha' : ¬∃ q ∈ a.mustNot, q.selects doc = true := by
    rintro ⟨q, hq, hdoc⟩
    exact hforbidden ⟨q, h.get_subset .mustNot hq, hdoc⟩
  rw [Query.selects_bool_iff]
  constructor
  · rintro ⟨-, -, halternatives⟩ ⟨hnone, hsome⟩
    exact halternatives hnone hsome
  · intro halternatives
    exact ⟨ha, ha', fun hnone hsome => halternatives ⟨hnone, hsome⟩⟩

/-- Alternatives that had to be met and still have to are met. -/
theorem selects (h : a.Extends b) (hab : a.OnlyAlternatives → b.OnlyAlternatives)
    (hb : (Query.bool b).selects doc = true) : (Query.bool a).selects doc = true := by
  rw [h.selects_iff hb]
  intro ha
  -- One of the alternatives of the larger composition is met, and it is one
  -- of the smaller composition.
  obtain ⟨hnone, hsome⟩ := hab ha
  obtain ⟨q, hq, hdoc⟩ := (Query.selects_bool_iff.mp hb).2.2 hnone hsome
  exact ⟨q, h.should_subset ha.2 hq, hdoc⟩

/-- Both compositions may be joined with the same one. -/
theorem append_right (h : a.Extends b) (t : Clauses Query) (ht : t.should = []) :
    (a ++ t).Extends (b ++ t) where
  get_subset := by
    intro slot
    rw [get_append, get_append]
    exact List.append_subset_of_subset_of_subset
      (List.subset_append_of_subset_left _ (h.get_subset slot)) (List.subset_append_right _ _)
  should_subset := by
    show a.should ++ t.should ≠ [] → b.should ++ t.should ⊆ a.should ++ t.should
    rw [ht, List.append_nil, List.append_nil]
    exact h.should_subset

/-- A composition is extended by what has no alternatives. -/
theorem append_self (a : Clauses Query) {t : Clauses Query} (ht : t.should = []) :
    a.Extends (a ++ t) where
  get_subset := by
    intro slot
    rw [get_append]
    exact List.subset_append_left _ _
  should_subset := by
    intro _
    show a.should ++ t.should ⊆ a.should
    rw [ht, List.append_nil]
    exact List.Subset.refl _

end Clauses.Extends

/-! ### Filters with one entry more -/

namespace Filter

variable {s : Settings}

/-- A filter with one entry more, for a new key and at any place, asks for
more. -/
theorem extends_of_entry {es es' : Filter} {key : String} {value : Json} {a b : Clauses Query}
    (hkey : key ∉ Entries.keys (es ++ es')) (ha : clauses s (es ++ es') = .ok a)
    (hb : clauses s (es ++ (key, value) :: es') = .ok b) : a.Extends b where
  get_subset := by
    intro slot q hq
    obtain ⟨m, hm, hentry⟩ := (mem_get_clauses_iff ha slot).mp hq
    have hm' : m ∈ es ++ (key, value) :: es' := by
      rw [List.mem_append] at hm ⊢
      exact hm.imp_right (List.mem_cons_of_mem _)
    exact (mem_get_clauses_iff hb slot).mpr ⟨m, hm', hentry⟩
  should_subset := by
    intro hsome q hq
    have hbool {m : String × Json} {c : Clauses Query} {q : Query}
        (hentry : entry s m.1 m.2 = .ok c) (hq : q ∈ c.should) : m.1 = "bool" := by
      by_contra hne
      rw [should_of_entry hentry hne] at hq
      cases hq
    -- The filter has a `bool` entry already, so the new one is another entry.
    have hnew : key ≠ "bool" := by
      obtain ⟨q₀, hq₀⟩ := List.exists_mem_of_ne_nil _ hsome
      obtain ⟨m₀, hm₀, c₀, hc₀, hq₀⟩ := (mem_get_clauses_iff ha .should).mp hq₀
      rintro rfl
      exact hkey (List.mem_map.mpr ⟨m₀, hm₀, hbool hc₀ hq₀⟩)
    obtain ⟨m, hm, c, hc, hq⟩ := (mem_get_clauses_iff hb .should).mp hq
    have hm' : m ∈ es ++ es' := by
      rw [List.mem_append, List.mem_cons] at hm
      rw [List.mem_append]
      rcases hm with hm | rfl | hm
      · exact .inl hm
      · exact absurd (hbool hc hq) hnew
      · exact .inr hm
    exact (mem_get_clauses_iff ha .should).mpr ⟨m, hm', c, hc, hq⟩

end Filter

/-! ### Criteria that ask for one thing more -/

namespace Criteria

/-- The second criteria ask for one thing more: for something of a new
field, anywhere among the entries of the filter, or for a text where there
was none. -/
inductive Narrowing (c : Criteria) : Criteria → Prop
  | entry {es es' : Filter} (key : String) (value : Json) (filter : c.filter = es ++ es')
      (new : key ∉ Entries.keys c.filter) :
      Narrowing c { c with filter := es ++ (key, value) :: es' }
  | text (text : String) (new : c.freeText? = none) : Narrowing c (c.search text)

/-- What criteria with one thing more ask for extends what they asked for. -/
theorem Narrowing.extends {s : Settings} {c c' : Criteria} (h : c.Narrowing c')
    {a b : Clauses Query} (ha : c.clauses s = .ok a) (hb : c'.clauses s = .ok b) :
    a.Extends b := by
  obtain ⟨f, hf, rfl⟩ := clauses_eq_ok_iff.mp ha
  obtain ⟨f', hf', rfl⟩ := clauses_eq_ok_iff.mp hb
  cases h with
  | entry key value filter new =>
      rw [filter] at hf new
      exact (Filter.extends_of_entry new hf hf').append_right (c.textClauses s) rfl
  | text text new =>
      -- The filter is the same, and there was no text before.
      have hsame : f = f' := Except.ok.inj (hf.symm.trans hf')
      have hnone : c.textClauses s = {} := by
        rw [textClauses, new]
        rfl
      rw [hnone, Clauses.append_empty, hsame]
      exact .append_self f' rfl

/-- Putting something under a new key asks for one thing more. -/
theorem narrowing_constrain {c : Criteria} {key : String} (value : Json)
    (hkey : key ∉ Entries.keys c.filter) : c.Narrowing (c.constrain key value) := by
  rw [constrain, Entries.put_of_notMem value hkey]
  exact .entry key value (List.append_nil _).symm hkey

/-- **Asking for one thing more finds nothing new, unless it makes
alternatives optional.** What the larger criteria find is found by the
smaller ones, too, when these do not ask for alternatives only, or when
it meets one of the alternatives, and in no other case. So if the larger
criteria ask for alternatives only whenever the smaller ones do, they
find nothing else, and no store answers them with a larger total. A store
that settles the one settles the other, too, and can only fail to answer
it by giving up on documents that straddle. -/
theorem selects_of_narrowing (s : Settings) {c c' : Criteria} (h : c.Narrowing c')
    {a b : Clauses Query} (ha : c.compile s = .ok (.bool a)) (hb : c'.compile s = .ok (.bool b)) :
    (∀ doc, (Query.bool b).selects doc = true →
      ((Query.bool a).selects doc = true ↔
        (a.OnlyAlternatives → ∃ q ∈ a.should, q.selects doc = true))) ∧
    ((a.OnlyAlternatives → b.OnlyAlternatives) →
      (∀ doc, (Query.bool b).selects doc = true → (Query.bool a).selects doc = true) ∧
      ∀ index r r' store answer', Request.ofCriteria s index c = .ok r →
        Request.ofCriteria s index c' = .ok r' → (Store.search r' store).1 = .ok answer' →
        ∃ answer, (Store.search r store).1 = .ok answer ∧
          (∀ resp resp', answer = some resp → answer' = some resp' → resp'.total ≤ resp.total) ∧
          (answer = none → Store.Straddling (store.documents index) r)) := by
  obtain ⟨_, ha', hq⟩ := compile_eq_ok_iff.mp ha
  obtain ⟨_, hb', hq'⟩ := compile_eq_ok_iff.mp hb
  cases hq
  cases hq'
  -- Both queries come from clauses, and those extend each other.
  have hab : a.Extends b := h.extends ha' hb'
  refine ⟨fun doc hdoc => hab.selects_iff hdoc, fun hstill => ?_⟩
  have hsub : ∀ doc, (Query.bool b).selects doc = true → (Query.bool a).selects doc = true :=
    fun doc hdoc => hab.selects hstill hdoc
  refine ⟨hsub, ?_⟩
  intro index r r' store answer' hr hr' hanswer'
  obtain ⟨_, hq, rfl⟩ := bind_pure_eq_ok_iff.mp hr
  obtain ⟨_, hq', rfl⟩ := bind_pure_eq_ok_iff.mp hr'
  cases ha.symm.trans hq
  cases hb.symm.trans hq'
  -- The store is in the same state both times, so it settles both.
  obtain ⟨havailable, hpending, docs, hdocs, rfl⟩ := Store.search_eq_ok_iff.mp hanswer'
  refine ⟨_, Store.search_eq_ok_iff.mpr ⟨havailable, hpending, docs, hdocs, rfl⟩, ?_, ?_⟩
  · exact fun resp resp' hresp hresp' => Store.total_le_of_answer hresp' hresp hsub
  · intro hnone
    have hdocuments : store.documents index = docs := congrArg (Option.getD · []) hdocs
    rw [hdocuments]
    exact Store.straddling_of_answer_eq_none hnone

/-- Alternatives and nothing else. -/
def redOrBlue : Criteria where
  filter := [("bool", .object [("should", .array
    [.object [("term", .object [("colour", .string "red")])],
      .object [("term", .object [("colour", .string "blue")])]])])]

/-- The alternatives of `redOrBlue`. -/
def redOrBlueClauses : Clauses Query where
  should := [.term "colour" (.text "red"), .term "colour" (.text "blue")]

/-- The alternatives of `redOrBlue`, and an exclusion. -/
def unsoldClauses : Clauses Query :=
  { redOrBlueClauses with mustNot := [.terms "status" [.text "sold"]] }

/-- A store with one document. -/
def redStore : Store where
  indices := [("toys", [⟨"1", [("colour", .string "red")]⟩])]

/-- An exclusion leaves the alternatives mandatory. -/
theorem selects_of_narrowing_exclusion :
    redOrBlue.Narrowing (redOrBlue.constrain "must_not" (.string "sold")) ∧
      redOrBlue.compile {} = .ok (.bool redOrBlueClauses) ∧
      (redOrBlue.constrain "must_not" (.string "sold")).compile {} = .ok (.bool unsoldClauses) ∧
      (redOrBlueClauses.OnlyAlternatives ∧ unsoldClauses.OnlyAlternatives) ∧
      ((Query.bool unsoldClauses).selects [("colour", .string "red")] = true ∧
        (Query.bool redOrBlueClauses).selects [("colour", .string "red")] = true) ∧
      ∃ r r' resp resp', Request.ofCriteria {} "toys" redOrBlue = .ok r ∧
        Request.ofCriteria {} "toys" (redOrBlue.constrain "must_not" (.string "sold")) = .ok r' ∧
        (Store.search r redStore).1 = .ok (some resp) ∧
        (Store.search r' redStore).1 = .ok (some resp') ∧ resp'.total ≤ resp.total := by
  have hn : redOrBlue.Narrowing (redOrBlue.constrain "must_not" (.string "sold")) :=
    narrowing_constrain _ (by decide)
  have ha : redOrBlueClauses.OnlyAlternatives := ⟨rfl, List.cons_ne_nil _ _⟩
  have hb : unsoldClauses.OnlyAlternatives := ⟨rfl, List.cons_ne_nil _ _⟩
  have hunsold : (Query.bool unsoldClauses).selects [("colour", .string "red")] = true := by
    decide
  obtain ⟨hselects, htotal⟩ := (selects_of_narrowing {} hn rfl rfl).2 fun _ => hb
  obtain ⟨answer, hanswer, hle, hsome⟩ := htotal "toys" _ _ redStore _ rfl rfl rfl
  obtain ⟨resp, rfl⟩ : ∃ resp, answer = some resp :=
    Option.ne_none_iff_exists'.mp fun hnone => Store.not_straddling_of_unsorted rfl (hsome hnone)
  exact ⟨hn, rfl, rfl, ⟨ha, hb⟩, ⟨hunsold, hselects _ hunsold⟩,
    _, _, resp, _, rfl, rfl, hanswer, rfl, hle _ _ rfl rfl⟩

/-- A required shape makes the alternatives optional: a document of that
shape and of no colour is found only now. -/
theorem narrowing_selects_more :
    redOrBlue.Narrowing (redOrBlue.constrain "shape" (.string "round")) ∧
      redOrBlue.compile {} = .ok (.bool redOrBlueClauses) ∧
      (redOrBlue.constrain "shape" (.string "round")).compile {} =
        .ok (.bool { redOrBlueClauses with must := [.term "shape" (.text "round")] }) ∧
      (Query.bool { redOrBlueClauses with must := [.term "shape" (.text "round")] }).selects
        [("shape", .string "round")] = true ∧
      (Query.bool redOrBlueClauses).selects [("shape", .string "round")] = false := by
  have hn : redOrBlue.Narrowing (redOrBlue.constrain "shape" (.string "round")) :=
    narrowing_constrain _ (by decide)
  exact ⟨hn, rfl, rfl, by decide, by decide⟩

end Criteria

end FacetedSearch
