import FacetedSearch.Proofs.Session.Inquiries

/-!
# `FacetedSearch.Proofs.Session.Returns`: steps that come back

A step that asks the store comes back if every pause can be computed
(`AlwaysReturns`) and sorting does not give up. Sorting gives up on nothing
but documents that straddle in the order that is asked for (`MayGiveUp`),
so all other steps come back (`mayGiveUp_of_step_eq_none`). A run comes to
its end unless it gets to such a step (`exists_mayGiveUp_of_run_eq_none`).
-/

set_option autoImplicit false

namespace FacetedSearch

/-! ### Calls that come back -/

namespace Backoff

variable {b : Backoff}

/-- Whatever is called, a run has an outcome: every pause can be computed. -/
def IsTotal (b : Backoff) : Prop :=
  ∀ (σ α : Type) (call : σ → Except Failure α × σ) (s : σ), ∃ a, b.run call s = some a

theorem Moderate.isTotal (hb : b.Moderate) : b.IsTotal := by
  intro σ α call s
  obtain ⟨a, ha, -⟩ := hb.exists_run call s
  exact ⟨a, ha⟩

end Backoff

namespace Session

variable {s s' : Session} {x : Step} {r : Request}

/-- Every call of the store comes back: nothing is tried again, or all pauses
can be computed. -/
def AlwaysReturns (s : Session) : Prop := ∀ b, s.backoff = some b → b.IsTotal

theorem toySession_alwaysReturns (pendingFailures : Nat) :
    (toySession pendingFailures).AlwaysReturns := by
  intro b hb
  cases hb
  exact Backoff.moderate_query.isTotal

theorem AlwaysReturns.exists_call (hs : s.AlwaysReturns) {α : Type} (op : Operation)
    (request : Store → Except Failure α × Store) :
    ∃ outcome s', s.call op request = some (outcome, s') := by
  cases hbackoff : s.backoff with
  | none => exact ⟨_, _, call_of_none hbackoff⟩
  | some b =>
      obtain ⟨a, ha⟩ := hs b hbackoff _ _ request s.store
      rw [call_of_some hbackoff, ha]
      exact ⟨_, _, rfl⟩

/-- A request does not come back only if documents of its index straddle. -/
theorem straddling_of_fetch_eq_none (hs : s.AlwaysReturns) (h : s.fetch r = none) :
    ∃ docs, s.store.indices.lookup r.index = some docs ∧ Store.Straddling docs r := by
  obtain ⟨outcome, s', hcall⟩ := hs.exists_call .search (Store.search r)
  have hsettled : settled outcome = none := by
    cases hsettled : settled outcome <;> simp [fetch, hcall, hsettled] at h ⊢
  -- The store was reached, with the indices that it had all along, and gave up.
  obtain rfl : outcome = .ok none := by
    rcases outcome with _ | _ | _ <;> simp [settled] at hsettled ⊢
  have hkept (store : Store) (h : store.indices = s.store.indices) :
      (Store.search r store).2.indices = s.store.indices :=
    (Store.indices_search r store).1.trans h
  obtain ⟨-, store, hindices, hnone⟩ := exists_request_of_call_eq_ok hkept rfl hcall
  obtain ⟨-, -, docs, hdocs, hanswer⟩ := Store.search_eq_ok_iff.mp hnone
  rw [hindices] at hdocs
  exact ⟨docs, hdocs, Store.straddling_of_answer_eq_none hanswer⟩

/-! ### Steps that come back -/

/-- The request that a step makes. -/
def Step.request? (d : Deployment) : Step → Option Request
  | .search index c | .ask index c => (Request.ofCriteria d.settings index c).toOption
  | .searchDefault c => (Request.ofCriteria d.settings d.defaultIndex c).toOption
  | .request r => some r
  | _ => none

/-- The step asks for an order in which documents of the index straddle. -/
def MayGiveUp (s : Session) (x : Step) : Prop :=
  ∃ r docs, x.request? s.deployment = some r ∧ s.store.indices.lookup r.index = some docs ∧
    Store.Straddling docs r

theorem mayGiveUp_of_fetch_eq_none (hs : s.AlwaysReturns) {es : List Event}
    (hx : x.request? s.deployment = some r) (h : (s.record es).fetch r = none) : s.MayGiveUp x := by
  obtain ⟨docs, hdocs, hstraddling⟩ := straddling_of_fetch_eq_none (s := s.record es) hs h
  exact ⟨r, docs, hx, hdocs, hstraddling⟩

/-- **All steps come back but those on which sorting may give up.** -/
theorem mayGiveUp_of_step_eq_none (hs : s.AlwaysReturns) (h : s.step x = none) :
    s.MayGiveUp x := by
  have hsearch {index : String} {c : Criteria}
      (hx : x.request? s.deployment = (Request.ofCriteria s.settings index c).toOption)
      (h : s.search index c = none) : s.MayGiveUp x := by
    cases hq : c.compile s.settings with
    | error e =>
        rw [search_eq_searchBy, searchBy_of_refused hq] at h
        cases h
    | ok q =>
        rw [search_eq_map_fetch hq, Option.map_eq_none_iff] at h
        rw [Request.ofCriteria, hq] at hx
        exact mayGiveUp_of_fetch_eq_none hs hx h
  cases x with
  | search index c =>
      refine hsearch rfl ?_
      cases hresult : s.search index c <;> simp [step, hresult] at h ⊢
  | searchDefault c =>
      refine hsearch rfl ?_
      cases hresult : s.search s.deployment.defaultIndex c <;> simp [step, hresult] at h ⊢
  | ask index c =>
      cases hq : c.compile s.settings with
      | error e =>
          rw [step_of_refused rfl hq] at h
          cases h
      | ok q =>
          have hx : Step.request? s.deployment (.ask index c) =
              some (Request.assemble s.settings index q c) := by
            show (Request.ofCriteria s.settings index c).toOption = _
            rw [Request.ofCriteria, hq]
            rfl
          rw [step_ask_eq hq, ← fetch_map_eq_step, Option.map_eq_none_iff] at h
          exact mayGiveUp_of_fetch_eq_none hs hx h
  | request r =>
      have hr : s.step (.request r) = (Inquiry.ofRequest r []).step s := step_of_inquiry rfl
      rw [hr, ← fetch_map_eq_step, Option.map_eq_none_iff] at h
      exact mayGiveUp_of_fetch_eq_none hs rfl h
  | indexExists index =>
      obtain ⟨outcome, s', hcall⟩ := hs.exists_call .checkIndex (Store.checkIndex index)
      simp [step, Session.indexExists, hcall] at h
  | checkIndex index =>
      obtain ⟨outcome, s', hcall⟩ := hs.exists_call .checkIndex (Store.checkIndex index)
      simp [step, hcall] at h
  | _ => cases h

/-! ### Runs that come to their end -/

/-- A step changes neither the deployment nor the way calls are tried again. -/
theorem settings_of_step {a : Answer} (h : s.step x = some (a, s')) :
    s'.deployment = s.deployment ∧ s'.backoff = s.backoff := by
  by_cases hx : x.AsksStore
  · rcases step_of_asksStore s.deployment hx with ⟨c, e, hc, he⟩ | ⟨i, hi⟩
    · rw [step_of_refused hc he] at h
      cases h
      exact ⟨rfl, rfl⟩
    · rw [hi s rfl, Inquiry.step_eq_some_iff] at h
      obtain ⟨outcome, t, hcall, -, rfl⟩ := h
      have hsettings := settings_of_call hcall
      exact hsettings
  · cases x with
    | change | size | engineName | metrics =>
        cases h
        exact ⟨rfl, rfl⟩
    | _ => exact absurd trivial hx

theorem AlwaysReturns.of_step (hs : s.AlwaysReturns) {a : Answer}
    (h : s.step x = some (a, s')) : s'.AlwaysReturns :=
  fun b hb => hs b ((settings_of_step h).2.symm.trans hb)

/-- **A run comes to its end, or to a step on which sorting may give up.** -/
theorem exists_mayGiveUp_of_run_eq_none (hs : s.AlwaysReturns) {xs : List Step}
    (h : s.run xs = none) :
    ∃ before x after as t, xs = before ++ x :: after ∧ s.run before = some (as, t) ∧
      t.step x = none ∧ t.MayGiveUp x := by
  induction xs generalizing s with
  | nil => cases h
  | cons x xs ih =>
      cases hstep : s.step x with
      | none => exact ⟨[], x, xs, [], s, rfl, rfl, hstep, mayGiveUp_of_step_eq_none hs hstep⟩
      | some result =>
          obtain ⟨a, s'⟩ := result
          have hrun : s'.run xs = none := by
            cases hrun : s'.run xs <;> simp [run, hstep, hrun] at h ⊢
          obtain ⟨before, y, after, as, t, rfl, hbefore, hy⟩ := ih (hs.of_step hstep) hrun
          refine ⟨x :: before, y, after, a :: as, t, rfl, ?_, hy⟩
          rw [run, hstep]
          simp [hbefore]

end Session

end FacetedSearch
