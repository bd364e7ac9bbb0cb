import FacetedSearch.Proofs.Metrics.Report
import FacetedSearch.Proofs.Session.Traceless

/-!
# `FacetedSearch.Proofs.Session.Balance`: the record balances with the run

What a service puts on record can be checked against what its callers did
and got: so many criteria compiled, so many searches that had results, so
many indices found. `Balanced` collects these equations, for any piece of a
run. They hold of every step (`exists_balanced_of_step`), and pieces that
follow each other add up (`Balanced.append`), so they hold of every run.

How often the store is called is not on record at all. It can be counted by
a call that counts itself (`Inquiry.calls`). Of every call that is tried
again each repetition is on record, and so the balance of calls made and
steps taken is the number of repetitions.

`metrics_of_run` is the balance as a report shows it.
-/

set_option autoImplicit false

namespace FacetedSearch.Session

open Backoff (counting)

/-! ### What is counted of a run -/

namespace Step

/-- The step searches for results. -/
def isSearch : Step → Bool
  | .search .. | .searchDefault .. => true
  | _ => false

/-- The step asks for an index, where a failure counts as no. -/
def isProbe : Step → Bool
  | .indexExists _ => true
  | _ => false

/-- The step has criteria that compile. -/
def compiles (settings : Settings) (x : Step) : Bool :=
  x.criteria?.any fun c => (c.compile settings).isOk

/-- The step has criteria that are refused for this sort of reason. -/
def isRefused (settings : Settings) (kind : Filter.Error.Kind) (x : Step) : Bool :=
  x.criteria?.any fun c =>
    match c.compile settings with
    | .ok _ => false
    | .error e => e.kind = kind

/-- The call of the engine that the step makes. -/
def operation? (d : Deployment) (x : Step) : Option Operation := (x.inquiry? d).map (·.operation)

end Step

namespace Answer

/-- The answer is yes. -/
def isTrue : Answer → Bool
  | .truth b => b
  | _ => false

/-- How many documents were found. -/
def total? : Answer → Option Nat
  | .results r => some r.total
  | _ => none

/-- How many facet values there are, those of all facets together. -/
def facetValues? : Answer → Option Nat
  | .results r => some (r.facets.map (·.2.length)).sum
  | _ => none

/-- The samples under a name that the answer reports. -/
def samples (name : String) : Answer → List Nat
  | .metrics report => Metrics.samplesIn report name
  | _ => []

end Answer

/-- How often the store is called for an inquiry. -/
def Inquiry.calls (i : Inquiry) (s : Session) : Nat :=
  match s.backoff with
  | none => 1
  | some b => ((b.run (counting i.request) (s.store, 0)).map (·.state.2)).getD 0

/-- How often a step calls the store by an operation. -/
def callsOf (s : Session) (x : Step) (op : Operation) : Nat :=
  match x.inquiry? s.deployment with
  | some i => if i.operation = op then i.calls s else 0
  | none => 0

/-- How often the steps of a run call the store by an operation. -/
def callsOfRun (s : Session) (xs : List Step) (op : Operation) : Nat :=
  match xs with
  | [] => 0
  | x :: rest =>
    s.callsOf x op +
      match s.step x with
      | some (_, s') => s'.callsOfRun rest op
      | none => 0

/-! ### Pieces of a run -/

/-- The events of a piece of a run balance with its steps, their answers and the
calls of the store. -/
structure Balanced (d : Deployment) (calls : Operation → Nat) (xs : List Step)
    (as : List Answer) (es : List Event) : Prop where
  length : as.length = xs.length
  compiling : es.countP (·.isCompiling) = xs.countP (·.criteria?.isSome)
  rejected : ∀ kind, es.count (.rejected kind) = xs.countP (·.isRefused d.settings kind)
  queried : es.countP (·.isQuery true) + es.countP (·.isQuery false) =
    xs.countP fun x => x.isSearch && x.compiles d.settings
  succeeded : es.countP (·.isQuery true) = as.countP (·.total?.isSome)
  found : es.filterMap Event.found? = as.filterMap Answer.total?
  facetValues : es.filterMap Event.facetValues? = as.filterMap Answer.facetValues?
  probed : es.count (.probed .present) + es.count (.probed .absent) + es.count (.probed .error) =
    xs.countP (·.isProbe)
  present : es.count (.probed .present) = (xs.zip as).countP fun r => r.1.isProbe && r.2.isTrue
  retried : ∀ op, es.count (.retried op) + xs.countP (·.operation? d = some op) = calls op

namespace Balanced

variable {d : Deployment} {calls calls' : Operation → Nat} {xs xs' : List Step}
  {as as' : List Answer} {es es' : List Event}

theorem nil (d : Deployment) : Balanced d (fun _ => 0) [] [] [] := by
  constructor <;> simp

/-- Pieces that follow each other are balanced together. -/
theorem append (h : Balanced d calls xs as es) (h' : Balanced d calls' xs' as' es') :
    Balanced d (fun op => calls op + calls' op) (xs ++ xs') (as ++ as') (es ++ es') where
  length := by rw [List.length_append, List.length_append, h.length, h'.length]
  compiling := by rw [List.countP_append, List.countP_append, h.compiling, h'.compiling]
  rejected kind := by
    rw [List.count_append, List.countP_append, h.rejected, h'.rejected]
  queried := by
    rw [List.countP_append, List.countP_append, List.countP_append, ← h.queried, ← h'.queried]
    omega
  succeeded := by rw [List.countP_append, List.countP_append, h.succeeded, h'.succeeded]
  found := by rw [List.filterMap_append, List.filterMap_append, h.found, h'.found]
  facetValues := by
    rw [List.filterMap_append, List.filterMap_append, h.facetValues, h'.facetValues]
  probed := by
    rw [List.count_append, List.count_append, List.count_append, List.countP_append, ← h.probed,
      ← h'.probed]
    omega
  present := by
    rw [List.count_append, List.zip_append h.length.symm, List.countP_append, h.present,
      h'.present]
  retried op := by
    rw [List.count_append, List.countP_append, ← h.retried, ← h'.retried]
    omega

/-- Repetitions of a call balance with further calls. -/
theorem retry (h : Balanced d calls xs as (es ++ es')) (op : Operation) (n : Nat) :
    Balanced d (fun op' => calls op' + if op = op' then n else 0) xs as
      (es ++ List.replicate n (.retried op) ++ es') where
  length := h.length
  compiling := by simp [← h.compiling, Event.isCompiling]
  rejected kind := by simp [← h.rejected, List.count_replicate]
  queried := by simp [← h.queried, List.countP_replicate, Event.isQuery]
  succeeded := by simp [← h.succeeded, Event.isQuery]
  found := by simp [← h.found, Event.found?]
  facetValues := by simp [← h.facetValues, Event.facetValues?]
  probed := by simp [← h.probed, List.count_replicate]
  present := by simp [← h.present, List.count_replicate]
  retried op' := by
    simp only [← h.retried, List.count_append, List.count_replicate, beq_iff_eq,
      Event.retried.injEq]
    omega

end Balanced

/-! ### The record of a piece of a run -/

/-- The record `m'` goes on from `m` by these events. Of the samples that no
report had shown, some are shown by the answers, and the others are left. -/
structure Continues (m m' : Metrics) (as : List Answer) (es : List Event) : Prop where
  events : m'.events = m.events ++ es
  reported : m'.reported ≤ m'.events.length
  samples {name : String} {sample? : Event → Option Nat} :
    (∀ m : Metrics, Metrics.samplesIn m.report name = m.unreported.filterMap sample?) →
    as.flatMap (·.samples name) ++ m'.unreported.filterMap sample? =
      (m.unreported ++ es).filterMap sample?

namespace Continues

variable {m m' m'' : Metrics} {as as' : List Answer} {es es' : List Event}

theorem refl (hm : m.reported ≤ m.events.length) : Continues m m [] [] where
  events := (List.append_nil _).symm
  reported := hm
  samples _ := by simp

theorem trans (h : Continues m m' as es) (h' : Continues m' m'' as' es') :
    Continues m m'' (as ++ as') (es ++ es') where
  events := by rw [h'.events, h.events, List.append_assoc]
  reported := h'.reported
  samples hname := by
    rw [List.flatMap_append, List.append_assoc, h'.samples hname, List.filterMap_append,
      ← List.append_assoc, h.samples hname, ← List.filterMap_append, List.append_assoc]

/-- Events are put on record. -/
theorem record {a : Answer} (hm : m.reported ≤ m.events.length)
    (ha : ∀ name, a.samples name = []) (es : List Event) :
    Continues m (m.record es) [a] es where
  events := rfl
  reported := by
    rw [Metrics.record, List.length_append]
    exact Nat.le_add_right_of_le hm
  samples _ := by
    rw [List.flatMap_singleton, ha, List.nil_append, Metrics.unreported, Metrics.record,
      List.drop_append_of_le_length hm]
    rfl

/-- Nothing is put on record. -/
theorem silent {a : Answer} (hm : m.reported ≤ m.events.length)
    (ha : ∀ name, a.samples name = []) : Continues m m [a] [] := by
  have h := record hm ha []
  rwa [Metrics.record, List.append_nil] at h

/-- The record is reported. -/
theorem report (m : Metrics) : Continues m m.markReported [.metrics m.report] [] where
  events := (List.append_nil _).symm
  reported := Nat.le_refl _
  samples hname := by
    have hunreported : m.markReported.unreported = [] := List.drop_length
    rw [List.flatMap_singleton, Answer.samples, hname, hunreported, List.filterMap_nil]
    simp

end Continues

/-! ### Steps -/

variable {s s' : Session} {x : Step} {a : Answer}

/-- A call puts its repetitions on record, one less than the store is called. -/
theorem exists_retries_of_call (i : Inquiry) {outcome : Except Failure i.α}
    (h : s.call i.operation i.request = some (outcome, s')) :
    ∃ n, s'.metrics = s.metrics.record (List.replicate n (.retried i.operation)) ∧
      i.calls s = n + 1 := by
  rcases call_cases h with ⟨hbackoff, -, rfl⟩ | ⟨b, attempts, hbackoff, hrun, -, rfl⟩
  · refine ⟨0, by simp [Metrics.record], ?_⟩
    rw [Inquiry.calls, hbackoff]
  · refine ⟨attempts.pauses.length, rfl, ?_⟩
    -- There is a pause for every attempt but the last one.
    obtain ⟨k, hk⟩ := Backoff.exists_attemptsFor_eq_succ b (Backoff.outcomes i.request s.store)
    have hpauses : attempts.pauses.length = k := by
      rw [Backoff.run_eq, Option.map_eq_some_iff] at hrun
      obtain ⟨pauses, hpauses, rfl⟩ := hrun
      rw [hk] at hpauses
      exact Backoff.length_of_pauses? hpauses
    rw [Inquiry.calls, hbackoff]
    show ((b.run (counting i.request) (s.store, 0)).map (·.state.2)).getD 0 = _
    rw [Backoff.run_counting, hrun, hk, hpauses]
    rfl

/-- What an inquiry puts on record, and how often it calls the store. -/
theorem Inquiry.exists_of_step {i : Inquiry} (h : i.step s = some (a, s')) :
    ∃ outcome n, i.answer outcome = some a ∧
      s'.metrics = s.metrics.record
        (i.before ++ List.replicate n (.retried i.operation) ++ i.after outcome) ∧
      i.calls s = n + 1 := by
  obtain ⟨outcome, t, hcall, hanswer, rfl⟩ := Inquiry.step_eq_some_iff.mp h
  obtain ⟨n, hmetrics, hcalls⟩ := exists_retries_of_call i hcall
  refine ⟨outcome, n, hanswer, ?_, hcalls⟩
  show t.metrics.record _ = _
  rw [hmetrics]
  show ((s.metrics.record _).record _).record _ = _
  simp [Metrics.record]

/-- An inquiry balances that is not repeated: the store is called once. -/
theorem Inquiry.balanced {d : Deployment} {i : Inquiry} (h : x.inquiry? d = some i)
    {outcome : Except Failure i.α} (ha : i.answer outcome = some a) :
    Balanced d (fun op => [x].countP (·.operation? d = some op)) [x] [a]
      (i.before ++ i.after outcome) := by
  -- One step, one answer and a few events: each equation is computed from the case.
  cases x with
  | search _ c | searchDefault c =>
      obtain ⟨q, hq, rfl⟩ := Inquiry.whenCompiled_eq_some_iff.mp h
      rcases outcome with f | _ | resp <;> cases ha <;> constructor <;>
        simp [List.filterMap_cons, Inquiry.search, resultEvents, h, hq, Step.operation?,
          Step.criteria?, Step.isRefused, Step.isSearch, Step.compiles, Step.isProbe,
          Except.isOk, Except.toBool, Event.isCompiling, Event.isQuery, Event.found?,
          Event.facetValues?, Answer.total?, Answer.facetValues?]
  | ask _ c =>
      obtain ⟨q, hq, rfl⟩ := Inquiry.whenCompiled_eq_some_iff.mp h
      rcases outcome with f | _ | resp <;> cases ha <;> constructor <;>
        simp [List.filterMap_cons, Inquiry.ofRequest, h, hq, Answer.ofResponse, Step.operation?,
          Step.criteria?, Step.isRefused, Step.isSearch, Step.isProbe, Event.isCompiling,
          Event.isQuery, Event.found?, Event.facetValues?, Answer.total?, Answer.facetValues?]
  | request r =>
      cases h
      rcases outcome with f | _ | resp <;> cases ha <;> constructor <;>
        simp [Inquiry.ofRequest, Answer.ofResponse, Step.operation?, Step.inquiry?, Step.criteria?,
          Step.isRefused, Step.isSearch, Step.isProbe, Answer.total?, Answer.facetValues?]
  | indexExists index =>
      cases h
      rcases outcome with f | _ | _ <;> cases ha <;> constructor <;>
        simp [List.filterMap_cons, Inquiry.indexExists, Step.operation?, Step.inquiry?,
          Step.criteria?, Step.isRefused, Step.isSearch, Step.isProbe, Event.isCompiling,
          Event.isQuery, Event.found?, Event.facetValues?, Answer.isTrue, Answer.total?,
          Answer.facetValues?]
  | checkIndex index =>
      cases h
      cases outcome <;> cases ha <;> constructor <;>
        simp [Inquiry.checkIndex, Answer.ofTruth, Step.operation?, Step.inquiry?, Step.criteria?,
          Step.isRefused, Step.isSearch, Step.isProbe, Answer.total?, Answer.facetValues?]
  | _ => cases h

/-- So does a refusal, which is all that comes of the step. -/
theorem balanced_of_refused {d : Deployment} {c : Criteria} {e : Filter.Error}
    (hc : x.criteria? = some c) (he : c.compile d.settings = .error e) :
    Balanced d (fun _ => 0) [x] [.refused (.filter e)] [.rejected e.kind] := by
  have hnone : Inquiry.whenCompiled d.settings c = fun _ => none := by
    funext inquiry
    exact Inquiry.whenCompiled_eq_none_iff.mpr ⟨e, he⟩
  cases x with
  | search | searchDefault | ask =>
      cases hc
      constructor <;>
        simp [List.count_singleton, List.filterMap_cons, hnone, he, Step.operation?, Step.inquiry?,
          Step.criteria?, Step.isRefused, Step.isSearch, Step.compiles, Step.isProbe, Except.isOk,
          Except.toBool, Event.isCompiling, Event.isQuery, Event.found?, Event.facetValues?,
          Answer.total?, Answer.facetValues?]
  | _ => cases hc

/-- And so do the other steps, which do not ask the store: they put nothing on record. -/
theorem balanced_of_not_asksStore {d : Deployment} (hx : ¬x.AsksStore)
    (ha : ∀ r, a ≠ .results r) : Balanced d (fun _ => 0) [x] [a] [] := by
  have htotal : a.total? = none := by
    cases a <;> first | rfl | exact absurd rfl (ha _)
  have hfacetValues : a.facetValues? = none := by
    cases a <;> first | rfl | exact absurd rfl (ha _)
  cases x with
  | change | size | engineName | metrics =>
      constructor <;>
        simp [htotal, hfacetValues, Step.operation?, Step.inquiry?, Step.criteria?, Step.isRefused,
          Step.isSearch, Step.isProbe]
  | _ => exact absurd trivial hx

/-- No inquiry is answered by a report. -/
theorem Inquiry.samples_answer {d : Deployment} {i : Inquiry} (h : x.inquiry? d = some i)
    {outcome : Except Failure i.α} (ha : i.answer outcome = some a) (name : String) :
    a.samples name = [] := by
  cases x with
  | search _ c | searchDefault c | ask _ c =>
      obtain ⟨q, -, rfl⟩ := Inquiry.whenCompiled_eq_some_iff.mp h
      rcases outcome with f | _ | resp <;> cases ha <;> rfl
  | request r =>
      cases h
      rcases outcome with f | _ | resp <;> cases ha <;> rfl
  | indexExists | checkIndex =>
      cases h
      cases outcome <;> cases ha <;> rfl
  | _ => cases h

/-- **Every step balances**, and the record goes on from where it was. -/
theorem exists_balanced_of_step (hs : s.metrics.reported ≤ s.metrics.events.length)
    (h : s.step x = some (a, s')) :
    ∃ es, Continues s.metrics s'.metrics [a] es ∧
      Balanced s.deployment (s.callsOf x) [x] [a] es := by
  cases hi : x.inquiry? s.deployment with
  | some i =>
      rw [step_of_inquiry hi] at h
      obtain ⟨outcome, n, hanswer, hmetrics, hcalls⟩ := Inquiry.exists_of_step h
      have hrecord := Continues.record hs (Inquiry.samples_answer hi hanswer)
        (i.before ++ List.replicate n (.retried i.operation) ++ i.after outcome)
      rw [← hmetrics] at hrecord
      refine ⟨_, hrecord, ?_⟩
      have hcallsOf : s.callsOf x = fun op =>
          [x].countP (·.operation? s.deployment = some op) + if i.operation = op then n else 0 := by
        funext op
        by_cases hop : i.operation = op
        · simp [callsOf, hi, hcalls, Step.operation?, hop, Nat.add_comm]
        · simp [callsOf, hi, Step.operation?, hop]
      rw [hcallsOf]
      exact (Inquiry.balanced hi hanswer).retry i.operation n
  | none =>
      have hcalls : s.callsOf x = fun _ => 0 := by
        funext op
        simp only [callsOf, hi]
      rw [hcalls]
      by_cases hx : x.AsksStore
      · obtain ⟨c, e, hc, he⟩ := exists_refused_of_inquiry?_eq_none hx hi
        rw [step_of_refused hc he] at h
        cases h
        exact ⟨_, .record hs (fun _ => rfl) _, balanced_of_refused hc he⟩
      · cases x with
        | metrics =>
            cases h
            exact ⟨[], .report s.metrics, balanced_of_not_asksStore hx fun _ => nofun⟩
        | change | size | engineName =>
            cases h
            exact ⟨[], .silent hs fun _ => rfl, balanced_of_not_asksStore hx fun _ => nofun⟩
        | _ => exact absurd trivial hx

/-! ### Runs -/

/-- **Every run balances.** -/
theorem exists_balanced_of_run (hs : s.metrics.reported ≤ s.metrics.events.length)
    {xs : List Step} {as : List Answer} (h : s.run xs = some (as, s')) :
    ∃ es, Continues s.metrics s'.metrics as es ∧
      Balanced s.deployment (s.callsOfRun xs) xs as es := by
  induction xs generalizing s as with
  | nil =>
      cases h
      exact ⟨[], .refl hs, .nil _⟩
  | cons x xs ih =>
      rw [run] at h
      simp only [Option.bind_eq_bind, Option.bind_eq_some_iff] at h
      obtain ⟨⟨a, t⟩, hstep, ⟨as, s''⟩, hrun, h⟩ := h
      cases h
      obtain ⟨es, hrecord, hbalanced⟩ := exists_balanced_of_step hs hstep
      obtain ⟨es', hrecord', hbalanced'⟩ := ih hrecord.reported hrun
      refine ⟨es ++ es', hrecord.trans hrecord', ?_⟩
      have hcalls : s.callsOfRun (x :: xs) = fun op => s.callsOf x op + t.callsOfRun xs op := by
        funext op
        rw [callsOfRun, hstep]
      rw [hcalls]
      rw [(settings_of_step hstep).1] at hbalanced'
      exact hbalanced.append hbalanced'

open Metrics (totalIn samplesIn)

/-- **The metrics of a run balance.** In a session that starts with nothing on
record, any steps in any order are followed by a report in which

* every step with criteria was counted once, and those that were refused under
  the sort of their error,
* every search with criteria that compiled was counted once, and those that had
  results as successes,
* the totals found and the numbers of facet values are those of the results, in
  their order, as far as no report in between has shown them already,
* every look for an index was counted once, and those that found it as such,
* the repetitions of a call are the calls that the store had, less the calls that
  the steps made.

If all pauses can be computed, a run comes to its end, unless it gets to a step
in which sorting gives up on documents that straddle. -/
theorem metrics_of_run {s : Session} (hs : s.metrics = {}) (xs : List Step) :
    (s.AlwaysReturns → s.run xs = none → ∃ before x after as t, xs = before ++ x :: after ∧
      s.run before = some (as, t) ∧ t.step x = none ∧ t.MayGiveUp x) ∧
    ∀ as s', s.run xs = some (as, s') →
      let report := s'.metrics.report
      as.length = xs.length ∧
      totalIn report "criteria_search_compiles_total" [] = xs.countP (·.criteria?.isSome) ∧
      (∀ kind, totalIn report "criteria_search_compiles_total"
          [("status", "rejected"), ("error_type", kind.label)] =
        xs.countP (·.isRefused s.settings kind)) ∧
      totalIn report "criteria_search_queries_total" [("status", "success")] +
          totalIn report "criteria_search_queries_total" [("status", "error")] =
        xs.countP (fun x => x.isSearch && x.compiles s.settings) ∧
      totalIn report "criteria_search_queries_total" [("status", "success")] =
        as.countP (·.total?.isSome) ∧
      as.flatMap (·.samples "criteria_search_results") ++
          samplesIn report "criteria_search_results" = as.filterMap Answer.total? ∧
      as.flatMap (·.samples "criteria_search_facet_buckets") ++
          samplesIn report "criteria_search_facet_buckets" = as.filterMap Answer.facetValues? ∧
      totalIn report "criteria_search_index_probes_total" [("outcome", "present")] +
          totalIn report "criteria_search_index_probes_total" [("outcome", "absent")] +
          totalIn report "criteria_search_index_probes_total" [("outcome", "error")] =
        xs.countP (·.isProbe) ∧
      totalIn report "criteria_search_index_probes_total" [("outcome", "present")] =
        (xs.zip as).countP (fun r => r.1.isProbe && r.2.isTrue) ∧
      ∀ op, totalIn report "criteria_search_retries_total" [("operation", op.name)] +
          xs.countP (·.operation? s.deployment = some op) = s.callsOfRun xs op := by
  constructor
  · exact fun hreturns => exists_mayGiveUp_of_run_eq_none hreturns
  · intro as s' hrun report
    have hreported : s.metrics.reported ≤ s.metrics.events.length := by
      rw [hs]
      exact Nat.zero_le _
    obtain ⟨es, hrecord, h⟩ := exists_balanced_of_run hreported hrun
    -- All events on record are those of the run, and none was reported before it.
    have hevents : s'.metrics.events = es := by
      rw [hrecord.events, hs]
      rfl
    have hunreported : s.metrics.unreported ++ es = es := by
      rw [hs]
      rfl
    have hsamples {name : String} {sample? : Event → Option Nat}
        (hname : ∀ m : Metrics, samplesIn m.report name = m.unreported.filterMap sample?) :
        as.flatMap (·.samples name) ++ samplesIn report name = es.filterMap sample? := by
      rw [hname, hrecord.samples hname, hunreported]
    subst hevents
    have hqueries (succeeded : Bool) := Metrics.totalIn_queried (m := s'.metrics) succeeded
    refine ⟨h.length, ?_, fun kind => ?_, ?_, ?_, ?_, ?_, ?_, ?_, fun op => ?_⟩
    · rw [Metrics.totalIn_compiles, h.compiling]
    · rw [Metrics.totalIn_rejected, h.rejected]
      rfl
    · exact (congrArg₂ (· + ·) (hqueries true) (hqueries false)).trans h.queried
    · exact (hqueries true).trans h.succeeded
    · rw [hsamples fun _ => Metrics.samplesIn_report_found, h.found]
    · rw [hsamples fun _ => Metrics.samplesIn_report_facetValues, h.facetValues]
    · rw [← h.probed, ← Metrics.totalIn_probed, ← Metrics.totalIn_probed, ← Metrics.totalIn_probed]
      rfl
    · rw [← h.present, ← Metrics.totalIn_probed]
      rfl
    · rw [Metrics.totalIn_retried, h.retried]

/-- A toy arrives at a store that is to fail twice. The toys are searched, once with
criteria that are refused, and so is an index that is not there. Then the store
is switched off, between two looks for the index. -/
def mixedSteps : List Step :=
  [.change (.insert "toys" "1" (.object [("shape", .string "round")])) "toys",
    .search "toys" { facets := ["shape"] }, .searchDefault unreadable, .search "dolls" {}, .metrics,
    .indexExists "toys", .change (.setAvailable false) "toys", .indexExists "toys", .ask "toys" {}]

theorem metrics_of_run_mixed :
    (toySession 2).metrics = {} ∧
    ∃ as s', (toySession 2).run mixedSteps = some (as, s') ∧
      let report := s'.metrics.report
      totalIn report "criteria_search_compiles_total" [] = 4 ∧
      totalIn report "criteria_search_compiles_total"
        [("status", "rejected"), ("error_type", "malformed_filter_shape")] = 1 ∧
      totalIn report "criteria_search_queries_total" [("status", "success")] = 1 ∧
      totalIn report "criteria_search_queries_total" [("status", "error")] = 1 ∧
      as.flatMap (·.samples "criteria_search_facet_buckets") ++
        samplesIn report "criteria_search_facet_buckets" = [1] ∧
      totalIn report "criteria_search_index_probes_total" [("outcome", "present")] = 1 ∧
      totalIn report "criteria_search_retries_total" [("operation", "search")] = 4 ∧
      totalIn report "criteria_search_retries_total" [("operation", "check_index")] = 2 := by
  have hs : (toySession 2).metrics = {} := rfl
  have hcomes : ((toySession 2).run mixedSteps).isSome = true := by decide +kernel
  obtain ⟨⟨as, s'⟩, hrun⟩ := Option.isSome_iff_exists.mp hcomes
  obtain ⟨-, hbalance⟩ := metrics_of_run hs mixedSteps
  obtain ⟨-, hcompiles, hrejected, hqueries, hsuccess, -, hfacets, -, hpresent, hretries⟩ :=
    hbalance as s' hrun
  -- What the steps and their answers come to.
  have hanswers : ((toySession 2).run mixedSteps).map (fun r =>
      (r.1.countP (·.total?.isSome), r.1.filterMap Answer.facetValues?,
        (mixedSteps.zip r.1).countP fun r => r.1.isProbe && r.2.isTrue)) = some (1, [1], 1) := by
    decide +kernel
  rw [hrun, Option.map_some, Option.some_inj, Prod.mk.injEq, Prod.mk.injEq] at hanswers
  have hsearches : mixedSteps.countP
      (fun x => x.isSearch && x.compiles (toySession 2).settings) = 2 := by decide +kernel
  have hsearchCalls : (toySession 2).callsOfRun mixedSteps .search = 7 := by decide +kernel
  have hcheckCalls : (toySession 2).callsOfRun mixedSteps .checkIndex = 4 := by decide +kernel
  have hsearchSteps : mixedSteps.countP
      (·.operation? (toySession 2).deployment = some .search) = 3 := by decide +kernel
  have hcheckSteps : mixedSteps.countP
      (·.operation? (toySession 2).deployment = some .checkIndex) = 2 := by decide +kernel
  have hsearchRetries := hretries .search
  have hcheckRetries := hretries .checkIndex
  rw [hsearchCalls, hsearchSteps] at hsearchRetries
  rw [hcheckCalls, hcheckSteps] at hcheckRetries
  rw [hanswers.1] at hsuccess
  rw [hanswers.2.1] at hfacets
  rw [hanswers.2.2] at hpresent
  rw [hsuccess, hsearches] at hqueries
  refine ⟨hs, as, s', hrun, hcompiles, (hrejected .malformed).trans (by decide +kernel), hsuccess,
    by omega, hfacets, hpresent, ?_, ?_⟩
  · exact Nat.add_right_cancel hsearchRetries
  · exact Nat.add_right_cancel hcheckRetries

end FacetedSearch.Session
