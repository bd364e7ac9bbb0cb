import FacetedSearch.Proofs.Backoff.Delays
import FacetedSearch.Proofs.Session.Search

/-!
# `FacetedSearch.Proofs.Session.Retries`: calls of a session that are tried again

A session that tries again makes a run of attempts out of a call, and puts
every repetition on record. `run_of_outcomes` says how many attempts there
are, and what they come to, for every sequence of outcomes that a call can
have.

The store is one such call. It fails for as long as it is switched off, or
for as many calls as it was told to, and answers otherwise
(`Store.IsCall`). Both kinds of failure are transient and no answer is, so
the outcomes of a run are known from the start (`IsCall.outcomes_of_lt`,
`IsCall.outcomes_pendingFailures`). `call_of_pendingFailures` says what a
caller gets to see of them: nothing, as long as there are fewer failures
than attempts. What was told to fail is used up, once for every call, and
nothing else is changed.
-/

set_option autoImplicit false

namespace FacetedSearch

/-! ### Repetitions on record -/

namespace Metrics

/-- How many events of the series of an event are on record. -/
def countOf (m : Metrics) (e : Event) : Nat := m.events.countP fun e' => e'.series = e.series

theorem retried_series_inj {op op' : Operation} :
    (Event.retried op).series = (Event.retried op').series ↔ op = op' := by
  cases op <;> cases op' <;> decide

/-- Repetitions of one call are counted for this call alone. -/
theorem countOf_record_replicate (m : Metrics) (n : Nat) (op op' : Operation) :
    (m.record (List.replicate n (.retried op))).countOf (.retried op') =
      m.countOf (.retried op') + if op = op' then n else 0 := by
  rw [countOf, record, List.countP_append, List.countP_replicate, countOf]
  simp only [decide_eq_true_eq, retried_series_inj]

end Metrics

/-! ### Outcomes of any kind -/

open Backoff (outcomes stateAfter settles scripted counting)

namespace Session

/-- A call whose delays can be computed has the last outcome of its run, and
its repetitions are on record. -/
theorem exists_call {α : Type} {s : Session} {b : Backoff} (hb : s.backoff = some b)
    (op : Operation) (request : Store → Except Failure α × Store)
    (hdelays : ∀ i < b.attemptsFor (outcomes request s.store),
      (b.delay? i b.initialDelay).isSome = true) :
    let k := b.attemptsFor (outcomes request s.store)
    ∃ s', s.call op request = some (outcomes request s.store (k - 1), s') ∧
      s'.store = stateAfter request k s.store ∧
      s'.metrics = s.metrics.record (List.replicate (k - 1) (.retried op)) := by
  intro k
  obtain ⟨pauses, hrun, hlength⟩ := Backoff.exists_run request s.store hdelays
  rw [call_of_some hb, hrun, Option.map_some, hlength]
  exact ⟨_, rfl, rfl, rfl⟩

/-- **A run makes as many attempts as its outcomes ask for.** Whatever the
outcomes of the calls are, a run ends with the first one that is a success
or a failure that is not transient, and with the last one that the limit
admits if there is none before. It has this very outcome, after a pause for
every repetition and with every repetition on record. -/
theorem run_of_outcomes {α : Type} (b : Backoff) (tape : Nat → Except Failure α)
    (hdelays : ∀ i < b.attemptsFor tape, (b.delay? i b.initialDelay).isSome = true) :
    let m := max 1 b.maxAttempts
    let k := b.attemptsFor tape
    (0 < k ∧ k ≤ m ∧ (k < m → settles (tape (k - 1)) = true) ∧
      ∀ n, n + 1 < k → ∃ f, tape n = .error f ∧ f.isTransient = true) ∧
    (∃ pauses, b.run (scripted tape) 0 = some ⟨tape (k - 1), k, pauses⟩ ∧
      pauses.length = k - 1) ∧
    ∀ (s : Session) (op : Operation) (request : Store → Except Failure α × Store),
      s.backoff = some b → outcomes request s.store = tape →
      ∃ s', s.call op request = some (tape (k - 1), s') ∧
        s'.store = stateAfter request k s.store ∧
        s'.metrics = s.metrics.record (List.replicate (k - 1) (.retried op)) := by
  intro m k
  refine ⟨?_, ?_, ?_⟩
  · obtain ⟨n, hn⟩ := Backoff.exists_attemptsFor_eq_succ b tape
    obtain ⟨hlimit, hbefore, hlast⟩ := Backoff.attemptsFor_eq_succ_iff.mp hn
    have hk : k = n + 1 := hn
    refine ⟨by omega, by omega, fun hkm => ?_, fun i hi => ?_⟩
    · rw [hk, Nat.add_sub_cancel]
      exact hlast.resolve_right (by omega)
    · exact Backoff.settles_eq_false_iff.mp (hbefore i (by omega))
  · have hrun := Backoff.exists_run (b := b) (scripted tape) 0
    simp only [Backoff.outcomes_scripted, Backoff.stateAfter_scripted, Nat.zero_add] at hrun
    exact hrun hdelays
  · intro s op request hb htape
    have hcall := exists_call hb op request
    rw [htape] at hcall
    exact hcall hdelays

/-- A session that tries again, in front of an index of toys. The store is
to fail the next calls. -/
def toySession (pendingFailures : Nat) : Session where
  store := { indices := [("toys", [])], pendingFailures := pendingFailures }
  backoff := some .query

theorem run_of_outcomes_blip :
    ∃ pauses s',
      Backoff.query.run (scripted (outcomes (Store.checkIndex "toys") (toySession 1).store)) 0 =
        some ⟨.ok true, 2, pauses⟩ ∧ pauses.length = 1 ∧
      (toySession 1).call .checkIndex (Store.checkIndex "toys") = some (.ok true, s') ∧
      s'.store = (toySession 0).store ∧ s'.metrics.events = [.retried .checkIndex] := by
  have hattempts : Backoff.query.attemptsFor
      (outcomes (Store.checkIndex "toys") (toySession 1).store) = 2 := by decide
  obtain ⟨-, ⟨pauses, hrun, hlength⟩, hcall⟩ := run_of_outcomes Backoff.query
    (outcomes (Store.checkIndex "toys") (toySession 1).store)
    (fun i _ => Backoff.moderate_query.isSome_delay? i)
  obtain ⟨s', hcall, hstore, hmetrics⟩ :=
    hcall (toySession 1) .checkIndex (Store.checkIndex "toys") rfl rfl
  rw [hattempts] at hrun hlength hcall hstore hmetrics
  exact ⟨pauses, s', hrun, hlength, hcall, hstore, hmetrics ▸ rfl⟩

end Session

/-! ### Outcomes of a store -/

namespace Store

/-- The calls of a store, under the name of their operation. -/
inductive IsCall : {α : Type} → Operation → (Store → Except Failure α × Store) → Prop where
  | search (r : Request) : IsCall .search (search r)
  | checkIndex (index : String) : IsCall .checkIndex (checkIndex index)

/-- Why a store that is switched off gives no answer. -/
def switchedOff : Failure := .unavailable "in-memory backend switched off"

/-- Why a store that was told to fail gives no answer. -/
def injected : Failure := .connection "injected failure"

namespace IsCall

variable {α : Type} {op : Operation} {request : Store → Except Failure α × Store} {s : Store}

/-- A store that is switched off fails, and stays as it is. -/
theorem eq_of_unavailable (h : IsCall op request) (hs : s.available = false) :
    request s = (.error switchedOff, s) := by
  cases h <;> simp [Store.search, Store.checkIndex, reach, hs, switchedOff]

/-- A store that was told to fail does so, once less afterwards. -/
theorem eq_of_pending (h : IsCall op request) (hs : s.available = true) {n : Nat}
    (hn : s.pendingFailures = n + 1) :
    request s = (.error injected, { s with pendingFailures := n }) := by
  cases h <;> simp [Store.search, Store.checkIndex, reach, hs, hn, injected]

/-- A store without failures to come settles the matter, and stays as it is. -/
theorem settles_of_reachable (h : IsCall op request) (hs : s.available = true)
    (hn : s.pendingFailures = 0) : settles (request s).1 = true ∧ (request s).2 = s := by
  cases h with
  | search r =>
      -- A missing index is no transient failure.
      cases hdocs : s.indices.lookup r.index <;>
        simp [Store.search, reach, hs, hn, hdocs, settles, Failure.isTransient]
  | checkIndex index => simp [Store.checkIndex, reach, hs, hn, settles]

/-! ### Calls in turn -/

theorem stateAfter_of_unavailable (h : IsCall op request) (hs : s.available = false) (k : Nat) :
    stateAfter request k s = s := by
  induction k with
  | zero => rfl
  | succ k ih => rw [Backoff.stateAfter_succ, ih, h.eq_of_unavailable hs]

/-- A store that is switched off fails every call. -/
theorem outcomes_of_unavailable (h : IsCall op request) (hs : s.available = false) (k : Nat) :
    outcomes request s k = .error switchedOff := by
  rw [outcomes, h.stateAfter_of_unavailable hs, h.eq_of_unavailable hs]

/-- Every call that fails uses up one of the failures. -/
theorem stateAfter_of_le (h : IsCall op request) (hs : s.available = true) {k : Nat}
    (hk : k ≤ s.pendingFailures) :
    stateAfter request k s = { s with pendingFailures := s.pendingFailures - k } := by
  induction k with
  | zero => rfl
  | succ k ih =>
      have hpending : s.pendingFailures - k = s.pendingFailures - (k + 1) + 1 := by omega
      rw [Backoff.stateAfter_succ, ih (by omega)]
      rw [h.eq_of_pending (s := { s with pendingFailures := s.pendingFailures - k }) hs hpending]

theorem outcomes_of_lt (h : IsCall op request) (hs : s.available = true) {k : Nat}
    (hk : k < s.pendingFailures) : outcomes request s k = .error injected := by
  have hpending : s.pendingFailures - k = s.pendingFailures - (k + 1) + 1 := by omega
  rw [outcomes, h.stateAfter_of_le hs (by omega)]
  rw [h.eq_of_pending (s := { s with pendingFailures := s.pendingFailures - k }) hs hpending]

/-- After these failures the store answers as if there had been none. -/
theorem outcomes_pendingFailures (h : IsCall op request) (hs : s.available = true) :
    outcomes request s s.pendingFailures = (request { s with pendingFailures := 0 }).1 := by
  rw [outcomes, h.stateAfter_of_le hs (Nat.le_refl _), Nat.sub_self]

/-- A call is tried until the failures are used up, as far as the limit goes. -/
theorem attemptsFor_outcomes (h : IsCall op request) (b : Backoff) :
    b.attemptsFor (outcomes request s) =
      if s.available then min (s.pendingFailures + 1) (max 1 b.maxAttempts)
      else max 1 b.maxAttempts := by
  have hswitchedOff : settles (.error switchedOff : Except Failure α) = false := rfl
  have hinjected : settles (.error injected : Except Failure α) = false := rfl
  cases hs : s.available with
  | false =>
      have hlimit : max 1 b.maxAttempts = max 1 b.maxAttempts - 1 + 1 := by omega
      simp only [Bool.false_eq_true, if_false]
      rw [hlimit, Backoff.attemptsFor_eq_succ_iff]
      refine ⟨by omega, fun n _ => ?_, .inr (by omega)⟩
      rw [h.outcomes_of_unavailable hs, hswitchedOff]
  | true =>
      simp only [if_true]
      rcases Nat.lt_or_ge s.pendingFailures (max 1 b.maxAttempts) with hlt | hge
      · -- The answer comes within the limit.
        rw [Nat.min_eq_left hlt, Backoff.attemptsFor_eq_succ_iff]
        refine ⟨hlt, fun n hn => ?_, .inl ?_⟩
        · rw [h.outcomes_of_lt hs hn, hinjected]
        · rw [h.outcomes_pendingFailures hs]
          exact (h.settles_of_reachable (s := { s with pendingFailures := 0 }) hs rfl).1
      · have hlimit : max 1 b.maxAttempts = max 1 b.maxAttempts - 1 + 1 := by omega
        rw [Nat.min_eq_right (by omega), hlimit, Backoff.attemptsFor_eq_succ_iff]
        refine ⟨by omega, fun n hn => ?_, .inr (by omega)⟩
        rw [h.outcomes_of_lt hs (by omega), hinjected]

/-- What a call comes to in the end. -/
theorem outcomes_last (h : IsCall op request) (b : Backoff) :
    outcomes request s (b.attemptsFor (outcomes request s) - 1) =
      if s.available then
        if max 1 b.maxAttempts ≤ s.pendingFailures then .error injected
        else (request { s with pendingFailures := 0 }).1
      else .error switchedOff := by
  rw [h.attemptsFor_outcomes]
  by_cases hs : s.available = true
  · rw [if_pos hs, if_pos hs]
    split
    · exact h.outcomes_of_lt hs (by omega)
    · have hcalls : min (s.pendingFailures + 1) (max 1 b.maxAttempts) - 1 =
          s.pendingFailures := by omega
      rw [hcalls, h.outcomes_pendingFailures hs]
  · rw [if_neg hs, if_neg hs]
    exact h.outcomes_of_unavailable (Bool.eq_false_iff.mpr hs) _

/-- What a call leaves of the store in the end. -/
theorem stateAfter_last (h : IsCall op request) (b : Backoff) :
    stateAfter request (b.attemptsFor (outcomes request s)) s =
      { s with
        pendingFailures :=
          if s.available then s.pendingFailures - min s.pendingFailures (max 1 b.maxAttempts)
          else s.pendingFailures } := by
  rw [h.attemptsFor_outcomes]
  by_cases hs : s.available = true
  · rw [if_pos hs, if_pos hs]
    rcases Nat.lt_or_ge s.pendingFailures (max 1 b.maxAttempts) with hlt | hge
    · -- The last call is answered, and an answer uses up nothing.
      have hlast := h.settles_of_reachable (s := { s with pendingFailures := 0 }) hs rfl
      rw [Nat.min_eq_left hlt, Backoff.stateAfter_succ, h.stateAfter_of_le hs (Nat.le_refl _),
        Nat.min_eq_left (by omega), Nat.sub_self, hlast.2]
    · rw [Nat.min_eq_right (by omega), h.stateAfter_of_le hs hge, Nat.min_eq_right hge]
  · rw [if_neg hs, if_neg hs]
    exact h.stateAfter_of_unavailable (Bool.eq_false_iff.mpr hs) _

end IsCall

end Store

/-- **Trying again hides failures that pass.** A store that is to fail the
next `n` calls is called `n + 1` times, or `m` times if that is the limit.
The caller sees the failure if it used up the limit, and otherwise the
answer that the store would have given without any. Every call but the last
one that was answered has used up a failure, every repetition is on record,
and nothing else about the store is different. A store that is switched off
is called `m` times, and is not changed at all.

A request is such a call. It comes back with this outcome, unless the store
would have given up on sorting. -/
theorem Session.call_of_pendingFailures {α : Type} {s : Session} {b : Backoff} {op : Operation}
    {request : Store → Except Failure α × Store} (hb : s.backoff = some b)
    (hrequest : Store.IsCall op request)
    (hdelays : ∀ i < (if s.store.available then
        min (s.store.pendingFailures + 1) (max 1 b.maxAttempts) else max 1 b.maxAttempts),
      (b.delay? i b.initialDelay).isSome = true) :
    let n := s.store.pendingFailures
    let m := max 1 b.maxAttempts
    let calls := if s.store.available then min (n + 1) m else m
    let outcome {β : Type} (answer : Except Failure β) : Except Failure β :=
      if s.store.available then
        if m ≤ n then .error (.connection "injected failure") else answer
      else .error (.unavailable "in-memory backend switched off")
    let answering : Store := { s.store with pendingFailures := 0 }
    let store : Store :=
      { s.store with pendingFailures := if s.store.available then n - min n m else n }
    (∃ pauses, b.run (counting request) (s.store, 0) =
      some ⟨outcome (request answering).1, (store, calls), pauses⟩) ∧
    (∃ s', s.call op request = some (outcome (request answering).1, s') ∧ s'.store = store ∧
      ∀ op', s'.metrics.countOf (.retried op') =
        s.metrics.countOf (.retried op') + if op = op' then calls - 1 else 0) ∧
    ∀ r, (s.fetch r).map (·.1) = settled (outcome (Store.search r answering).1) := by
  intro n m calls outcome answering store
  -- Which call it is makes no difference for how often it is made.
  have hcall {β : Type} {op : Operation} {request : Store → Except Failure β × Store}
      (hrequest : Store.IsCall op request) :
      b.attemptsFor (outcomes request s.store) = calls ∧
      outcomes request s.store (calls - 1) = outcome (request answering).1 ∧
      ∀ i < b.attemptsFor (outcomes request s.store),
        (b.delay? i b.initialDelay).isSome = true := by
    have hcalls : b.attemptsFor (outcomes request s.store) = calls :=
      hrequest.attemptsFor_outcomes b
    exact ⟨hcalls, hcalls ▸ hrequest.outcomes_last b, hcalls ▸ hdelays⟩
  obtain ⟨hcalls, houtcome, hdelays'⟩ := hcall hrequest
  have hstore : stateAfter request calls s.store = store := hcalls ▸ hrequest.stateAfter_last b
  refine ⟨?_, ?_, fun r => ?_⟩
  · obtain ⟨pauses, hrun, -⟩ := Backoff.exists_run request s.store hdelays'
    refine ⟨pauses, ?_⟩
    rw [Backoff.run_counting, hrun, hcalls, houtcome, hstore]
    rfl
  · obtain ⟨s', hcall, hs', hmetrics⟩ := exists_call hb op request hdelays'
    rw [hcalls] at hcall hs' hmetrics
    refine ⟨s', by rw [hcall, houtcome], hs'.trans hstore, fun op' => ?_⟩
    rw [hmetrics, Metrics.countOf_record_replicate]
  · obtain ⟨hcalls, houtcome, hdelays⟩ := hcall (.search r)
    obtain ⟨s', hcall, -, -⟩ := exists_call hb .search (Store.search r) hdelays
    rw [hcalls, houtcome] at hcall
    cases hsettled : settled (outcome (Store.search r answering).1) <;>
      simp [fetch, hcall, hsettled]

theorem Session.call_of_pendingFailures_toys :
    ((toySession 5).backoff = some .query ∧
      Store.IsCall .checkIndex (Store.checkIndex "toys")) ∧
    (∃ pauses, Backoff.query.run (counting (Store.checkIndex "toys")) ((toySession 5).store, 0) =
      some ⟨.error (.connection "injected failure"), ((toySession 2).store, 3), pauses⟩) ∧
    ∃ s', (toySession 5).call .checkIndex (Store.checkIndex "toys") =
        some (.error (.connection "injected failure"), s') ∧
      s'.store = (toySession 2).store ∧ s'.metrics.countOf (.retried .checkIndex) = 2 := by
  have hrequest : Store.IsCall .checkIndex (Store.checkIndex "toys") := .checkIndex "toys"
  obtain ⟨hrun, ⟨s', hcall, hstore, hmetrics⟩, -⟩ := call_of_pendingFailures (s := toySession 5)
    (b := .query) rfl hrequest (fun i _ => Backoff.moderate_query.isSome_delay? i)
  exact ⟨⟨rfl, hrequest⟩, hrun, s', hcall, hstore, hmetrics .checkIndex⟩

end FacetedSearch
