import FacetedSearch.Proofs.Backoff.Attempts

/-!
# `FacetedSearch.Proofs.Backoff.Outcomes`: how a run follows from its outcomes

A call that is made over and over again has a sequence of outcomes
(`outcomes`). A run follows this sequence up to the first outcome that
settles the matter, a success or a failure that is not transient, or up to
the limit of attempts. `attemptsFor` counts these attempts, in terms of
the sequence alone.

`run_eq` says all that a run does: its outcome is the last one that it
followed, its state the one after so many calls, and its pauses are the
delays that were asked for. A run has no outcome exactly when one of these
delays cannot be computed, which the attempts have no influence on
(`pauses?_eq_none_iff`).

That a run makes so many calls can be seen when the call counts itself:
`run_counting`, and `stateAfter_scripted` for a sequence that is given.
-/

set_option autoImplicit false

namespace FacetedSearch.Backoff

variable {σ α : Type} {b : Backoff} {call : σ → Except Failure α × σ} {s : σ}

/-! ### Calls one after the other -/

/-- Whether there is no point in trying again: a success, or a failure
that is not transient. -/
def settles : Except Failure α → Bool
  | .ok _ => true
  | .error f => !f.isTransient

theorem settles_eq_false_iff {outcome : Except Failure α} :
    settles outcome = false ↔ ∃ f, outcome = .error f ∧ f.isTransient = true := by
  cases outcome <;> simp [settles]

/-- The state after a number of calls. -/
def stateAfter (call : σ → Except Failure α × σ) : Nat → σ → σ
  | 0, s => s
  | n + 1, s => stateAfter call n (call s).2

/-- The outcomes of the calls that are made from a state on. -/
def outcomes (call : σ → Except Failure α × σ) (s : σ) (n : Nat) : Except Failure α :=
  (call (stateAfter call n s)).1

theorem stateAfter_succ (call : σ → Except Failure α × σ) (n : Nat) (s : σ) :
    stateAfter call (n + 1) s = (call (stateAfter call n s)).2 := by
  induction n generalizing s with
  | zero => rfl
  | succ n ih => exact ih (call s).2

/-! ### Delays one after the other -/

/-- The delay after a number of others, the first one of which is given. -/
def delay? (b : Backoff) : Nat → Delay → Option Delay
  | 0, d => some d
  | n + 1, d => (b.nextDelay? d).bind (b.delay? n)

/-- The given number of delays, if the one after them can be computed too. -/
def pauses? (b : Backoff) : Nat → Delay → Option (List Delay)
  | 0, _ => some []
  | n + 1, d => (b.nextDelay? d).bind fun next => (b.pauses? n next).map (d :: ·)

/-- A delay that is computed is at most the maximal one. -/
theorem nextDelay?_le {d next : Delay} (h : b.nextDelay? d = some next) : next ≤ b.maxDelay := by
  rw [nextDelay?, Option.map_eq_some_iff] at h
  obtain ⟨_, -, rfl⟩ := h
  exact Nat.min_le_right _ _

theorem delay?_succ (n : Nat) (d : Delay) :
    b.delay? (n + 1) d = (b.delay? n d).bind b.nextDelay? := by
  induction n generalizing d with
  | zero => simp [delay?]
  | succ n ih =>
      cases hnext : b.nextDelay? d with
      | none => simp [delay?, hnext]
      | some next =>
          have hrest := ih next
          simp only [delay?, hnext, Option.bind_some] at hrest ⊢
          exact hrest

theorem length_of_pauses? {n : Nat} {d : Delay} {pauses : List Delay}
    (h : b.pauses? n d = some pauses) : pauses.length = n := by
  induction n generalizing d pauses with
  | zero =>
      cases h
      rfl
  | succ n ih =>
      simp only [pauses?, Option.bind_eq_some_iff, Option.map_eq_some_iff] at h
      obtain ⟨next, -, rest, hrest, rfl⟩ := h
      rw [List.length_cons, ih hrest]

/-- The pauses cannot be made exactly when one of the delays has no next one. -/
theorem pauses?_eq_none_iff {n : Nat} {d : Delay} :
    b.pauses? n d = none ↔ ∃ i < n, ∃ d', b.delay? i d = some d' ∧ b.nextDelay? d' = none := by
  induction n generalizing d with
  | zero => simp [pauses?]
  | succ n ih =>
      rw [pauses?, Nat.exists_lt_succ_left]
      cases hnext : b.nextDelay? d with
      | none => simp [delay?, hnext]
      | some next => simp [delay?, hnext, ih]

/-- The pauses can be made when every delay up to the one after them can be
computed. -/
theorem exists_pauses {n : Nat} {d : Delay} (h : ∀ i < n + 1, (b.delay? i d).isSome = true) :
    ∃ pauses, b.pauses? n d = some pauses ∧ pauses.length = n := by
  cases hpauses : b.pauses? n d with
  | some pauses => exact ⟨pauses, rfl, length_of_pauses? hpauses⟩
  | none =>
      obtain ⟨i, hi, d', hd', hnext⟩ := pauses?_eq_none_iff.mp hpauses
      have hsome := h (i + 1) (by omega)
      simp [delay?_succ, hd', hnext] at hsome

/-! ### The number of attempts -/

/-- How often a call with these outcomes is tried: up to the first outcome
that settles the matter, if there is one within the limit. -/
def attemptsFor (b : Backoff) (outcomes : Nat → Except Failure α) : Nat :=
  let limit := max 1 b.maxAttempts
  (((List.range limit).find? fun n => settles (outcomes n)).map (· + 1)).getD limit

/-- The number of attempts, by what it means for the outcomes: before the
last one nothing was settled, and the last one settles the matter or uses
up the limit. -/
theorem attemptsFor_eq_succ_iff {outcomes : Nat → Except Failure α} {k : Nat} :
    b.attemptsFor outcomes = k + 1 ↔
      k < max 1 b.maxAttempts ∧ (∀ n < k, settles (outcomes n) = false) ∧
        (settles (outcomes k) = true ∨ k + 1 = max 1 b.maxAttempts) := by
  rw [attemptsFor]
  generalize hlimit : max 1 b.maxAttempts = limit
  have hpos : 0 < limit := by omega
  cases hfind : (List.range limit).find? fun n => settles (outcomes n) with
  | some i =>
      rw [List.find?_range_eq_some] at hfind
      obtain ⟨hi, hmem, hbefore⟩ := hfind
      simp only [List.mem_range, Bool.not_eq_true'] at hmem hbefore
      simp only [Option.map_some, Option.getD_some, Nat.add_right_cancel_iff]
      constructor
      · intro hik
        subst hik
        exact ⟨hmem, hbefore, .inl hi⟩
      · intro ⟨hk, hbefore', hlast⟩
        -- The first one that settles is neither earlier nor later than `k`.
        rcases Nat.lt_trichotomy i k with hlt | heq | hgt
        · simp [hbefore' i hlt] at hi
        · exact heq
        · rcases hlast with hlast | hlast
          · simp [hbefore k hgt] at hlast
          · omega
  | none =>
      rw [List.find?_range_eq_none] at hfind
      simp only [Bool.not_eq_true'] at hfind
      simp only [Option.map_none, Option.getD_none]
      constructor
      · intro hk
        exact ⟨by omega, fun n hn => hfind n (by omega), .inr hk.symm⟩
      · intro ⟨hk, _, hlast⟩
        rcases hlast with hlast | hlast
        · simp [hfind k hk] at hlast
        · exact hlast.symm

/-- A call is tried at least once. -/
theorem exists_attemptsFor_eq_succ (b : Backoff) (outcomes : Nat → Except Failure α) :
    ∃ k, b.attemptsFor outcomes = k + 1 := by
  refine Nat.exists_eq_succ_of_ne_zero ?_
  rw [attemptsFor]
  cases (List.range (max 1 b.maxAttempts)).find? fun n => settles (outcomes n) <;> simp

/-- The number of attempts depends on the outcomes and the limit alone. -/
theorem attemptsFor_congr {b' : Backoff} (h : b.maxAttempts = b'.maxAttempts)
    (outcomes : Nat → Except Failure α) : b.attemptsFor outcomes = b'.attemptsFor outcomes := by
  rw [attemptsFor, attemptsFor, h]

/-! ### Runs -/

/-- An attempt that settles the matter, or is the last one, ends the run. -/
theorem attempt_of_last {retries : Nat} (pause : Delay)
    (h : settles (call s).1 = true ∨ retries = 0) :
    b.attempt call retries pause s = some ⟨(call s).1, (call s).2, []⟩ := by
  rw [attempt.eq_def]
  rcases hcall : call s with ⟨f | v, s'⟩
  · rw [hcall] at h
    cases htransient : f.isTransient with
    | false => simp [hcall, htransient]
    | true =>
        have hretries : retries = 0 := by simpa [settles, htransient] using h
        subst hretries
        simp [hcall, htransient]
  · simp [hcall]

/-- After any other attempt the run goes on, if there is a next delay. -/
theorem attempt_succ (retries : Nat) (pause : Delay) (h : settles (call s).1 = false) :
    b.attempt call (retries + 1) pause s = (b.nextDelay? pause).bind fun next =>
      (b.attempt call retries next (call s).2).map fun rest =>
        { rest with pauses := pause :: rest.pauses } := by
  obtain ⟨f, hf, htransient⟩ := settles_eq_false_iff.mp h
  rcases hcall : call s with ⟨outcome, s'⟩
  rw [hcall] at hf
  subst hf
  rw [attempt.eq_def]
  simp only [hcall, htransient]
  cases b.nextDelay? pause with
  | none => rfl
  | some next => exact Option.map_eq_bind.symm

/-- A run follows the outcomes of the call up to the last attempt. -/
theorem attempt_eq {k retries : Nat} (pause : Delay) (hk : k ≤ retries)
    (hbefore : ∀ n < k, settles (outcomes call s n) = false)
    (hlast : settles (outcomes call s k) = true ∨ k = retries) :
    b.attempt call retries pause s = (b.pauses? k pause).map fun pauses =>
      ⟨outcomes call s k, stateAfter call (k + 1) s, pauses⟩ := by
  induction k generalizing retries pause s with
  | zero =>
      have hlast : settles (call s).1 = true ∨ retries = 0 := hlast.imp_right Eq.symm
      rw [attempt_of_last pause hlast]
      rfl
  | succ k ih =>
      obtain ⟨retries, rfl⟩ := Nat.exists_eq_add_of_le' (Nat.one_le_of_lt hk)
      have hfirst : settles (call s).1 = false := hbefore 0 (Nat.succ_pos k)
      -- The first outcome settles nothing; the others are those of the run
      -- that starts after the first call.
      rw [attempt_succ retries pause hfirst, pauses?]
      cases hnext : b.nextDelay? pause with
      | none => rfl
      | some next =>
          have hrest := ih (s := (call s).2) next (Nat.le_of_succ_le_succ hk)
            (fun n hn => hbefore (n + 1) (Nat.succ_lt_succ hn))
            (hlast.imp_right Nat.succ.inj)
          rw [Option.bind_some, Option.bind_some, hrest, Option.map_map, Option.map_map]
          rfl

/-- **What a run does**, given the outcomes that its calls have: the number
of attempts depends on these alone, and so do the outcome and the state at
the end. There are as many pauses as repetitions; if they cannot be made,
nothing comes of the run. -/
theorem run_eq (b : Backoff) (call : σ → Except Failure α × σ) (s : σ) :
    let k := b.attemptsFor (outcomes call s)
    b.run call s = (b.pauses? (k - 1) b.initialDelay).map fun pauses =>
      ⟨outcomes call s (k - 1), stateAfter call k s, pauses⟩ := by
  intro k
  obtain ⟨n, hn⟩ := exists_attemptsFor_eq_succ b (outcomes call s)
  obtain ⟨hlimit, hbefore, hlast⟩ := attemptsFor_eq_succ_iff.mp hn
  have hk : k = n + 1 := hn
  rw [run, attempt_eq b.initialDelay (by omega) hbefore (hlast.imp_right fun h => by omega), hk]
  rfl

/-- A run whose delays can be computed has an outcome, after as many pauses
as there are repetitions. -/
theorem exists_run (call : σ → Except Failure α × σ) (s : σ)
    (h : ∀ i < b.attemptsFor (outcomes call s), (b.delay? i b.initialDelay).isSome = true) :
    let k := b.attemptsFor (outcomes call s)
    ∃ pauses, b.run call s = some ⟨outcomes call s (k - 1), stateAfter call k s, pauses⟩ ∧
      pauses.length = k - 1 := by
  intro k
  obtain ⟨n, hn⟩ := exists_attemptsFor_eq_succ b (outcomes call s)
  have hk : k = n + 1 := hn
  rw [hn] at h
  obtain ⟨pauses, hpauses, hlength⟩ := exists_pauses h
  refine ⟨pauses, ?_, ?_⟩
  · rw [run_eq, hn]
    simp [hpauses, hk]
  · rw [hlength, hk]
    rfl

/-! ### Calls that are counted -/

/-- A call that also counts how often it is made. -/
def counting (call : σ → Except Failure α × σ) (s : σ × Nat) : Except Failure α × (σ × Nat) :=
  ((call s.1).1, (call s.1).2, s.2 + 1)

theorem stateAfter_counting (call : σ → Except Failure α × σ) (k : Nat) (s : σ) (n : Nat) :
    stateAfter (counting call) k (s, n) = (stateAfter call k s, n + k) := by
  induction k generalizing s n with
  | zero => rfl
  | succ k ih =>
      show stateAfter (counting call) k ((call s).2, n + 1) = _
      rw [ih, Nat.add_assoc, Nat.add_comm 1 k]
      rfl

theorem outcomes_counting (call : σ → Except Failure α × σ) (s : σ) (n : Nat) :
    outcomes (counting call) (s, n) = outcomes call s := by
  funext k
  rw [outcomes, stateAfter_counting]
  rfl

theorem stateAfter_scripted (script : Nat → Except Failure α) (k n : Nat) :
    stateAfter (scripted script) k n = n + k := by
  induction k generalizing n with
  | zero => rfl
  | succ k ih =>
      show stateAfter (scripted script) k (n + 1) = _
      rw [ih]
      omega

/-- The outcomes of a scripted call are those of its script. -/
theorem outcomes_scripted (script : Nat → Except Failure α) :
    outcomes (scripted script) 0 = script := by
  funext k
  rw [outcomes, stateAfter_scripted, Nat.zero_add]
  rfl

/-- Counting the calls changes nothing else, and there are as many of them
as attempts. -/
theorem run_counting (b : Backoff) (call : σ → Except Failure α × σ) (s : σ) :
    b.run (counting call) (s, 0) = (b.run call s).map fun a =>
      ⟨a.outcome, (a.state, b.attemptsFor (outcomes call s)), a.pauses⟩ := by
  rw [run_eq, run_eq, outcomes_counting, stateAfter_counting, Nat.zero_add, Option.map_map]
  rfl

end FacetedSearch.Backoff
