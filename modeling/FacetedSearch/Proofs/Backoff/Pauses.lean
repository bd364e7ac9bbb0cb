import FacetedSearch.Proofs.Backoff.Delays

/-!
# `FacetedSearch.Proofs.Backoff.Pauses`: how long the pauses of a run are

The maximal delay is applied when a delay is computed from the one before.
The initial delay is not computed, so the first pause is made as it is set,
and every pause after it is at most the maximal delay (`pauses_of_run`).
All pauses keep to the maximal delay exactly when the initial delay does,
or when there is no pause at all (`pauses_le_of_run`). `run_long_pause` is
a run whose only pause does not.

What the first pause is longer than allowed is all that the time asked for
before an attempt can be longer.
-/

set_option autoImplicit false

namespace FacetedSearch

/-! ### Delays in a row -/

namespace Delay

/-- Delays of limited length take no longer than as many of the limit. -/
theorem total_take_le_mul {delays : List Delay} {limit : Delay} (h : ∀ d ∈ delays, d ≤ limit)
    (n : Nat) : total (delays.take n) ≤ n * limit := by
  induction n generalizing delays with
  | zero => exact Nat.zero_le _
  | succ n ih =>
      cases delays with
      | nil => exact Nat.zero_le _
      | cons d rest =>
          rw [List.forall_mem_cons] at h
          have hrest := ih h.2
          rw [List.take_succ_cons, total, Nat.succ_mul, Nat.add_comm]
          exact Nat.add_le_add hrest h.1

/-- With a first delay of any length, the time is longer by what this one
exceeds the limit. -/
theorem total_take_cons_le {first limit : Delay} {rest : List Delay} (h : ∀ d ∈ rest, d ≤ limit)
    (n : Nat) : total ((first :: rest).take n) ≤ n * limit + (first - limit) := by
  cases n with
  | zero => exact Nat.zero_le _
  | succ n =>
      have hfirst : first ≤ limit + (first - limit) := Nat.sub_le_iff_le_add'.mp (Nat.le_refl _)
      calc total ((first :: rest).take (n + 1))
          = first + total (rest.take n) := rfl
        _ ≤ limit + (first - limit) + n * limit := Nat.add_le_add hfirst (total_take_le_mul h n)
        _ = (n + 1) * limit + (first - limit) := by rw [Nat.succ_mul]; ac_rfl

end Delay

namespace Backoff

variable {σ α : Type} {b : Backoff} {call : σ → Except Failure α × σ} {s : σ} {a : Attempts σ α}

/-! ### The pauses of a run -/

/-- The first of several pauses is the delay they start with; the others
have been computed. -/
theorem pauses?_cases {n : Nat} {d : Delay} {pauses : List Delay}
    (h : b.pauses? n d = some pauses) :
    pauses = [] ∨ ∃ rest, pauses = d :: rest ∧ ∀ pause ∈ rest, pause ≤ b.maxDelay := by
  -- On the number of pauses: the rest starts with a delay that was computed.
  induction n generalizing d pauses with
  | zero => exact .inl (Option.some.inj h).symm
  | succ n ih =>
      simp only [pauses?, Option.bind_eq_some_iff, Option.map_eq_some_iff] at h
      obtain ⟨next, hnext, rest, hrest, rfl⟩ := h
      refine .inr ⟨rest, rfl, ?_⟩
      rcases ih hrest with rfl | ⟨rest, rfl, hle⟩
      · exact List.forall_mem_nil _
      · exact List.forall_mem_cons.mpr ⟨nextDelay?_le hnext, hle⟩

/-- A run makes no pause, or the initial one and then pauses of at most the
maximal delay. -/
theorem pauses_of_run (h : b.run call s = some a) :
    a.pauses = [] ∨
      ∃ rest, a.pauses = b.initialDelay :: rest ∧ ∀ pause ∈ rest, pause ≤ b.maxDelay := by
  rw [run_eq, Option.map_eq_some_iff] at h
  obtain ⟨pauses, hpauses, rfl⟩ := h
  exact pauses?_cases hpauses

/-- **Every pause but the first is at most the maximal delay**, and the
first one is the initial delay. So all pauses are at most the maximal
delay exactly when the initial delay is, or when there are none. Before
the attempt that follows `n` pauses a run has asked for no more than `n`
times the maximal delay, and for what the initial delay exceeds it by. -/
theorem pauses_le_of_run (h : b.run call s = some a) :
    (∀ pause, a.pauses.head? = some pause → pause = b.initialDelay) ∧
    (∀ pause ∈ a.pauses.tail, pause ≤ b.maxDelay) ∧
    ((∀ pause ∈ a.pauses, pause ≤ b.maxDelay) ↔ a.count = 1 ∨ b.initialDelay ≤ b.maxDelay) ∧
    ∀ n, Delay.total (a.pauses.take n) ≤ n * b.maxDelay + (b.initialDelay - b.maxDelay) := by
  rcases pauses_of_run h with hnone | ⟨rest, hpauses, hrest⟩
  · -- Without a pause the run ends with the first attempt.
    rw [Attempts.count, hnone]
    refine ⟨?_, List.forall_mem_nil _, iff_of_true (List.forall_mem_nil _) (.inl rfl), ?_⟩
    · intro pause hpause
      cases hpause
    · intro n
      rw [List.take_nil]
      exact Nat.zero_le _
  · -- The first pause is the only one that the maximal delay says nothing about.
    have hcount : a.count ≠ 1 := by simp [Attempts.count, hpauses]
    rw [hpauses]
    refine ⟨fun pause hpause => (Option.some.inj hpause).symm, hrest, ?_,
      Delay.total_take_cons_le hrest⟩
    rw [List.forall_mem_cons, or_iff_right hcount]
    exact and_iff_left hrest

/-- A call that times out again and again. -/
def timesOut (_ : Nat) : Except Failure Nat := .error (.timeout "slow")

/-- Under short delays that double, all pauses are at most the maximal delay. -/
theorem pauses_le_of_run_gentle :
    ∃ a, gentle.run (scripted timesOut) 0 = some a ∧ a.count = 3 ∧
      gentle.initialDelay ≤ gentle.maxDelay ∧ (∀ pause ∈ a.pauses, pause ≤ gentle.maxDelay) ∧
      Delay.total (a.pauses.take 2) ≤ 2 * gentle.maxDelay := by
  obtain ⟨a, ha, hcount⟩ := moderate_gentle.exists_run (scripted timesOut) 0
  have hinitial : gentle.initialDelay ≤ gentle.maxDelay := by decide
  obtain ⟨-, -, hall, htotal⟩ := pauses_le_of_run ha
  exact ⟨a, ha, hcount.trans (by decide), hinitial, hall.mpr (.inr hinitial), htotal 2⟩

/-- An initial delay of five seconds, where one second is the most. -/
def impatient : Backoff :=
  ⟨Delay.ofMilliseconds 5000, Delay.ofMilliseconds 1000, Binary64.ofInt 2, 3⟩

/-- The first pause can be longer than the maximal delay. -/
theorem run_long_pause :
    impatient.run (scripted timesOutOnce) 0 = some ⟨.ok 1, 2, [Delay.ofMilliseconds 5000]⟩ ∧
      impatient.maxDelay < Delay.ofMilliseconds 5000 := by
  have hpauses : impatient.pauses? 1 impatient.initialDelay = some [Delay.ofMilliseconds 5000] := by
    decide +kernel
  have hattempts : impatient.attemptsFor (outcomes (scripted timesOutOnce) 0) = 2 := by decide
  refine ⟨?_, by decide⟩
  rw [run_eq, hattempts, hpauses]
  rfl

end Backoff

end FacetedSearch
