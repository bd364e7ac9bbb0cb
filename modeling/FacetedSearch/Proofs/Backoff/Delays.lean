import FacetedSearch.Proofs.Backoff.Outcomes
import FacetedSearch.Proofs.Number.Rounding

/-!
# `FacetedSearch.Proofs.Backoff.Delays`: when a delay is too long

The next delay is a product, and the maximal delay is applied to it
afterwards. So a product that is no delay ends a run even where the
maximal delay would have been taken in its place. For a finite factor that
is not negative this is the case exactly when the product is `2⁶⁴` seconds
or longer (`nextDelay?_eq_none_iff`). Settings with delays and a factor of
ordinary size are far away from it, whatever the calls come to
(`Moderate.exists_run`).

Apart from that, the delays and the factor have no influence on what comes
of a run: settings with one limit of attempts lead to the same outcome
after the same number of attempts, whenever both have an outcome
(`run_of_maxAttempts_eq`). `run_overflow` shows that the exception is
real.
-/

set_option autoImplicit false

namespace FacetedSearch

/-! ### Products of delays -/

namespace Delay

/-- Whether a delay times a factor is `2⁶⁴` seconds or longer. -/
def Overflows (d : Delay) (factor : Binary64) : Prop :=
  1 <<< 1138 ≤ (Binary64.mul factor d.seconds).magnitude

instance (d : Delay) (factor : Binary64) : Decidable (d.Overflows factor) := Nat.decLe _ _

/-- For a finite factor that is not negative, the product is a delay unless
it is too long. -/
theorem scale?_eq_none_iff {d : Delay} {factor : Binary64} (hfinite : factor.isFinite = true)
    (hnonneg : 0 ≤ factor.scaled) : d.scale? factor = none ↔ d.Overflows factor := by
  have hproduct : 0 ≤ (Binary64.mul factor d.seconds).scaled :=
    Binary64.scaled_mul_nonneg hnonneg (Binary64.isNegative_ofRatio _ _ _)
  have hlarge (h : (Binary64.mul factor d.seconds).isFinite = false) : d.Overflows factor := by
    rw [Overflows, Binary64.mul, Binary64.magnitude_ofRatio_of_not_isFinite h]
    decide +kernel
  rw [scale?, if_pos hfinite, ofSeconds?]
  split
  · rename_i h
    rw [Bool.and_eq_true, decide_eq_true_iff] at h
    exact iff_of_false (Option.some_ne_none _) (Nat.not_le.mpr h.2)
  · rename_i h
    rw [Bool.and_eq_true, Bool.and_eq_true, decide_eq_true_iff, decide_eq_true_iff] at h
    refine iff_of_true rfl ?_
    cases hproduct' : (Binary64.mul factor d.seconds).isFinite with
    | true => exact Nat.not_lt.mp fun hlt => h ⟨⟨hproduct', hproduct⟩, hlt⟩
    | false => exact hlarge hproduct'

/-- The longest delay that counts as short, `2³¹` seconds. -/
def short : Delay := 2 ^ 31 * 1000000000

/-- The number of seconds of a short delay is no more than doubled by rounding. -/
theorem magnitude_seconds_le {d : Delay} (hd : d ≤ short) :
    d.seconds.magnitude ≤ 2 ^ (32 + 1074) := by
  have hwhole : (Binary64.ofInt (d / 1000000000 : Nat)).magnitude ≤ 2 ^ (31 + 1074) := by
    have hseconds : d / 1000000000 ≤ 2 ^ 31 :=
      Nat.div_le_of_le_mul (Nat.mul_comm (2 ^ 31) 1000000000 ▸ hd)
    refine Binary64.magnitude_ofRatio_le _ (by decide) (by decide) ?_
    rw [Int.natAbs_natCast, Nat.mul_one]
    exact hseconds
  have hrest :
      (Binary64.ofRatio false (d % 1000000000) 1000000000).magnitude ≤ 2 ^ (0 + 1074) :=
    Binary64.magnitude_ofRatio_le _ (by decide) (by decide) (by omega)
  refine Binary64.magnitude_ofRatio_le _ (by decide) (by decide) ?_
  calc _ ≤ 2 ^ (31 + 1074) + 2 ^ (0 + 1074) := Nat.add_le_add hwhole hrest
    _ ≤ 2 ^ 32 * 1 <<< 1074 := by decide +kernel

/-- A short delay can be multiplied by `2³¹`, and by any smaller factor. -/
theorem not_overflows {d : Delay} {factor : Binary64} (hd : d ≤ short)
    (hfactor : factor.magnitude ≤ 2 ^ (31 + 1074)) : ¬ d.Overflows factor := by
  have hproduct : (Binary64.mul factor d.seconds).magnitude ≤ 2 ^ (63 + 1074) := by
    refine Binary64.magnitude_ofRatio_le _ (by decide +kernel) (by decide) ?_
    calc _ ≤ 2 ^ (31 + 1074) * 2 ^ (32 + 1074) :=
          Nat.mul_le_mul hfactor (magnitude_seconds_le hd)
      _ ≤ 2 ^ 63 * 1 <<< 2148 := by decide +kernel
  rw [Overflows, Nat.not_le]
  exact Nat.lt_of_le_of_lt hproduct (by decide +kernel)

end Delay

namespace Backoff

variable {σ α : Type} {b b' : Backoff}

/-- Settings under which only a product that is too long is no delay: the
factor is finite and not negative. -/
structure Sound (b : Backoff) : Prop where
  isFinite : b.factor.isFinite = true
  nonneg : 0 ≤ b.factor.scaled

theorem Sound.nextDelay?_eq_none_iff (hb : b.Sound) {d : Delay} :
    b.nextDelay? d = none ↔ d.Overflows b.factor := by
  rw [nextDelay?, Option.map_eq_none_iff, Delay.scale?_eq_none_iff hb.isFinite hb.nonneg]

/-- Nothing comes of a run exactly when a pause is followed by a product
that is too long. -/
theorem Sound.run_eq_none_iff (hb : b.Sound) (call : σ → Except Failure α × σ) (s : σ) :
    b.run call s = none ↔ ∃ n, n + 1 < b.attemptsFor (outcomes call s) ∧
      ∃ d, b.delay? n b.initialDelay = some d ∧ d.Overflows b.factor := by
  rw [run_eq, Option.map_eq_none_iff, pauses?_eq_none_iff]
  simp only [hb.nextDelay?_eq_none_iff]
  refine exists_congr fun n => and_congr_left fun _ => ?_
  omega

/-- Settings with short delays and a factor of `2³¹` at most. -/
structure Moderate (b : Backoff) : Prop extends Sound b where
  initialDelay_le : b.initialDelay ≤ Delay.short
  maxDelay_le : b.maxDelay ≤ Delay.short
  factor_le : b.factor.magnitude ≤ 2 ^ (31 + 1074)

theorem moderate_query : query.Moderate := by
  refine ⟨⟨?_, ?_⟩, ?_, ?_, ?_⟩ <;> decide +kernel

/-- Under moderate settings there are only short delays. -/
theorem Moderate.exists_delay (hb : b.Moderate) (n : Nat) :
    ∃ d, b.delay? n b.initialDelay = some d ∧ d ≤ Delay.short := by
  induction n with
  | zero => exact ⟨_, rfl, hb.initialDelay_le⟩
  | succ n ih =>
      obtain ⟨d, hd, hshort⟩ := ih
      rw [delay?_succ, hd, Option.bind_some]
      cases hnext : b.nextDelay? d with
      | none =>
          have hlong := hb.nextDelay?_eq_none_iff.mp hnext
          exact absurd hlong (Delay.not_overflows hshort hb.factor_le)
      | some next =>
          -- Every delay after the first one is bounded by the maximal one.
          exact ⟨next, rfl, Nat.le_trans (nextDelay?_le hnext) hb.maxDelay_le⟩

theorem Moderate.isSome_delay? (hb : b.Moderate) (n : Nat) :
    (b.delay? n b.initialDelay).isSome = true := by
  obtain ⟨d, hd, -⟩ := hb.exists_delay n
  rw [hd, Option.isSome_some]

/-- **Under moderate settings every run has an outcome**, whatever the calls come to. -/
theorem Moderate.exists_run (hb : b.Moderate) (call : σ → Except Failure α × σ) (s : σ) :
    ∃ a, b.run call s = some a ∧ a.count = b.attemptsFor (outcomes call s) := by
  obtain ⟨n, hn⟩ := exists_attemptsFor_eq_succ b (outcomes call s)
  obtain ⟨pauses, hrun, hlength⟩ :=
    Backoff.exists_run (b := b) call s fun i _ => hb.isSome_delay? i
  refine ⟨_, hrun, ?_⟩
  rw [Attempts.count, hlength, hn, Nat.add_sub_cancel]

/-- **The delays and the factor do not change what comes of a run**, but
for one exception. With a finite factor that is not negative, nothing
comes of a run exactly when one of its pauses is followed by a product of
`2⁶⁴` seconds or more. Of two runs of one call that have an outcome, under
settings with one limit of attempts, both have the same outcome after the
same number of attempts, and leave the same state. -/
theorem run_of_maxAttempts_eq (hb : b.Sound) (hb' : b'.Sound)
    (hlimit : b.maxAttempts = b'.maxAttempts) (call : σ → Except Failure α × σ) (s : σ) :
    (b.run call s = none ↔ ∃ n, n + 1 < b.attemptsFor (outcomes call s) ∧
      ∃ d, b.delay? n b.initialDelay = some d ∧ d.Overflows b.factor) ∧
    (b'.run call s = none ↔ ∃ n, n + 1 < b.attemptsFor (outcomes call s) ∧
      ∃ d, b'.delay? n b'.initialDelay = some d ∧ d.Overflows b'.factor) ∧
    ∀ a a', b.run call s = some a → b'.run call s = some a' →
      a.outcome = a'.outcome ∧ a.count = a'.count ∧ a.state = a'.state := by
  refine ⟨hb.run_eq_none_iff call s, ?_, ?_⟩
  · rw [attemptsFor_congr hlimit]
    exact hb'.run_eq_none_iff call s
  · intro a a' ha ha'
    rw [run_eq, Option.map_eq_some_iff] at ha ha'
    rw [← attemptsFor_congr hlimit] at ha'
    obtain ⟨pauses, hpauses, rfl⟩ := ha
    obtain ⟨pauses', hpauses', rfl⟩ := ha'
    refine ⟨rfl, ?_, rfl⟩
    rw [Attempts.count, Attempts.count, length_of_pauses? hpauses, length_of_pauses? hpauses']

/-- Short delays that double. -/
def gentle : Backoff :=
  ⟨Delay.ofMilliseconds 1, Delay.ofMilliseconds 10, Binary64.ofInt 2, 3⟩

theorem moderate_gentle : gentle.Moderate := by
  refine ⟨⟨?_, ?_⟩, ?_, ?_, ?_⟩ <;> decide +kernel

/-- A factor under which every delay of some length becomes too long. -/
def steep : Backoff :=
  ⟨Delay.ofMilliseconds 1000, Delay.ofMilliseconds 5000, Binary64.ofDecimal false 1 300, 3⟩

/-- A call that times out once. -/
def timesOutOnce : Nat → Except Failure Nat
  | 0 => .error (.timeout "slow")
  | _ + 1 => .ok 1

theorem run_of_maxAttempts_eq_query :
    (query.Sound ∧ gentle.Sound ∧ query.maxAttempts = gentle.maxAttempts) ∧
    ∃ a a', query.run (scripted timesOutOnce) 0 = some a ∧
      gentle.run (scripted timesOutOnce) 0 = some a' ∧
      a.outcome = a'.outcome ∧ a.count = a'.count ∧ a.state = a'.state := by
  have hquery : query.Sound := moderate_query.toSound
  have hgentle : gentle.Sound := moderate_gentle.toSound
  obtain ⟨-, -, hsame⟩ :=
    run_of_maxAttempts_eq hquery hgentle rfl (scripted timesOutOnce) 0
  obtain ⟨_, ha, -⟩ := moderate_query.exists_run (scripted timesOutOnce) 0
  obtain ⟨_, ha', -⟩ := moderate_gentle.exists_run (scripted timesOutOnce) 0
  exact ⟨⟨hquery, hgentle, rfl⟩, _, _, ha, ha', hsame _ _ ha ha'⟩

/-- The factor can decide whether a run has an outcome: the second attempt
succeeds under one of two settings with one limit, and is never made under
the other. -/
theorem run_overflow :
    (steep.Sound ∧ gentle.Sound ∧ steep.maxAttempts = gentle.maxAttempts) ∧
    steep.run (scripted timesOutOnce) 0 = none ∧
    ∃ pauses, gentle.run (scripted timesOutOnce) 0 = some ⟨.ok 1, 2, pauses⟩ := by
  have hsteep : steep.Sound := ⟨by decide +kernel, by decide +kernel⟩
  refine ⟨⟨hsteep, moderate_gentle.toSound, rfl⟩, ?_, ?_⟩
  · -- One second times the factor is too long.
    rw [hsteep.run_eq_none_iff]
    exact ⟨0, by decide, _, rfl, by decide +kernel⟩
  · obtain ⟨pauses, hrun, -⟩ :=
      exists_run (scripted timesOutOnce) 0 fun i _ => moderate_gentle.isSome_delay? i
    exact ⟨pauses, hrun⟩

end Backoff

end FacetedSearch
