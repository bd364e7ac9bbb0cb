import FacetedSearch.Failure
import FacetedSearch.Number.Binary64

/-!
# `FacetedSearch.Backoff`: trying again

A call that fails for a transient reason is tried again after a pause,
up to a number of attempts. The first pause is the initial delay. Every
pause after it is the one before times a factor, no longer than the
maximal delay.

Delays are whole nanoseconds. A delay is multiplied as a binary64 number
of seconds and rounded to the nearest nanosecond, ties to even. A product
that is negative, no number, or `2 ^ 64` seconds or longer is no delay;
it ends the run without an outcome (`none`).

A call is a function on the state of what is called, so a run is a value:
its outcome, the state it leaves, and the pauses that were asked for
(`Attempts`). The timer that makes the pauses counts whole milliseconds:
a pause ends at the first tick that is not too early, and after thirty
years at the latest (`Delay.waited`). Only clocks depend on the timer.
-/

set_option autoImplicit false

namespace FacetedSearch

/-! ### Delays -/

/-- A length of time in nanoseconds. -/
abbrev Delay := Nat

namespace Delay

/-- A number of milliseconds. -/
def ofMilliseconds (n : Nat) : Delay := n * 1000000

/-- The whole milliseconds of a delay. -/
def milliseconds (d : Delay) : Nat := d / 1000000

/-- The longest time that the timer runs, thirty years of 365 days. -/
def timerLimit : Delay := ofMilliseconds (30 * 365 * 86400000)

/-- The time that passes while the timer makes a pause. -/
def waited (d : Delay) : Delay := min (ofMilliseconds ((d + 999999) / 1000000)) timerLimit

/-- The time that several delays take. -/
def total : List Delay → Delay
  | [] => 0
  | d :: rest => d + total rest

/-- The delay in seconds. -/
def seconds (d : Delay) : Binary64 :=
  Binary64.addMagnitudes (Binary64.ofInt (d / 1000000000 : Nat))
    (Binary64.ofRatio false (d % 1000000000) 1000000000)

/-- The delay of a number of seconds, if it is one. -/
def ofSeconds? (x : Binary64) : Option Delay :=
  if x.isFinite && 0 ≤ x.scaled && x.magnitude < 1 <<< 1138 then
    some (Binary64.roundHalfEven (x.magnitude * 1000000000) (1 <<< 1074))
  else none

/-- The delay times a factor, if that is a delay. -/
def scale? (d : Delay) (factor : Binary64) : Option Delay :=
  if factor.isFinite then ofSeconds? (Binary64.mul factor (seconds d)) else none

end Delay

/-! ### Runs -/

/-- How a call is tried again. -/
structure Backoff where
  initialDelay : Delay
  maxDelay : Delay
  factor : Binary64
  /-- How often a call is tried at most; it is always tried once. -/
  maxAttempts : Nat
deriving DecidableEq, Inhabited

/-- A call with its repetitions. -/
structure Attempts (σ α : Type) where
  outcome : Except Failure α
  state : σ
  /-- The pauses that were asked for, in order. -/
  pauses : List Delay

namespace Attempts

variable {σ α : Type}

/-- How often the call was tried. -/
def count (a : Attempts σ α) : Nat := a.pauses.length + 1

/-- The times at which the attempts started, the first one at `start`. -/
def startTimes (start : Delay) : List Delay → List Delay
  | [] => [start]
  | pause :: rest => start :: startTimes (start + pause.waited) rest

/-- The time that passes in the pauses. -/
def waited (a : Attempts σ α) : Delay := Delay.total (a.pauses.map Delay.waited)

end Attempts

namespace Backoff

variable {σ α : Type}

/-- For single searches: three attempts. -/
def query : Backoff :=
  ⟨Delay.ofMilliseconds 100, Delay.ofMilliseconds 2000, Binary64.ofInt 2, 3⟩

/-- For an engine that is still starting: five attempts. -/
def startup : Backoff :=
  ⟨Delay.ofMilliseconds 200, Delay.ofMilliseconds 2000, Binary64.ofInt 2, 5⟩

/-- The pause after one of the given length. -/
def nextDelay? (b : Backoff) (d : Delay) : Option Delay :=
  (d.scale? b.factor).map (min · b.maxDelay)

/-- Tries a call, and up to `retries` times more, the first time after
the given pause. -/
def attempt (b : Backoff) (call : σ → Except Failure α × σ) :
    Nat → Delay → σ → Option (Attempts σ α)
  | retries, pause, s =>
    match call s with
    | (.ok v, s) => some ⟨.ok v, s, []⟩
    | (.error f, s) =>
      match f.isTransient, retries with
      | true, retries + 1 => do
        let rest ← b.attempt call retries (← b.nextDelay? pause) s
        return { rest with pauses := pause :: rest.pauses }
      | _, _ => some ⟨.error f, s, []⟩

/-- Tries a call as often as it takes and is allowed. -/
def run (b : Backoff) (call : σ → Except Failure α × σ) (s : σ) : Option (Attempts σ α) :=
  b.attempt call (b.maxAttempts - 1) b.initialDelay s

/-- A call whose `n`-th attempt has the `n`-th of the outcomes. -/
def scripted (outcomes : Nat → Except Failure α) (n : Nat) : Except Failure α × Nat :=
  (outcomes n, n + 1)

end Backoff

end FacetedSearch
