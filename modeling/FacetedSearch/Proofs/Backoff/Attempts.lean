import FacetedSearch.Backoff
import FacetedSearch.Proofs.Support.Traversal

/-!
# `FacetedSearch.Proofs.Backoff.Attempts`: what a run of attempts is made of

An attempt ends the run, or it fails for a transient reason while there
are attempts left, and the run goes on after a pause. `attempt_eq_some_iff`
says all of this at once; what is proved of runs is proved by induction on
the attempts left with these three cases.

`exists_call_of_attempt_ok` is the first such fact: a run that succeeds
ends with a call that succeeds, made in a state that the calls before it
led to.
-/

set_option autoImplicit false

namespace FacetedSearch.Backoff

variable {σ α : Type} {b : Backoff} {call : σ → Except Failure α × σ} {retries : Nat}
  {pause : Delay} {s : σ} {a : Attempts σ α} {v : α}

/-- A run succeeds with its first attempt, or fails with it, or tries again
after a pause. -/
theorem attempt_eq_some_iff : b.attempt call retries pause s = some a ↔
    (∃ v s', call s = (.ok v, s') ∧ a = ⟨.ok v, s', []⟩) ∨
    (∃ f s', call s = (.error f, s') ∧ (f.isTransient = false ∨ retries = 0) ∧
      a = ⟨.error f, s', []⟩) ∨
    (∃ f s' retries' next rest, call s = (.error f, s') ∧ f.isTransient = true ∧
      retries = retries' + 1 ∧ b.nextDelay? pause = some next ∧
      b.attempt call retries' next s' = some rest ∧
      a = { rest with pauses := pause :: rest.pauses }) := by
  rw [attempt.eq_def]
  rcases hcall : call s with ⟨f | v, s'⟩
  · cases htransient : f.isTransient with
    | false => simp [hcall, htransient, @eq_comm _ a]
    | true =>
        cases retries with
        | zero => simp [hcall, htransient, @eq_comm _ a]
        | succ retries => simp [hcall, htransient, Option.bind_eq_some_iff, @eq_comm _ a]
  · simp [hcall, @eq_comm _ a]

/-- A call that succeeds is not tried again. -/
theorem run_of_ok (b : Backoff) {s' : σ} (h : call s = (.ok v, s')) :
    b.run call s = some ⟨.ok v, s', []⟩ :=
  attempt_eq_some_iff.mpr (.inl ⟨v, s', h, rfl⟩)

/-- A run that succeeds ends with a call that succeeds, in a state that has
whatever every call preserves. -/
theorem exists_call_of_attempt_ok {Inv : σ → Prop} (hcall : ∀ s, Inv s → Inv (call s).2)
    (hs : Inv s) (ha : b.attempt call retries pause s = some a) (hv : a.outcome = .ok v) :
    ∃ s', Inv s' ∧ (call s').1 = .ok v := by
  induction retries using Nat.strongRecOn generalizing pause s a with
  | ind retries ih =>
      rcases attempt_eq_some_iff.mp ha with
        ⟨w, s', hw, rfl⟩ | ⟨f, s', -, -, rfl⟩ |
        ⟨f, s', retries', _, rest, hf, -, rfl, -, hrest, rfl⟩
      · -- The last call: it is made in the state at hand.
        cases hv
        exact ⟨s, hs, by rw [hw]⟩
      · cases hv
      · have hs' : Inv s' := by
          have h := hcall s hs
          rwa [hf] at h
        exact ih retries' (Nat.lt_succ_self _) hs' hrest hv

end FacetedSearch.Backoff
