import FacetedSearch.Proofs.Session.Returns

/-!
# `FacetedSearch.Proofs.Session.Traceless`: steps that leave no trace

Refused criteria never get to the store (`searchBy_of_refused`), and a
store that is asked while it owes no failure, or while it is switched off,
is the same afterwards, however often it was asked (`call_of_quiet`). In
both cases only the time spent in pauses and the record of metrics may be
different (`Session.Agrees`).

No later answer depends on these two, but for the report of metrics:
sessions that agree go on agreeing with every step (`step_of_agrees`) and
over every run (`run_of_agrees`), and a step comes back in one of them when
it comes back in the other. So a step that leaves no trace can be taken out
of a session, and the other steps are answered as before
(`run_of_leavesNoTrace`).

What a step does that asks the store, `step_of_asksStore` says; the lemmas
about single steps follow from it.
-/

set_option autoImplicit false

namespace FacetedSearch

open Backoff (outcomes stateAfter)

/-! ### Calls of a quiet store -/

/-- A run leaves a state alone that a call leaves alone. -/
theorem Backoff.state_of_run {σ α : Type} {b : Backoff} {call : σ → Except Failure α × σ} {s : σ}
    (hcall : (call s).2 = s) {a : Attempts σ α} (ha : b.run call s = some a) : a.state = s := by
  have hstate (k : Nat) : stateAfter call k s = s := by
    induction k with
    | zero => rfl
    | succ k ih => rw [stateAfter_succ, ih, hcall]
  rw [run_eq, Option.map_eq_some_iff] at ha
  obtain ⟨pauses, -, rfl⟩ := ha
  exact hstate _

/-- No failure is to come, or none that is used up. -/
def Store.IsQuiet (s : Store) : Prop := s.pendingFailures = 0 ∨ s.available = false

/-- A quiet store is the same after a call. -/
theorem Store.IsCall.state_of_isQuiet {α : Type} {op : Operation}
    {request : Store → Except Failure α × Store} (h : IsCall op request) {s : Store}
    (hs : s.IsQuiet) : (request s).2 = s := by
  cases havailable : s.available with
  | false => rw [h.eq_of_unavailable havailable]
  | true =>
      rcases hs with hpending | hs
      · exact (h.settles_of_reachable havailable hpending).2
      · rw [havailable] at hs
        cases hs

namespace Session

variable {s s' t : Session}

/-! ### Sessions that agree -/

/-- The sessions differ in the time spent and the record of metrics at most. -/
structure Agrees (s t : Session) : Prop where
  deployment : s.deployment = t.deployment
  backoff : s.backoff = t.backoff
  store : s.store = t.store

theorem Agrees.refl (s : Session) : s.Agrees s := ⟨rfl, rfl, rfl⟩

theorem Agrees.symm (h : s.Agrees t) : t.Agrees s :=
  ⟨h.deployment.symm, h.backoff.symm, h.store.symm⟩

theorem Agrees.trans {u : Session} (h : s.Agrees t) (h' : t.Agrees u) : s.Agrees u :=
  ⟨h.deployment.trans h'.deployment, h.backoff.trans h'.backoff, h.store.trans h'.store⟩

/-- What is put on record does not matter. -/
theorem Agrees.record (h : s.Agrees t) (es es' : List Event) :
    (s.record es).Agrees (t.record es') := ⟨h.deployment, h.backoff, h.store⟩

theorem agrees_record (s : Session) (es : List Event) : s.Agrees (s.record es) := ⟨rfl, rfl, rfl⟩

/-- Computations that are related go on to related outcomes. -/
theorem rel_bind {α β γ δ : Type} {R : α → β → Prop} {S : γ → δ → Prop} {x : Option α}
    {y : Option β} {f : α → Option γ} {g : β → Option δ} (h : Option.Rel R x y)
    (hfg : ∀ a b, R a b → Option.Rel S (f a) (g b)) : Option.Rel S (x.bind f) (y.bind g) := by
  cases h with
  | none => exact .none
  | some hab => exact hfg _ _ hab

section
variable {α : Type} {op : Operation} {request : Store → Except Failure α × Store}

/-- Sessions that agree have the same outcome of a call, and agree after it,
or the call comes back in neither. -/
theorem call_of_agrees (op : Operation) (request : Store → Except Failure α × Store)
    (h : s.Agrees t) : Option.Rel (fun r r' => r.1 = r'.1 ∧ r.2.Agrees r'.2)
      (s.call op request) (t.call op request) := by
  cases hbackoff : s.backoff with
  | none =>
      rw [call_of_none hbackoff, call_of_none (h.backoff.symm.trans hbackoff), h.store]
      exact .some ⟨rfl, h.deployment, h.backoff, rfl⟩
  | some b =>
      rw [call_of_some hbackoff, call_of_some (h.backoff.symm.trans hbackoff), ← h.store]
      cases b.run request s.store with
      | none => exact .none
      | some a => exact .some ⟨rfl, h.deployment, h.backoff, rfl⟩

/-- A call of a quiet store leaves a session that agrees with the one before. -/
theorem call_of_quiet (hrequest : Store.IsCall op request) (hs : s.store.IsQuiet)
    {outcome : Except Failure α} (h : s.call op request = some (outcome, s')) :
    s.Agrees s' := by
  obtain ⟨hdeployment, hbackoff⟩ := settings_of_call h
  refine ⟨hdeployment.symm, hbackoff.symm, ?_⟩
  have hstate := hrequest.state_of_isQuiet hs
  rcases call_cases h with ⟨-, -, rfl⟩ | ⟨b, a, -, ha, -, rfl⟩
  · exact hstate.symm
  · exact (Backoff.state_of_run hstate ha).symm

end

/-! ### Steps of sessions that agree -/

/-- An inquiry has one answer in sessions that agree. -/
theorem Inquiry.step_of_agrees (i : Inquiry) (h : s.Agrees t) :
    Option.Rel (fun r r' => r.1 = r'.1 ∧ r.2.Agrees r'.2) (i.step s) (i.step t) := by
  refine rel_bind (call_of_agrees i.operation i.request (h.record i.before i.before)) ?_
  rintro ⟨outcome, s'⟩ ⟨_, t'⟩ ⟨rfl, hagrees⟩
  dsimp only
  cases i.answer outcome with
  | none => exact .none
  | some a => exact .some ⟨rfl, hagrees.record _ _⟩

/-- An inquiry to a quiet store leaves a session that agrees with the one before. -/
theorem Inquiry.agrees_of_step (i : Inquiry) (hs : s.store.IsQuiet) {a : Answer}
    (h : i.step s = some (a, s')) : s.Agrees s' := by
  obtain ⟨outcome, t, hcall, -, rfl⟩ := Inquiry.step_eq_some_iff.mp h
  have hquiet : (s.record i.before).store.IsQuiet := hs
  have hagrees := call_of_quiet i.isCall hquiet hcall
  exact ((agrees_record s i.before).trans hagrees).trans (agrees_record t _)

/-- Sessions that agree answer a step alike, but for a report of metrics, and
agree after it. -/
theorem step_of_agrees (h : s.Agrees t) (x : Step) :
    Option.Rel (fun r r' => (x ≠ .metrics → r.1 = r'.1) ∧ r.2.Agrees r'.2)
      (s.step x) (t.step x) := by
  by_cases hx : x.AsksStore
  · rcases step_of_asksStore s.deployment hx with ⟨c, e, hc, he⟩ | ⟨i, hi⟩
    · have he' : c.compile t.settings = .error e := by
        rw [settings, ← h.deployment]
        exact he
      rw [step_of_refused hc he, step_of_refused hc he']
      exact .some ⟨fun _ => rfl, h.record _ _⟩
    · have hrel := i.step_of_agrees h
      rw [← hi s rfl, ← hi t h.deployment.symm] at hrel
      generalize s.step x = r at hrel ⊢
      generalize t.step x = r' at hrel ⊢
      cases hrel with
      | none => exact .none
      | some hr => exact .some ⟨fun _ => hr.1, hr.2⟩
  · -- The other steps read or change the store, which is the same, or report metrics.
    cases x with
    | change change index =>
        refine .some ⟨fun _ => ?_, h.deployment, h.backoff, ?_⟩
        · rw [h.store]
        · show s.store.apply change = t.store.apply change
          rw [h.store]
    | size index => exact .some ⟨fun _ => by rw [h.store], h⟩
    | engineName => exact .some ⟨fun _ => rfl, h⟩
    | metrics => exact .some ⟨fun hx => absurd rfl hx, h.deployment, h.backoff, h.store⟩
    | _ => exact absurd trivial hx

/-! ### Runs of sessions that agree -/

/-- Both are answers to these steps, and the same but for reports of metrics. -/
structure SameAnswers (xs : List Step) (as bs : List Answer) : Prop where
  length_left : as.length = xs.length
  length_right : bs.length = xs.length
  getElem?_eq : ∀ n : Nat, xs[n]? ≠ some .metrics → as[n]? = bs[n]?

theorem SameAnswers.cons {x : Step} {xs : List Step} {a b : Answer} {as bs : List Answer}
    (hx : x ≠ .metrics → a = b) (h : SameAnswers xs as bs) :
    SameAnswers (x :: xs) (a :: as) (b :: bs) where
  length_left := by rw [List.length_cons, List.length_cons, h.length_left]
  length_right := by rw [List.length_cons, List.length_cons, h.length_right]
  getElem?_eq n hn := by
    cases n with
    | zero =>
        have hmetrics : x ≠ .metrics := fun h => hn (by rw [h]; rfl)
        rw [List.getElem?_cons_zero, List.getElem?_cons_zero, hx hmetrics]
    | succ n =>
        rw [List.getElem?_cons_succ] at hn
        rw [List.getElem?_cons_succ, List.getElem?_cons_succ, h.getElem?_eq n hn]

/-- Sessions that agree answer all steps alike, but for reports of metrics. -/
theorem run_of_agrees (h : s.Agrees t) (xs : List Step) :
    Option.Rel (fun r r' => SameAnswers xs r.1 r'.1 ∧ r.2.Agrees r'.2) (s.run xs) (t.run xs) := by
  induction xs generalizing s t with
  | nil => exact .some ⟨⟨rfl, rfl, fun _ _ => rfl⟩, h⟩
  | cons x xs ih =>
      refine rel_bind (step_of_agrees h x) ?_
      rintro ⟨a, s'⟩ ⟨b, t'⟩ ⟨hx, hagrees⟩
      refine rel_bind (ih hagrees) ?_
      rintro ⟨as, s''⟩ ⟨bs, t''⟩ ⟨hxs, hagrees'⟩
      exact .some ⟨hxs.cons hx, hagrees'⟩

/-- A run has an answer for every step. -/
theorem length_of_run {xs : List Step} {as : List Answer} (h : s.run xs = some (as, s')) :
    as.length = xs.length := by
  have hrel := run_of_agrees (.refl s) xs
  rw [h, Option.rel_some_some] at hrel
  exact hrel.1.length_left

/-- Steps in turn are a run over the first ones and a run over the others. -/
theorem run_append (s : Session) (xs ys : List Step) :
    s.run (xs ++ ys) = (s.run xs).bind fun r =>
      (r.2.run ys).map fun r' => (r.1 ++ r'.1, r'.2) := by
  induction xs generalizing s with
  | nil =>
      rw [List.nil_append, run]
      simp
  | cons x xs ih =>
      rw [List.cons_append, run, run]
      cases s.step x with
      | none => rfl
      | some result =>
          obtain ⟨a, s'⟩ := result
          simp only [Option.bind_eq_bind, Option.bind_some, ih]
          cases s'.run xs with
          | none => rfl
          | some result =>
              obtain ⟨as, t⟩ := result
              cases hys : t.run ys <;> simp [hys]

/-! ### Steps that leave no trace -/

/-- A step whose criteria are refused, or that asks a quiet store. -/
def LeavesNoTrace (s : Session) (x : Step) : Prop :=
  (∃ c e, x.criteria? = some c ∧ c.compile s.settings = .error e) ∨
    (x.AsksStore ∧ s.store.IsQuiet)

/-- After such a step the session agrees with the one before. -/
theorem agrees_of_leavesNoTrace {x : Step} (hx : s.LeavesNoTrace x) {a : Answer}
    (h : s.step x = some (a, s')) : s.Agrees s' := by
  have hrefused {c : Criteria} {e : Filter.Error} (hc : x.criteria? = some c)
      (he : c.compile s.settings = .error e) : s.Agrees s' := by
    rw [step_of_refused hc he] at h
    cases h
    exact agrees_record s _
  rcases hx with ⟨c, e, hc, he⟩ | ⟨hasks, hquiet⟩
  · exact hrefused hc he
  · rcases step_of_asksStore s.deployment hasks with ⟨c, e, hc, he⟩ | ⟨i, hi⟩
    · exact hrefused hc he
    · exact i.agrees_of_step hquiet ((hi s rfl).symm.trans h)

/-- **Refused and reading steps leave no trace.** In a session whose calls
always come back, take out a step whose criteria are refused, or that asks
a store which is switched off or owes no failure. All other steps are
answered as before, but for reports of metrics after it. A run does not
come to its end only if sorting gives up, and whether it does so after that
step does not depend on the step.

A search with refused criteria shows the error of compiling them, whatever
the engine is that it would have asked, and whatever the store is like. The
refusal is all that is put on record; the store is not touched. -/
theorem run_of_leavesNoTrace :
    (∀ s : Session, s.AlwaysReturns →
      (∀ xs : List Step, s.run xs = none → ∃ before x after as t, xs = before ++ x :: after ∧
        s.run before = some (as, t) ∧ t.step x = none ∧ t.MayGiveUp x) ∧
      ∀ (before : List Step) (x : Step) (after : List Step) (as : List Answer) (t : Session),
        s.run before = some (as, t) → as.length = before.length ∧
        (t.LeavesNoTrace x → ∀ a t', t.step x = some (a, t') →
          (s.run (before ++ x :: after) = none ∧ s.run (before ++ after) = none) ∨
          ∃ bs bs' s₁ s₂,
            s.run (before ++ x :: after) = some (as ++ a :: bs, s₁) ∧
            s.run (before ++ after) = some (as ++ bs', s₂) ∧
            bs.length = after.length ∧ bs'.length = after.length ∧
            ∀ n : Nat, after[n]? ≠ some .metrics → bs[n]? = bs'[n]?)) ∧
    ∀ (s : Session) (c : Criteria) (e : Filter.Error), c.compile s.settings = .error e →
      (∀ index engine, s.searchBy engine index c =
        some (.error (.filter e), s.record [.rejected e.kind])) ∧
      (∀ index, s.search index c = some (.error (.filter e), s.record [.rejected e.kind])) ∧
      (∀ x : Step, x.criteria? = some c →
        s.step x = some (.refused (.filter e), s.record [.rejected e.kind])) ∧
      (s.record [.rejected e.kind]).store = s.store := by
  refine ⟨fun s hs => ⟨fun xs => exists_mayGiveUp_of_run_eq_none hs, ?_⟩, ?_⟩
  · intro before x after as t hbefore
    refine ⟨length_of_run hbefore, fun hx a t' hstep => ?_⟩
    have hwith : s.run (before ++ x :: after) =
        (t'.run after).map fun r => (as ++ a :: r.1, r.2) := by
      rw [run_append, hbefore, Option.bind_some, run, hstep]
      cases hafter : t'.run after <;> simp [hafter]
    have hwithout : s.run (before ++ after) = (t.run after).map fun r => (as ++ r.1, r.2) := by
      rw [run_append, hbefore, Option.bind_some]
    -- From here on the two sessions agree.
    have hagrees : t'.Agrees t := (agrees_of_leavesNoTrace hx hstep).symm
    have hrel := run_of_agrees hagrees after
    rw [hwith, hwithout]
    generalize t'.run after = r at hrel ⊢
    generalize t.run after = r' at hrel ⊢
    cases hrel with
    | none => exact .inl ⟨rfl, rfl⟩
    | some hr =>
        exact .inr ⟨_, _, _, _, rfl, rfl, hr.1.length_left, hr.1.length_right,
          hr.1.getElem?_eq⟩
  · intro s c e he
    refine ⟨fun index engine => searchBy_of_refused he engine, fun index => ?_, ?_, rfl⟩
    · rw [search_eq_searchBy]
      exact searchBy_of_refused he _
    · intro x hx
      exact step_of_refused hx he

/-- The store of toys is switched off while two failures are to come. -/
def outage : Session := { toySession 2 with store := (toySession 2).store.setAvailable false }

/-- Criteria that no composition can be read from. -/
def unreadable : Criteria where
  filter := [("bool", .integer 1)]

theorem run_of_leavesNoTrace_outage :
    let before : List Step := [.change (.setAvailable false) "toys"]
    let after : List Step := [.change (.setAvailable true) "toys", .metrics, .checkIndex "toys"]
    ((toySession 2).AlwaysReturns ∧ outage.LeavesNoTrace (.checkIndex "toys") ∧
      unreadable.compile outage.settings = .error (.malformed "bool" .clauseLists .number)) ∧
    (∃ a bs bs' s₁ s₂,
      (toySession 2).run (before ++ .checkIndex "toys" :: after) =
        some ([.size 0] ++ a :: bs, s₁) ∧
      (toySession 2).run (before ++ after) = some ([.size 0] ++ bs', s₂) ∧
      bs[2]? = bs'[2]?) ∧
    outage.search "toys" unreadable =
      some (.error (.filter (.malformed "bool" .clauseLists .number)),
        outage.record [.rejected .malformed]) := by
  intro before after
  have hreturns := toySession_alwaysReturns 2
  have hstep : outage.LeavesNoTrace (.checkIndex "toys") := .inr ⟨trivial, .inr rfl⟩
  have hrefused : unreadable.compile outage.settings =
      .error (.malformed "bool" .clauseLists .number) := rfl
  have hbefore : (toySession 2).run before = some ([.size 0], outage) := rfl
  obtain ⟨hremoved, hsearch⟩ := run_of_leavesNoTrace
  obtain ⟨-, hsame⟩ := (hremoved (toySession 2) hreturns).2 before (.checkIndex "toys") after
    [.size 0] outage hbefore
  have hcomes : (outage.step (.checkIndex "toys")).isSome = true := by decide +kernel
  have hruns : ((toySession 2).run (before ++ .checkIndex "toys" :: after)).isSome = true := by
    decide +kernel
  obtain ⟨⟨a, t'⟩, hanswer⟩ := Option.isSome_iff_exists.mp hcomes
  obtain ⟨hwith, -⟩ | ⟨bs, bs', s₁, s₂, hwith, hwithout, -, -, hanswers⟩ :=
    hsame hstep a t' hanswer
  · rw [hwith] at hruns
    cases hruns
  · refine ⟨⟨hreturns, hstep, hrefused⟩, ⟨_, bs, bs', s₁, s₂, hwith, hwithout, ?_⟩, ?_⟩
    · exact hanswers 2 (by simp [after])
    · exact (hsearch outage unreadable _ hrefused).2.1 "toys"

end Session

end FacetedSearch
