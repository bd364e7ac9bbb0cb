import FacetedSearch.Proofs.Session.Retries

/-!
# `FacetedSearch.Proofs.Session.Inquiries`: steps that ask the store

Every step that asks the store is one call and what the service makes of
its outcome (`Inquiry`). `Step.inquiry?` is the inquiry of a step, and
`step_of_inquiry` says that the step makes it, in every session with this
deployment. The only other thing that can happen to such a step is that
its criteria are refused; then nothing is asked, and the refusal is all
that is put on record (`step_of_refused`).
-/

set_option autoImplicit false

namespace FacetedSearch.Session

variable {s s' : Session}

/-! ### Refused criteria -/

/-- A search that asks an engine in a way of its own. -/
def searchBy (engine : Request → Session → Option (Except Failure Response × Session))
    (index : String) (c : Criteria) (s : Session) :
    Option (Except SearchError Results × Session) :=
  match s.prepare index c with
  | (.error e, s) => some (.error (.filter e), s)
  | (.ok r, s) => (engine r s).map (conclude c)

variable {index : String} {c : Criteria} {e : Filter.Error}

theorem prepare_of_refused (h : c.compile s.settings = .error e) :
    s.prepare index c = (.error e, s.record [.rejected e.kind]) := by
  have hr : Request.ofCriteria s.settings index c = .error e := by
    rw [Request.ofCriteria, h]
    rfl
  rw [prepare, hr]

/-- Refused criteria do not get to an engine, whatever it is: the error is
that of compiling, and it is all that is put on record. -/
theorem searchBy_of_refused (h : c.compile s.settings = .error e)
    (engine : Request → Session → Option (Except Failure Response × Session)) :
    s.searchBy engine index c = some (.error (.filter e), s.record [.rejected e.kind]) := by
  rw [searchBy, prepare_of_refused h]

/-- A search asks the store. -/
theorem search_eq_searchBy (s : Session) (index : String) (c : Criteria) :
    s.search index c = s.searchBy fetch index c := by
  rw [searchBy]
  unfold search
  rcases s.prepare index c with ⟨e | r, s'⟩
  · rfl
  · show _ = (s'.fetch r).map (conclude c)
    cases hfetch : s'.fetch r with
    | none => simp [hfetch]
    | some result =>
        obtain ⟨f | resp, t⟩ := result <;> simp [hfetch, conclude]

/-! ### Steps that ask the store -/

/-- The criteria that a step compiles. -/
def Step.criteria? : Step → Option Criteria
  | .search _ c | .searchDefault c | .ask _ c => some c
  | _ => none

/-- The steps that ask the store for something. -/
def Step.AsksStore : Step → Prop
  | .search .. | .searchDefault .. | .ask .. | .request .. | .indexExists .. |
    .checkIndex .. => True
  | _ => False

/-- A call of the store, and what the service makes of its outcome. There is
no answer (`none`) to a call that gave up on sorting. -/
structure Inquiry where
  {α : Type}
  operation : Operation
  request : Store → Except Failure α × Store
  isCall : Store.IsCall operation request
  answer : Except Failure α → Option Answer
  /-- What is put on record before the call. -/
  before : List Event := []
  /-- What is put on record after the call. -/
  after : Except Failure α → List Event := fun _ => []

namespace Inquiry

/-- The step that makes the inquiry. -/
def step (i : Inquiry) (s : Session) : Option (Answer × Session) :=
  ((s.record i.before).call i.operation i.request).bind fun r =>
    (i.answer r.1).map fun a => (a, r.2.record (i.after r.1))

/-- A search with criteria that compile. -/
def search (s : Settings) (index : String) (q : Query) (c : Criteria) : Inquiry where
  operation := .search
  request := Store.search (Request.assemble s index q c)
  isCall := .search _
  answer
    | .ok resp => resp.map fun resp => .results (Results.ofResponse s c resp)
    | .error f => some (.refused (.engine f))
  before := [.compiled]
  after
    | .ok resp => (resp.map fun resp => resultEvents (Results.ofResponse s c resp)).getD []
    | .error _ => [.timed engineName .search, .queried engineName false]

/-- The answer of the store to a request. -/
def ofRequest (r : Request) (before : List Event) : Inquiry where
  operation := .search
  request := Store.search r
  isCall := .search r
  answer outcome := (settled outcome).map Answer.ofResponse
  before := before

/-- Whether there is an index, a failure counting as no. -/
def indexExists (index : String) : Inquiry where
  operation := .checkIndex
  request := Store.checkIndex index
  isCall := .checkIndex index
  answer
    | .ok found => some (.truth found)
    | .error _ => some (.truth false)
  after
    | .ok true => [.timed engineName .checkIndex, .probed .present]
    | .ok false => [.timed engineName .checkIndex, .probed .absent]
    | .error _ => [.timed engineName .checkIndex, .probed .error]

/-- Whether there is an index. -/
def checkIndex (index : String) : Inquiry where
  operation := .checkIndex
  request := Store.checkIndex index
  isCall := .checkIndex index
  answer outcome := some (.ofTruth outcome)

end Inquiry

/-- What an inquiry comes to: its call came back, and has an answer. -/
theorem Inquiry.step_eq_some_iff {i : Inquiry} {a : Answer} :
    i.step s = some (a, s') ↔ ∃ outcome t,
      (s.record i.before).call i.operation i.request = some (outcome, t) ∧
      i.answer outcome = some a ∧ t.record (i.after outcome) = s' := by
  simp [Inquiry.step, Option.bind_eq_some_iff]

@[simp] theorem record_nil (s : Session) : s.record [] = s := by
  simp [record, Metrics.record]

/-- A search with criteria that compile is an inquiry. -/
theorem step_search_eq {q : Query} (hq : c.compile s.settings = .ok q) :
    s.step (.search index c) = (Inquiry.search s.settings index q c).step s := by
  rw [step, search_eq_map_fetch hq, Inquiry.step, fetch]
  show _ = Option.bind ((s.record [.compiled]).call .search
    (Store.search (Request.assemble s.settings index q c))) _
  cases hcall : (s.record [.compiled]).call .search
      (Store.search (Request.assemble s.settings index q c)) with
  | none => rfl
  | some result =>
      obtain ⟨outcome, s'⟩ := result
      -- The results are read with the settings after the call, which are those before it.
      have hsettings : s'.settings = s.settings :=
        congrArg Deployment.settings (settings_of_call hcall).1
      rcases outcome with f | _ | resp <;>
        simp [settled, conclude, hsettings, Answer.ofResults, Inquiry.search]

/-- So is the answer of the store to a request. -/
theorem fetch_map_eq_step (r : Request) (s : Session) (before : List Event) :
    ((s.record before).fetch r).map (fun o => (Answer.ofResponse o.1, o.2)) =
      (Inquiry.ofRequest r before).step s := by
  rw [Inquiry.step, fetch]
  show _ = Option.bind ((s.record before).call .search (Store.search r)) _
  cases (s.record before).call .search (Store.search r) with
  | none => rfl
  | some result =>
      obtain ⟨outcome, s'⟩ := result
      rcases outcome with f | _ | resp <;> simp [settled, Inquiry.ofRequest]

/-- And so is its answer to criteria that compile. -/
theorem step_ask_eq {q : Query} (hq : c.compile s.settings = .ok q) :
    s.step (.ask index c) =
      (Inquiry.ofRequest (Request.assemble s.settings index q c) [.compiled]).step s := by
  have hr : Request.ofCriteria s.settings index c = .ok (Request.assemble s.settings index q c) :=
    bind_pure_eq_ok_iff.mpr ⟨q, hq, rfl⟩
  rw [← fetch_map_eq_step]
  simp [step, prepare, hr, Option.map_eq_bind]

/-- A step with criteria that are refused shows the error and asks nothing. -/
theorem step_of_refused {x : Step} (hx : x.criteria? = some c)
    (h : c.compile s.settings = .error e) :
    s.step x = some (.refused (.filter e), s.record [.rejected e.kind]) := by
  have hsearch (index : String) :
      s.step (.search index c) = some (.refused (.filter e), s.record [.rejected e.kind]) := by
    rw [step, search_eq_searchBy, searchBy_of_refused h]
    rfl
  cases x with
  | search index _ =>
      cases hx
      exact hsearch index
  | searchDefault _ =>
      cases hx
      exact hsearch s.deployment.defaultIndex
  | ask index _ =>
      cases hx
      rw [step, prepare_of_refused h]
  | _ => cases hx

/-- An inquiry that is made when the criteria compile. -/
def Inquiry.whenCompiled (s : Settings) (c : Criteria) (inquiry : Query → Inquiry) :
    Option Inquiry :=
  match c.compile s with
  | .ok q => some (inquiry q)
  | .error _ => none

/-- The inquiry that a step makes, if it makes one. -/
def Step.inquiry? (d : Deployment) : Step → Option Inquiry
  | .search index c => Inquiry.whenCompiled d.settings c (Inquiry.search d.settings index · c)
  | .searchDefault c =>
    Inquiry.whenCompiled d.settings c (Inquiry.search d.settings d.defaultIndex · c)
  | .ask index c =>
    Inquiry.whenCompiled d.settings c fun q =>
      .ofRequest (Request.assemble d.settings index q c) [.compiled]
  | .request r => some (.ofRequest r [])
  | .indexExists index => some (.indexExists index)
  | .checkIndex index => some (.checkIndex index)
  | _ => none

theorem Inquiry.whenCompiled_eq_some_iff {s : Settings} {inquiry : Query → Inquiry} {i : Inquiry} :
    whenCompiled s c inquiry = some i ↔ ∃ q, c.compile s = .ok q ∧ inquiry q = i := by
  rw [whenCompiled]
  cases c.compile s <;> simp

theorem Inquiry.whenCompiled_eq_none_iff {s : Settings} {inquiry : Query → Inquiry} :
    whenCompiled s c inquiry = none ↔ ∃ e, c.compile s = .error e := by
  rw [whenCompiled]
  cases c.compile s <;> simp

/-- **What a step does that makes an inquiry.** It is the same one in every
session with this deployment. -/
theorem step_of_inquiry {x : Step} {i : Inquiry} (h : x.inquiry? s.deployment = some i) :
    s.step x = i.step s := by
  cases x with
  | search index c =>
      obtain ⟨q, hq, rfl⟩ := Inquiry.whenCompiled_eq_some_iff.mp h
      exact step_search_eq hq
  | searchDefault c =>
      obtain ⟨q, hq, rfl⟩ := Inquiry.whenCompiled_eq_some_iff.mp h
      exact step_search_eq hq
  | ask index c =>
      obtain ⟨q, hq, rfl⟩ := Inquiry.whenCompiled_eq_some_iff.mp h
      exact step_ask_eq hq
  | request r =>
      cases h
      rw [← fetch_map_eq_step]
      simp [step, Option.map_eq_bind]
  | indexExists index =>
      cases h
      cases hcall : s.call .checkIndex (Store.checkIndex index) with
      | none => simp [step, Session.indexExists, Inquiry.step, Inquiry.indexExists, hcall]
      | some result =>
          obtain ⟨outcome, s'⟩ := result
          rcases outcome with f | _ | _ <;>
            simp [step, Session.indexExists, Inquiry.step, Inquiry.indexExists, hcall]
  | checkIndex index =>
      cases h
      simp [step, Inquiry.step, Inquiry.checkIndex]
  | _ => cases h

/-- A step that asks the store but makes no inquiry has criteria that are refused. -/
theorem exists_refused_of_inquiry?_eq_none {d : Deployment} {x : Step} (hx : x.AsksStore)
    (h : x.inquiry? d = none) :
    ∃ c e, x.criteria? = some c ∧ c.compile d.settings = .error e := by
  cases x with
  | search _ c | searchDefault c | ask _ c =>
      obtain ⟨e, he⟩ := Inquiry.whenCompiled_eq_none_iff.mp h
      exact ⟨c, e, rfl, he⟩
  | request | indexExists | checkIndex => cases h
  | _ => cases hx

/-- So a step that asks the store has criteria that are refused, or it is an
inquiry, the same one in every session with this deployment. -/
theorem step_of_asksStore (d : Deployment) {x : Step} (hx : x.AsksStore) :
    (∃ c e, x.criteria? = some c ∧ c.compile d.settings = .error e) ∨
    ∃ i : Inquiry, ∀ s : Session, s.deployment = d → s.step x = i.step s := by
  cases hi : x.inquiry? d with
  | none => exact .inl (exists_refused_of_inquiry?_eq_none hx hi)
  | some i =>
      refine .inr ⟨i, ?_⟩
      rintro s rfl
      exact step_of_inquiry hi

end FacetedSearch.Session
