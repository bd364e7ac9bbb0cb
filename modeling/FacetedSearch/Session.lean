import FacetedSearch.Backoff
import FacetedSearch.Metrics
import FacetedSearch.Results
import FacetedSearch.Store

/-!
# `FacetedSearch.Session`: a search service at work

A session is a search service in front of a store. It compiles criteria,
asks the store, trying again if that is set up, and reads the results
off the answer. Refused criteria never get to the store.

The whole of a session is a value: the store, the time spent in pauses,
and the record of metrics. `step` takes it from one state to the next and
gives the answer to one request of a caller; `run` folds it over many.
A step has no outcome only when a pause cannot be computed (`Backoff`) or
the store gives up on sorting its hits (`Sorter`).
-/

set_option autoImplicit false

namespace FacetedSearch

/-- Why a search has no results. -/
inductive SearchError where
  | filter (error : Filter.Error)
  | engine (failure : Failure)
deriving DecidableEq, Inhabited

/-- A search service in front of a store. -/
structure Session where
  deployment : Deployment := {}
  backoff : Option Backoff := none
  store : Store := {}
  /-- The time spent in pauses. -/
  clock : Delay := 0
  metrics : Metrics := {}
deriving Inhabited

namespace Session

variable {α : Type}

/-- The name of the store as an engine. -/
def engineName : String := "memory"

/-- The settings of the service. -/
def settings (s : Session) : Settings := s.deployment.settings

/-- Adds events to the record of metrics. -/
def record (s : Session) (es : List Event) : Session := { s with metrics := s.metrics.record es }

/-! ### Service -/

/-- Calls the store, trying again as set up. -/
def call (operation : Operation) (request : Store → Except Failure α × Store) (s : Session) :
    Option (Except Failure α × Session) :=
  match s.backoff with
  | none =>
    let (outcome, store) := request s.store
    some (outcome, { s with store })
  | some backoff => do
    let a ← backoff.run request s.store
    let s := { s with store := a.state, clock := s.clock + a.waited }
    return (a.outcome, s.record (List.replicate a.pauses.length (.retried operation)))

/-- Compiles criteria to a request. -/
def prepare (index : String) (c : Criteria) (s : Session) :
    Except Filter.Error Request × Session :=
  match Request.ofCriteria s.settings index c with
  | .ok r => (.ok r, s.record [.compiled])
  | .error e => (.error e, s.record [.rejected e.kind])

/-- The outcome of a call that may have given up. -/
def settled : Except Failure (Option α) → Option (Except Failure α)
  | .ok v => v.map .ok
  | .error f => some (.error f)

/-- Calls the store for its answer to a request. A call that gives up on
sorting is not tried again, and nothing comes back. -/
def fetch (r : Request) (s : Session) : Option (Except Failure Response × Session) := do
  let (outcome, s) ← s.call .search (Store.search r)
  return (← settled outcome, s)

/-- The events of a search that had these results. -/
def resultEvents (r : Results) : List Event :=
  [.timed engineName .search, .queried engineName true, .found r.total,
    .facetValues (r.facets.flatMap (·.2)).length]

/-- Searches an index for criteria. -/
def search (index : String) (c : Criteria) (s : Session) :
    Option (Except SearchError Results × Session) :=
  match s.prepare index c with
  | (.error e, s) => some (.error (.filter e), s)
  | (.ok r, s) => do
    match ← s.fetch r with
    | (.ok response, s) =>
      let results := Results.ofResponse s.settings c response
      return (.ok results, s.record (resultEvents results))
    | (.error f, s) =>
      return (.error (.engine f),
        s.record [.timed engineName .search, .queried engineName false])

/-- Whether there is an index; a failure counts as no. -/
def indexExists (index : String) (s : Session) : Option (Bool × Session) := do
  let (outcome, s) ← s.call .checkIndex (Store.checkIndex index)
  let timed : Event := .timed engineName .checkIndex
  return match outcome with
    | .ok true => (true, s.record [timed, .probed .present])
    | .ok false => (false, s.record [timed, .probed .absent])
    | .error _ => (false, s.record [timed, .probed .error])

/-! ### Steps -/

/-- What a caller does in a session. -/
inductive Step where
  /-- Changes the store and asks for the size of an index then. -/
  | change (change : Store.Change) (index : String)
  /-- Asks for the size of an index. -/
  | size (index : String)
  /-- Searches an index. -/
  | search (index : String) (criteria : Criteria)
  /-- Searches the default index. -/
  | searchDefault (criteria : Criteria)
  /-- Compiles criteria and shows the answer of the store as it is. -/
  | ask (index : String) (criteria : Criteria)
  /-- Shows the answer of the store to a request. -/
  | request (request : Request)
  | indexExists (index : String)
  | checkIndex (index : String)
  | engineName
  | metrics
deriving Inhabited

/-- What a caller gets back. -/
inductive Answer where
  /-- How many documents an index has now. -/
  | size (n : Nat)
  | results (results : Results)
  | response (response : Response)
  | truth (value : Bool)
  | name (engine : String)
  | metrics (report : List (Series × Measure))
  | refused (error : SearchError)
deriving Inhabited

namespace Answer

/-- The answer that an outcome of a search is. -/
def ofResults : Except SearchError Results → Answer
  | .ok r => .results r
  | .error e => .refused e

/-- The answer that an outcome of the store is. -/
def ofResponse : Except Failure Response → Answer
  | .ok r => .response r
  | .error f => .refused (.engine f)

/-- The answer that an outcome of looking for an index is. -/
def ofTruth : Except Failure Bool → Answer
  | .ok b => .truth b
  | .error f => .refused (.engine f)

end Answer

/-- One step of a session: the answer, and the session after it. -/
def step (s : Session) : Step → Option (Answer × Session)
  | .change c index =>
    let store := s.store.apply c
    some (.size (store.size index), { s with store })
  | .size index => some (.size (s.store.size index), s)
  | .search index c => do
    let (outcome, s) ← s.search index c
    return (.ofResults outcome, s)
  | .searchDefault c => do
    let (outcome, s) ← s.search s.deployment.defaultIndex c
    return (.ofResults outcome, s)
  | .ask index c =>
    match s.prepare index c with
    | (.error e, s) => some (.refused (.filter e), s)
    | (.ok r, s) => do
      let (outcome, s) ← s.fetch r
      return (.ofResponse outcome, s)
  | .request r => do
    let (outcome, s) ← s.fetch r
    return (.ofResponse outcome, s)
  | .indexExists index => do
    let (found, s) ← s.indexExists index
    return (.truth found, s)
  | .checkIndex index => do
    let (outcome, s) ← s.call .checkIndex (Store.checkIndex index)
    return (.ofTruth outcome, s)
  | .engineName => some (.name Session.engineName, s)
  | .metrics => some (.metrics s.metrics.report, { s with metrics := s.metrics.markReported })

/-- The answers to steps in turn, and the session after them. -/
def run (s : Session) : List Step → Option (List Answer × Session)
  | [] => some ([], s)
  | x :: rest => do
    let (answer, s) ← s.step x
    let (answers, s) ← s.run rest
    return (answer :: answers, s)

end Session

end FacetedSearch
