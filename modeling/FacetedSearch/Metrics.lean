import FacetedSearch.Distinct
import FacetedSearch.Filter.Error

/-!
# `FacetedSearch.Metrics`: what is counted and measured

A service keeps a log of events. Each event belongs to a series, which
has a name and labels; it is counted, or it adds a sample. What metrics
report is read off the log: for a counter how many events its series has
had, for samples those since the last report.

Of latencies only the number is kept.
-/

set_option autoImplicit false

namespace FacetedSearch

/-- The calls to a search engine. -/
inductive Operation where
  | search | checkIndex
deriving DecidableEq, Inhabited

/-- The name of a call. -/
def Operation.name : Operation → String
  | .search => "search"
  | .checkIndex => "check_index"

/-- What came of looking for an index. -/
inductive Probe where
  | present | absent | error
deriving DecidableEq, Inhabited

/-- The label of a probe. -/
def Probe.name : Probe → String
  | .present => "present"
  | .absent => "absent"
  | .error => "error"

/-- What a service records. -/
inductive Event where
  /-- Criteria were compiled. -/
  | compiled
  /-- Criteria were refused. -/
  | rejected (kind : Filter.Error.Kind)
  /-- A call to an engine came back. -/
  | timed (engine : String) (operation : Operation)
  /-- An engine was searched. -/
  | queried (engine : String) (succeeded : Bool)
  /-- A search found this many documents. -/
  | found (total : Nat)
  /-- A search answered this many facet values. -/
  | facetValues (count : Nat)
  /-- A call was tried again. -/
  | retried (operation : Operation)
  /-- An index was looked for. -/
  | probed (outcome : Probe)
deriving DecidableEq, Inhabited

/-- A name with labels, sorted. -/
structure Series where
  name : String
  labels : List (String × String)
deriving DecidableEq, Inhabited

/-- What a series shows. -/
inductive Measure where
  | count (n : Nat)
  | samples (values : List Nat)
  | latencies (n : Nat)
deriving DecidableEq, Inhabited

namespace Event

/-- The series of an event. -/
def series : Event → Series
  | .compiled => ⟨"criteria_search_compiles_total", [("status", "success")]⟩
  | .rejected kind =>
    ⟨"criteria_search_compiles_total", [("error_type", kind.label), ("status", "rejected")]⟩
  | .timed engine operation =>
    ⟨"criteria_search_backend_seconds", [("backend", engine), ("operation", operation.name)]⟩
  | .queried engine succeeded =>
    ⟨"criteria_search_queries_total",
      [("backend", engine), ("status", if succeeded then "success" else "error")]⟩
  | .found _ => ⟨"criteria_search_results", []⟩
  | .facetValues _ => ⟨"criteria_search_facet_buckets", []⟩
  | .retried operation => ⟨"criteria_search_retries_total", [("operation", operation.name)]⟩
  | .probed outcome => ⟨"criteria_search_index_probes_total", [("outcome", outcome.name)]⟩

/-- What a series of events shows, given all of them and those since the
last report. -/
def measure (e : Event) (all recent : List Event) : Measure :=
  match e with
  | .found _ => .samples (recent.filterMap fun | .found n => some n | _ => none)
  | .facetValues _ => .samples (recent.filterMap fun | .facetValues n => some n | _ => none)
  | .timed _ _ => .latencies (recent.countP fun e' => e'.series = e.series)
  | e => .count (all.countP fun e' => e'.series = e.series)

end Event

/-- The labels as texts. -/
def Series.labelTexts (s : Series) : List String := s.labels.map fun (k, v) => k ++ "=" ++ v

/-- Series are ordered by name and then by labels. -/
def Series.precedes (a b : Series) : Bool :=
  ((compare a.name b.name).then (compare a.labelTexts b.labelTexts)).isLE

/-- What a service has recorded. -/
structure Metrics where
  events : List Event := []
  /-- How many of the events the last report had seen. -/
  reported : Nat := 0
deriving Inhabited

namespace Metrics

/-- Adds events to the record. -/
def record (m : Metrics) (es : List Event) : Metrics := { m with events := m.events ++ es }

/-- The series on record with what they show, in their order. -/
def report (m : Metrics) : List (Series × Measure) :=
  let recent := m.events.drop m.reported
  let shown := m.events.map fun e => (e.series, e.measure m.events recent)
  (distinctBy (·.1) shown).mergeSort fun a b => a.1.precedes b.1

/-- The record after a report. -/
def markReported (m : Metrics) : Metrics := { m with reported := m.events.length }

end Metrics

end FacetedSearch
