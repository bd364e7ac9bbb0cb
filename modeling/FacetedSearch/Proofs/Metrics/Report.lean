import FacetedSearch.Metrics
import Mathlib

/-!
# `FacetedSearch.Proofs.Metrics.Report`: what a report says about the record

A report shows every series once. To read it, one adds up the counters
that have a name and certain labels (`totalIn`), or takes the samples
under a name (`samplesIn`).

`totalIn_report` says that such a total is a number of events, all of
those on record, however they are spread over series. `samplesIn_report`
says that the samples are those of the events since the last report.
-/

set_option autoImplicit false

namespace FacetedSearch

/-- What a counter shows. -/
def Measure.counted : Measure → Nat
  | .count n => n
  | _ => 0

/-- The samples that are shown. -/
def Measure.sampled : Measure → List Nat
  | .samples values => values
  | _ => []

/-- A series with this name that has these labels, among others. -/
def Series.isUnder (s : Series) (name : String) (labels : List (String × String)) : Bool :=
  s.name = name && labels.all (s.labels.contains ·)

namespace Event

/-- Events that are counted, all of them at any time. -/
def IsCounted (e : Event) : Prop :=
  ∀ all recent, e.measure all recent = .count (all.countP fun e' => e'.series = e.series)

/-- Criteria were compiled or refused. -/
def isCompiling : Event → Bool
  | .compiled | .rejected _ => true
  | _ => false

/-- An engine was searched, with or without success. -/
def isQuery (succeeded : Bool) : Event → Bool
  | .queried _ succeeded' => succeeded' = succeeded
  | _ => false

/-- How many documents a search found. -/
def found? : Event → Option Nat
  | .found n => some n
  | _ => none

/-- How many facet values a search answered. -/
def facetValues? : Event → Option Nat
  | .facetValues n => some n
  | _ => none

end Event

namespace Metrics

/-- The sum of the counters with a name and certain labels. -/
def totalIn (report : List (Series × Measure)) (name : String)
    (labels : List (String × String)) : Nat :=
  ((report.filter (·.1.isUnder name labels)).map (·.2.counted)).sum

/-- The samples under a name. -/
def samplesIn (report : List (Series × Measure)) (name : String) : List Nat :=
  (report.filter (·.1.name = name)).flatMap (·.2.sampled)

/-- The events that the next report is the first one to see. -/
def unreported (m : Metrics) : List Event := m.events.drop m.reported

variable {m : Metrics}

/-! ### The series of a report -/

theorem exists_event_of_mem_report {shown : Series × Measure} (h : shown ∈ m.report) :
    ∃ e ∈ m.events, (e.series, e.measure m.events m.unreported) = shown := by
  rw [report, List.mem_mergeSort] at h
  exact List.mem_map.mp (mem_of_mem_distinctBy h)

/-- Every series on record is shown once. -/
theorem series_report_perm : (m.report.map (·.1)).Perm (m.events.map Event.series).dedup := by
  have hreport := (List.mergeSort_perm (distinctBy (·.1)
    (m.events.map fun e => (e.series, e.measure m.events m.unreported)))
    fun a b => a.1.precedes b.1).map (·.1)
  refine hreport.trans ?_
  rw [List.perm_ext_iff_of_nodup (nodup_map_distinctBy _ _) (List.nodup_dedup _)]
  intro s
  rw [mem_map_distinctBy, List.mem_dedup, List.map_map]
  rfl

/-! ### Counters -/

/-- **A total is a number of events.** It is the same for every way of
labelling the events. -/
theorem totalIn_report {name : String} {labels : List (String × String)}
    (hcounted : ∀ e : Event, e.series.isUnder name labels = true → e.IsCounted) :
    totalIn m.report name labels = m.events.countP (·.series.isUnder name labels) := by
  -- A counter shows how often its series occurs.
  have hshown : ∀ shown ∈ m.report.filter (·.1.isUnder name labels),
      shown.2.counted = (m.events.map Event.series).count shown.1 := by
    intro shown hmem
    rw [List.mem_filter] at hmem
    obtain ⟨e, -, rfl⟩ := exists_event_of_mem_report hmem.1
    rw [hcounted e hmem.2, List.count_eq_countP, List.countP_map]
    rfl
  rw [totalIn, List.map_congr_left hshown]
  calc ((m.report.filter (·.1.isUnder name labels)).map
        fun shown => (m.events.map Event.series).count shown.1).sum
      = (((m.report.map (·.1)).filter (·.isUnder name labels)).map
          ((m.events.map Event.series).count ·)).sum := by
        rw [List.filter_map, List.map_map]
        rfl
    _ = (((m.events.map Event.series).dedup.filter (·.isUnder name labels)).map
          ((m.events.map Event.series).count ·)).sum :=
        ((series_report_perm.filter _).map _).sum_eq
    _ = m.events.countP (·.series.isUnder name labels) := by
        rw [List.sum_map_count_dedup_filter_eq_countP, List.countP_map]
        rfl

/-- The names of counters are those of events that are counted. -/
theorem isCounted_of_isUnder {name : String} {labels : List (String × String)}
    (hname : name ∈ ["criteria_search_compiles_total", "criteria_search_queries_total",
      "criteria_search_index_probes_total", "criteria_search_retries_total"])
    {e : Event} (h : e.series.isUnder name labels = true) : e.IsCounted := by
  have heq : e.series.name = name := by
    rw [Series.isUnder, Bool.and_eq_true] at h
    exact of_decide_eq_true h.1
  rw [← heq] at hname
  cases e with
  | timed | found | facetValues => simp [Event.series] at hname
  | _ => exact fun _ _ => rfl

theorem totalIn_compiles :
    totalIn m.report "criteria_search_compiles_total" [] = m.events.countP (·.isCompiling) := by
  rw [totalIn_report fun e => isCounted_of_isUnder (by simp)]
  refine List.countP_congr fun e _ => ?_
  cases e <;> simp [Series.isUnder, Event.series, Event.isCompiling]

theorem totalIn_rejected (kind : Filter.Error.Kind) :
    totalIn m.report "criteria_search_compiles_total"
      [("status", "rejected"), ("error_type", kind.label)] =
      m.events.count (.rejected kind) := by
  rw [totalIn_report fun e => isCounted_of_isUnder (by simp), List.count_eq_countP]
  refine List.countP_congr fun e _ => ?_
  cases e with
  | rejected kind' =>
      cases kind <;> cases kind' <;>
        simp [Series.isUnder, Event.series, Filter.Error.Kind.label]
  | _ => simp [Series.isUnder, Event.series]

theorem totalIn_queried (succeeded : Bool) :
    totalIn m.report "criteria_search_queries_total"
      [("status", if succeeded then "success" else "error")] =
      m.events.countP (·.isQuery succeeded) := by
  rw [totalIn_report fun e => isCounted_of_isUnder (by simp)]
  refine List.countP_congr fun e _ => ?_
  cases e with
  | queried engine succeeded' =>
      cases succeeded <;> cases succeeded' <;> simp [Series.isUnder, Event.series, Event.isQuery]
  | _ => simp [Series.isUnder, Event.series, Event.isQuery]

theorem totalIn_probed (probe : Probe) :
    totalIn m.report "criteria_search_index_probes_total" [("outcome", probe.name)] =
      m.events.count (.probed probe) := by
  rw [totalIn_report fun e => isCounted_of_isUnder (by simp), List.count_eq_countP]
  refine List.countP_congr fun e _ => ?_
  cases e with
  | probed probe' =>
      cases probe <;> cases probe' <;> simp [Series.isUnder, Event.series, Probe.name]
  | _ => simp [Series.isUnder, Event.series]

theorem totalIn_retried (op : Operation) :
    totalIn m.report "criteria_search_retries_total" [("operation", op.name)] =
      m.events.count (.retried op) := by
  rw [totalIn_report fun e => isCounted_of_isUnder (by simp), List.count_eq_countP]
  refine List.countP_congr fun e _ => ?_
  cases e with
  | retried op' => cases op <;> cases op' <;> simp [Series.isUnder, Event.series, Operation.name]
  | _ => simp [Series.isUnder, Event.series]

/-! ### Samples -/

/-- Where all events with a name are shown alike, this is all that is shown under
the name. -/
theorem filter_report {name : String} {entry : Series × Measure}
    (h : ∀ e : Event, e.series.name = name →
      (e.series, e.measure m.events m.unreported) = entry) :
    m.report.filter (·.1.name = name) =
      if m.events.any (·.series.name = name) then [entry] else [] := by
  have hentry : ∀ shown ∈ m.report.filter (·.1.name = name), shown = entry := by
    intro shown hmem
    rw [List.mem_filter] at hmem
    obtain ⟨e, -, rfl⟩ := exists_event_of_mem_report hmem.1
    exact h e (of_decide_eq_true hmem.2)
  have hnodup : (m.report.filter (·.1.name = name)).Nodup := by
    have hseries := series_report_perm.nodup_iff.mpr (List.nodup_dedup (m.events.map Event.series))
    exact (hseries.of_map _).filter _
  have hlength : (m.report.filter (·.1.name = name)).length ≤ 1 := by
    rw [List.eq_replicate_of_mem hentry] at hnodup
    exact List.nodup_replicate.mp hnodup
  split
  · rename_i hany
    obtain ⟨e, he, hname⟩ := List.any_eq_true.mp hany
    have hseries : e.series ∈ m.report.map (·.1) :=
      series_report_perm.mem_iff.mpr (List.mem_dedup.mpr (List.mem_map_of_mem he))
    obtain ⟨shown, hshown, heq⟩ := List.mem_map.mp hseries
    have hmem : shown ∈ m.report.filter (·.1.name = name) := by
      rw [List.mem_filter, heq]
      exact ⟨hshown, hname⟩
    have hpos := List.length_pos_of_mem hmem
    rw [List.eq_replicate_of_mem hentry, show List.length _ = 1 by omega]
    rfl
  · rename_i hany
    rw [List.filter_eq_nil_iff]
    intro shown hmem hname
    obtain ⟨e, he, rfl⟩ := exists_event_of_mem_report hmem
    exact hany (List.any_eq_true.mpr ⟨e, he, hname⟩)

/-- **The samples that are shown are those since the last report**, in the order
in which they came. -/
theorem samplesIn_report {name : String} {sample? : Event → Option Nat}
    (hsample : ∀ e n, sample? e = some n → e.series.name = name)
    (hmeasure : ∀ e : Event, e.series.name = name → ∀ all recent,
      (e.series, e.measure all recent) = (⟨name, []⟩, .samples (recent.filterMap sample?))) :
    samplesIn m.report name = m.unreported.filterMap sample? := by
  rw [samplesIn, filter_report fun e he => hmeasure e he _ _]
  split
  · exact List.append_nil _
  · rename_i hany
    symm
    rw [List.flatMap_nil, List.filterMap_eq_nil_iff]
    intro e he
    by_contra hsome
    obtain ⟨n, hn⟩ := Option.ne_none_iff_exists'.mp hsome
    exact hany (List.any_eq_true.mpr
      ⟨e, List.mem_of_mem_drop he, decide_eq_true (hsample e n hn)⟩)

theorem samplesIn_report_found :
    samplesIn m.report "criteria_search_results" = m.unreported.filterMap Event.found? := by
  refine samplesIn_report (fun e n h => ?_) fun e h all recent => ?_
  · cases e <;> first | rfl | cases h
  · cases e <;> first | rfl | simp [Event.series] at h

theorem samplesIn_report_facetValues :
    samplesIn m.report "criteria_search_facet_buckets" =
      m.unreported.filterMap Event.facetValues? := by
  refine samplesIn_report (fun e n h => ?_) fun e h all recent => ?_
  · cases e <;> first | rfl | cases h
  · cases e <;> first | rfl | simp [Event.series] at h

end Metrics

end FacetedSearch
