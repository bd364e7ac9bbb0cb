import FacetedSearch.Elastic.Body
import FacetedSearch.Proofs.Query.RoundTrip
import FacetedSearch.Proofs.Session.Facets

/-!
# `FacetedSearch.Proofs.Elastic.Injectivity`: bodies that tell requests apart

Two requests with one body are the same request, but for the index, which
a body does not mention (`Request.elasticBody_eq_iff`). Three things could
get in the way. A text condition has two forms, and which one it takes is
decided by its field, so the forms still determine it. What is empty or
not set is left out, so nothing may be written that looks like it: an
empty list of fields to return, say, is not the same as none. And the
aggregations are members of one object, so of two with one name only one
would be left; this is why names have to be distinct, as they are in
every request that is made from criteria.
-/

set_option autoImplicit false

namespace FacetedSearch

/-! ### Lists and options that are written item by item -/

section
variable {α β : Type} {write : α → β}

/-- Lists that are written alike are equal, if their items are. -/
theorem eq_of_map_eq {as bs : List α} (hwrite : ∀ a ∈ as, ∀ b, write a = write b → a = b)
    (h : as.map write = bs.map write) : as = bs := by
  rw [← List.forall₂_eq_eq_eq, List.forall₂_map_left_iff, List.forall₂_map_right_iff] at h
  rw [← List.forall₂_eq_eq_eq]
  exact forall₂_imp_of_mem h hwrite

/-- Options that are written alike are equal, if their values are. -/
theorem eq_of_option_map_eq {a b : Option α}
    (hwrite : ∀ v, a = some v → ∀ w, write v = write w → v = w)
    (h : a.map write = b.map write) : a = b := by
  cases a with
  | none => exact (Option.map_eq_none_iff.mp h.symm).symm
  | some v =>
      obtain ⟨w, rfl, hw⟩ := Option.map_eq_some_iff.mp h.symm
      rw [hwrite v rfl w hw.symm]

end

theorem Entries.lookup_singleton (key key' : String) (j : Json) :
    [(key, j)].lookup key' = if key' = key then some j else none := by
  by_cases hkey : key' = key
  · rw [hkey, List.lookup_cons_self, if_pos rfl]
  · have hb : (key' == key) = false := by simpa using hkey
    simp [List.lookup_cons, hb, hkey]

/-! ### Conditions -/

/-- A finite scalar is written like no other scalar. -/
theorem Scalar.eq_of_toJson {v w : Scalar} (hv : v.IsFinite) (h : v.toJson = w.toJson) :
    v = w := by
  have hw : ofJson? w.toJson = some v := h ▸ ofJson?_toJson hv
  cases w with
  | float x =>
      -- A number that is not finite is written as `null`, and that is no scalar.
      by_cases hx : x.isFinite = true
      · exact Option.some.inj (hw.symm.trans (ofJson?_toJson hx))
      · rw [toJson, if_neg hx] at hw
        cases hw
  | _ => exact Option.some.inj (hw.symm.trans (ofJson?_toJson trivial))

theorem Bounds.eq_of_toJson {b b' : Bounds} (hb : ∀ v ∈ b.values, v.IsFinite)
    (h : b.toJson = b'.toJson) : b = b' := by
  refine ext_get fun op => ?_
  have hmember := congrArg (Json.get? op.name) h
  simp only [toJson, Json.get?, lookup_members] at hmember
  exact eq_of_option_map_eq (fun v hv w hw =>
    Scalar.eq_of_toJson (hb v (mem_values_of_get hv)) hw) hmember

namespace Query

/-- The slots of compositions that are written alike are. -/
theorem map_get_of_toElastic {c c' : Clauses Query}
    (h : (Query.bool c).toElastic = (Query.bool c').toElastic) (slot : Slot) :
    (c.get slot).map toElastic = (c'.get slot).map toElastic := by
  simp only [toElastic, listToElastic_eq_map] at h
  have hmember := congrArg (fun j => (j.get? "bool").bind (Json.get? slot.name)) h
  simp only [Json.get?, List.lookup_cons_self, Option.bind_some, lookup_slotMembers] at hmember
  -- A slot that is left out is empty on both sides.
  cases hqs : c.get slot with
  | nil =>
      cases hqs' : c'.get slot with
      | nil => rfl
      | cons q' rest' => simp [hqs, hqs'] at hmember
  | cons q rest =>
      cases hqs' : c'.get slot with
      | nil => simp [hqs, hqs'] at hmember
      | cons q' rest' => simpa [hqs, hqs'] using hmember

/-- Different queries are never written alike. -/
theorem eq_of_toElastic {q q' : Query} (hq : q.IsFinite) (h : q.toElastic = q'.toElastic) :
    q = q' := by
  -- On the first query. Its key leaves the second one no other form, and what
  -- is written under the key is then compared.
  induction q using Query.induction generalizing q' with
  | term field value =>
      cases q' with
      | term field' value' =>
          simp only [toElastic, Json.object.injEq, List.cons.injEq, Prod.mk.injEq, and_true,
            true_and] at h
          rw [h.1, Scalar.eq_of_toJson (hq _ (.head _) _ (.head _)) h.2]
      | _ => simp [toElastic, eq_ite_iff] at h
  | terms field values =>
      cases q' with
      | terms field' values' =>
          simp only [toElastic, Json.object.injEq, Json.array.injEq, List.cons.injEq,
            Prod.mk.injEq, and_true, true_and] at h
          have hvalues : values = values' :=
            eq_of_map_eq (fun v hv w => Scalar.eq_of_toJson (hq _ (.head _) v hv)) h.2
          rw [h.1, hvalues]
      | _ => simp [toElastic, eq_ite_iff] at h
  | text field value =>
      cases q' with
      | text field' value' =>
          have hboth : field = field' ∧ value.toJson = value'.toJson := by
            simp [toElastic, ite_eq_iff, eq_ite_iff] at h
            rcases h with ⟨-, -, hvalue, hfield⟩ | ⟨-, -, hfield, hvalue⟩
            · exact ⟨hfield, hvalue⟩
            · exact ⟨hfield, hvalue⟩
          rw [hboth.1, Scalar.eq_of_toJson (hq _ (.head _) _ (.head _)) hboth.2]
      | _ => simp [toElastic, ite_eq_iff] at h
  | range field bounds =>
      cases q' with
      | range field' bounds' =>
          simp only [toElastic, Json.object.injEq, List.cons.injEq, Prod.mk.injEq, and_true,
            true_and] at h
          rw [h.1, Bounds.eq_of_toJson (fun v hv => hq _ (.head _) v hv) h.2]
      | _ => simp [toElastic, eq_ite_iff] at h
  | bool c ih =>
      cases q' with
      | bool c' =>
          have hslots : c = c' := Clauses.ext_get fun slot =>
            eq_of_map_eq (fun q hqs q' => ih slot q hqs (isFinite_bool_iff.mp hq slot q hqs))
              (map_get_of_toElastic h slot)
          rw [hslots]
      | _ => simp [toElastic, eq_ite_iff] at h

end Query

/-! ### Requests -/

theorem Direction.name_injective : Function.Injective Direction.name := by
  intro d d' h
  cases d <;> cases d' <;> simp [name] at h ⊢

namespace Request

/-- Lists of aggregations that are written alike are equal, if neither has
two of one name. -/
theorem eq_of_elasticAggregations {as bs : List Aggregation} (has : (as.map (·.name)).Nodup)
    (hbs : (bs.map (·.name)).Nodup) (h : elasticAggregations as = elasticAggregations bs) :
    as = bs := by
  have hself {as : List Aggregation} (has : (as.map (·.name)).Nodup) :
      elasticAggregations as = as.map fun a =>
        (a.name, .object [("terms", .object (("field", .string a.field) ::
          (a.size.map fun n => ("size", Json.integer n.toNat)).toList))]) := by
    refine Entries.collect_eq_self ?_
    rwa [Entries.keys, List.map_map]
  rw [hself has, hself hbs] at h
  refine eq_of_map_eq (fun a _ b hab => ?_) h
  obtain ⟨name, field, size⟩ := a
  obtain ⟨name', field', size'⟩ := b
  cases size <;> cases size' <;> simp_all [UInt32.toNat_inj]

/-- A section that says something is found under its key. -/
theorem lookup_section {α : Type} (o : Option α) (key key' : String) (write : α → Json) :
    (o.map fun v => (key, write v)).toList.lookup key' =
      if key' = key then o.map write else none := by
  cases o with
  | none => simp
  | some v => exact Entries.lookup_singleton key key' (write v)

/-- What stands under each key of a body. -/
theorem get?_elasticBody (r : Request) :
    r.elasticBody.get? "query" = some r.query.toElastic ∧
      r.elasticBody.get? "from" = r.offset.map (fun n => .integer n.toNat) ∧
      r.elasticBody.get? "size" = r.size.map (fun n => .integer n.toNat) ∧
      r.elasticBody.get? "_source" =
        r.includes.map (fun fs => .object [("includes", .strings fs)]) ∧
      r.elasticBody.get? "sort" = r.sortBy.map (fun s =>
        .array [.object [(s.field, .object [("order", .string s.direction.name)])]]) ∧
      r.elasticBody.get? "aggs" =
        if r.aggregations.isEmpty then none
        else some (.object (elasticAggregations r.aggregations)) := by
  simp only [elasticBody, Json.get?, List.lookup_append, lookup_section, List.lookup_cons]
  cases r.aggregations.isEmpty <;> simp [Entries.lookup_singleton]

/-- Requests with one body are equal but for the index. -/
theorem eq_forIndex_of_elasticBody {r s : Request} (hr : r.query.IsFinite)
    (hrnames : (r.aggregations.map (·.name)).Nodup)
    (hsnames : (s.aggregations.map (·.name)).Nodup) (h : r.elasticBody = s.elasticBody) :
    r = s.forIndex r.index := by
  obtain ⟨hquery, hoffset, hsize, hincludes, hsort, haggs⟩ := get?_elasticBody r
  rw [h] at hquery hoffset hsize hincludes hsort haggs
  obtain ⟨hquery', hoffset', hsize', hincludes', hsort', haggs'⟩ := get?_elasticBody s
  have hnumber (n m : UInt64) (hnm : Json.integer n.toNat = .integer m.toNat) : n = m := by
    simpa [UInt64.toNat_inj] using hnm
  have query : r.query = s.query :=
    Query.eq_of_toElastic hr (Option.some.inj (hquery.symm.trans hquery'))
  have offset : r.offset = s.offset :=
    eq_of_option_map_eq (fun n _ => hnumber n) (hoffset.symm.trans hoffset')
  have size : r.size = s.size :=
    eq_of_option_map_eq (fun n _ => hnumber n) (hsize.symm.trans hsize')
  have includes : r.includes = s.includes := by
    refine eq_of_option_map_eq (fun fs _ gs hfs => ?_) (hincludes.symm.trans hincludes')
    simp [Json.strings] at hfs
    exact eq_of_map_eq (fun f _ g hfg => by simpa using hfg) hfs
  have sortBy : r.sortBy = s.sortBy := by
    refine eq_of_option_map_eq (fun a _ b hab => ?_) (hsort.symm.trans hsort')
    obtain ⟨field, direction⟩ := a
    obtain ⟨field', direction'⟩ := b
    simp at hab
    rw [hab.1, Direction.name_injective hab.2]
  have aggregations : r.aggregations = s.aggregations := by
    have hsame := haggs.symm.trans haggs'
    cases hras : r.aggregations with
    | nil =>
        cases hsas : s.aggregations with
        | nil => rfl
        | cons b bs => simp [hras, hsas] at hsame
    | cons a as =>
        cases hsas : s.aggregations with
        | nil => simp [hras, hsas] at hsame
        | cons b bs =>
            simp [hras, hsas] at hsame
            rw [hras] at hrnames
            rw [hsas] at hsnames
            exact eq_of_elasticAggregations hrnames hsnames hsame
  cases r
  cases s
  simp_all [forIndex]

/-- **A body tells everything about its request but the index.** Two
requests in which no two aggregations have one name are written as the
same body exactly when they differ in the index alone, and two queries
are written alike exactly when they are equal. The requests that are made
from criteria are of that sort. It is enough that the numbers of one of
the two are finite. -/
theorem elasticBody_eq_iff :
    (∀ r s : Request, r.query.IsFinite → (r.aggregations.map (·.name)).Nodup →
      (s.aggregations.map (·.name)).Nodup →
      (r.elasticBody = s.elasticBody ↔ r = s.forIndex r.index)) ∧
      (∀ q q' : Query, q.IsFinite → (q.toElastic = q'.toElastic ↔ q = q')) ∧
      ∀ (settings : Settings) (index : String) (q : Query) (c : Criteria),
        ((assemble settings index q c).aggregations.map (·.name)).Nodup := by
  refine ⟨fun r s hr hrnames hsnames => ⟨?_, ?_⟩, fun q q' hq => ⟨?_, ?_⟩, ?_⟩
  · exact eq_forIndex_of_elasticBody hr hrnames hsnames
  · intro h
    rw [h]
    rfl
  · exact Query.eq_of_toElastic hq
  · exact congrArg Query.toElastic
  · intro settings index q c
    exact nodup_aggregationNames

/-- A request with text conditions of both forms, an empty list of fields,
and two aggregations on one field. -/
def broadRequest : Request where
  index := "books"
  query := .bool {
    must := [.text "title*" (.text "sea"), .text "title" (.text "sea")]
    should := [.bool {}, .range "price" { lt := some (.float ⟨0x3ff8000000000000⟩) }] }
  offset := some 20
  includes := some []
  sortBy := some ⟨"price", .descending⟩
  aggregations := [⟨"all", "tag", none⟩, ⟨"some", "tag", some 3⟩]

theorem elasticBody_eq_iff_broad :
    broadRequest.query.IsFinite ∧ (broadRequest.aggregations.map (·.name)).Nodup ∧
      broadRequest.elasticBody = (broadRequest.forIndex "films").elasticBody ∧
      broadRequest.elasticBody ≠
        ({ broadRequest with includes := none } : Request).elasticBody ∧
      (Query.text "title*" (.text "sea")).toElastic ≠
        (Query.text "title" (.text "sea")).toElastic := by
  have hfinite : broadRequest.query.IsFinite := by
    simp [broadRequest, Query.IsFinite, Query.conditions, Query.conditionsOfAll, Query.values,
      Bounds.values, Scalar.IsFinite]
    decide
  have hnames : (broadRequest.aggregations.map (·.name)).Nodup := by decide
  obtain ⟨hrequests, hqueries, -⟩ := elasticBody_eq_iff
  refine ⟨hfinite, hnames, (hrequests _ _ hfinite hnames hnames).mpr rfl, ?_, ?_⟩
  · intro h
    have hsame := (hrequests broadRequest { broadRequest with includes := none } hfinite hnames
      hnames).mp h
    simp [broadRequest, forIndex] at hsame
  · intro h
    have hsame := (hqueries _ _ (by simp [Query.IsFinite, Query.conditions, Query.values,
      Scalar.IsFinite])).mp h
    simp at hsame

end Request

end FacetedSearch
