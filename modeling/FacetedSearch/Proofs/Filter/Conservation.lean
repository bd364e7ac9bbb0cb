import FacetedSearch.Proofs.Filter.Entries
import FacetedSearch.Proofs.Filter.Occurrences

/-!
# `FacetedSearch.Proofs.Filter.Conservation`: compiling loses nothing

`occurrences_compile` says that the query of a filter mentions exactly
what the filter does: the same scalars, each as often, about the same
fields and excluded as many times, and the same comparisons, each bound
under its own operator.

The two readings have nothing in common but the filter. The compiler
follows its grammar, and the other reading visits every value and only
looks at keys. They are compared piece by piece: conditions on one field
first (`occurrences_condition`), then compositions (`conserves_bool`), and
then the entries. Of every piece it is shown that its clauses mention what
is found in it at its place.
-/

set_option autoImplicit false

namespace FacetedSearch

namespace Bounds

/-- The bounds that are set are those of the operators. -/
theorem coe_values (b : Bounds) :
    (b.values : Multiset Scalar) =
      (b.get .gt).toList + (b.get .gte).toList + (b.get .lt).toList + (b.get .lte).toList := by
  obtain ⟨gt, gte, lt, lte⟩ := b
  cases gt <;> cases gte <;> cases lt <;> cases lte <;> rfl

/-- Setting a bound that is not set adds it to those that are. -/
theorem coe_values_set {b : Bounds} {op : Operator} {v : Scalar} (h : b.get op = none) :
    ((b.set op v).values : Multiset Scalar) = (b.values : Multiset Scalar) + {v} := by
  rw [coe_values, coe_values]
  cases op <;>
    simp [-Multiset.coe_add, -Multiset.singleton_add, get_set, h] <;> ac_rfl

end Bounds

namespace Filter

/-! ### Comparisons -/

/-- The bounds of a map are its scalars, each of them once. -/
theorem exists_values_of_bounds {name : String} {ms : Entries Json} {b : Bounds}
    (hkeys : (ms.map (·.1)).Nodup) (h : bounds name ms = .ok b) :
    ∃ vs, List.Forall₂
        (fun m v => Operator.isName m.1 = true ∧ Scalar.ofJson? m.2 = some v) ms vs ∧
      (b.values : Multiset Scalar) = vs := by
  -- The bounds set so far are not set again, as no key is repeated.
  suffices hfold : ∀ b₀ : Bounds, (∀ op, op.name ∈ ms.map (·.1) → b₀.get op = none) →
      ms.foldlM (bound name) b₀ = .ok b →
      ∃ vs, List.Forall₂
          (fun m v => Operator.isName m.1 = true ∧ Scalar.ofJson? m.2 = some v) ms vs ∧
        (b.values : Multiset Scalar) = (b₀.values : Multiset Scalar) + vs by
    obtain ⟨vs, hvs, hb⟩ := hfold {} (fun op _ => by cases op <;> rfl) h
    exact ⟨vs, hvs, by simpa [Bounds.values] using hb⟩
  clear h
  induction ms with
  | nil =>
      intro b₀ _ h
      cases h
      exact ⟨[], .nil, by simp⟩
  | cons m rest ih =>
      intro b₀ hunset h
      rw [List.map_cons, List.nodup_cons] at hkeys
      rw [List.foldlM_cons] at h
      obtain ⟨_, hm, h⟩ := bind_eq_ok_iff.mp h
      obtain ⟨op, v, hkey, hv, rfl⟩ := bound_eq_ok_iff.mp hm
      have hrest : ∀ op', op'.name ∈ rest.map (·.1) → (b₀.set op v).get op' = none := by
        intro op' hmem
        have hne : op' ≠ op := fun hop => hkeys.1 (hkey ▸ hop ▸ hmem)
        rw [Bounds.get_set, if_neg hne]
        exact hunset op' (List.mem_cons_of_mem _ hmem)
      obtain ⟨vs, hvs, hb⟩ := ih hkeys.2 _ hrest h
      refine ⟨v :: vs, .cons ⟨?_, hv⟩ hvs, ?_⟩
      · rw [Operator.isName, hkey, Operator.named?_name]
        rfl
      · have hop : b₀.get op = none := hunset op (by simp [hkey])
        rw [hb, Bounds.coe_values_set hop, add_assoc, Multiset.singleton_add, Multiset.cons_coe]

/-- The bounds of a map are the ones under its operators. -/
theorem ofComparisons_of_bounds {name : String} {ms : Entries Json} {b : Bounds}
    (hkeys : (ms.map (·.1)).Nodup) (h : bounds name ms = .ok b) : .ofComparisons ms = b := by
  refine Bounds.ext_get fun op => ?_
  rw [get_of_bounds hkeys h]
  cases op <;> rfl

/-- A map of comparisons mentions its bounds, together and one by one. -/
theorem occurrences_range {name : String} {ms : Entries Json} {q : Query}
    {spot : List String → Place} (hkeys : (ms.map (·.1)).Nodup) (h : range name ms = .ok q)
    (hfield : spot [] = { field := name, isField := true })
    (hbound : ∀ op, Operator.isName op = true → spot [op] = { field := name }) :
    q.occurrences = (Json.object ms).gather fun path => found (spot path) := by
  obtain ⟨b, hb, rfl⟩ := bind_pure_eq_ok_iff.mp h
  obtain ⟨vs, hvs, hvalues⟩ := exists_values_of_bounds hkeys hb
  have hnames : ∀ m ∈ ms, Operator.isName m.1 = true := fun m hm =>
    (exists_bounds_iff.mp ⟨b, hb⟩ m hm).1
  have hfound : found (spot []) (.object ms) = {⟨name, 0, .bounds b⟩} := by
    rw [found, hfield, if_pos ⟨rfl, hnames⟩, ofComparisons_of_bounds hkeys hb]
    rfl
  have hmembers : Json.gatherMembers ms (fun path => found (spot path)) =
      (vs : Multiset Scalar).map fun v => ⟨name, 0, .value v⟩ := by
    clear hfound hnames hvalues hkeys hb h
    induction hvs with
    | nil => rfl
    | cons hmv _ ih =>
        rw [Json.gatherMembers, gather_scalar hmv.2, ih, hbound _ hmv.1]
        rfl
  rw [Query.occurrences, hvalues, Json.gather, hfound, hmembers]
  rfl

/-! ### Parts and compositions -/

/-- Pieces that mention what is found in them do so together. -/
theorem sum_eq_of_forall₂ {α β : Type} {f : α → Multiset Occurrence} {g : β → Multiset Occurrence}
    {as : List α} {bs : List β} (h : List.Forall₂ (fun a b => g b = f a) as bs) :
    (bs.map g).sum = (as.map f).sum := by
  induction h with
  | nil => rfl
  | cons hab _ ih => rw [List.map_cons, List.map_cons, List.sum_cons, List.sum_cons, hab, ih]

/-- A condition mentions what is found in its value, whatever its form. -/
theorem occurrences_condition {form : Form} {field : String} {j : Json} (hj : j.DistinctKeys)
    {q : Query} (h : form.condition field j = .ok q) :
    q.occurrences = j.gather fun path => found (conditionPlace (field :: path)) := by
  cases form with
  | term | text =>
      obtain ⟨v, hv, rfl⟩ := bind_pure_eq_ok_iff.mp h
      rw [gather_scalar (scalar_eq_ok_iff.mp hv)]
      rfl
  | terms =>
      cases j with
      | array items =>
          obtain ⟨vs, hvs, rfl⟩ := bind_pure_eq_ok_iff.mp h
          rw [gather_scalars (scalars_eq_ok_iff.mp hvs)]
          rfl
      | _ => cases h
  | range =>
      cases j with
      | object members => exact occurrences_range hj.1 h rfl fun _ _ => rfl
      | _ => cases h

theorem occurrencesOfAll_conditions {key : String} {body : Json} (hbody : body.DistinctKeys)
    {qs : List Query} (h : conditions key body = .ok qs) :
    Query.occurrencesOfAll qs = body.gather fun path => found (conditionPlace path) := by
  obtain ⟨form, fields, -, rfl, hqs⟩ := conditions_eq_ok_iff.mp h
  have hfields := (Json.distinctKeysMembers_iff fields).mp hbody.2
  rw [gather_object rfl, Query.occurrencesOfAll_eq_sum]
  exact sum_eq_of_forall₂ (forall₂_imp_of_mem hqs fun m hm q hq =>
    occurrences_condition (hfields m hm) hq)

/-- The query of a part mentions what its clauses do. -/
theorem occurrences_join {qs : List Query} {q : Query} (h : join qs = .ok q) :
    q.occurrences = Query.occurrencesOfAll qs := by
  unfold join at h
  split at h
  · cases h
  · cases h
    simp [Query.occurrencesOfAll]
  · cases h
    simp [Query.occurrences, Query.occurrencesOfAll]

/-- What is read from a value mentions what is found in it, be it read as a
composition, as a part, or as the content of a slot. -/
theorem conserves_bool (j : Json) (hj : j.DistinctKeys) :
    (∀ c, composition j = .ok c →
      (Query.bool c).occurrences = j.gather fun path => found (slotPlace path)) ∧
      (∀ q, part j = .ok q → q.occurrences = j.gather fun path => found (formPlace path)) ∧
      ∀ key qs, slotParts key j = .ok qs →
        Query.occurrencesOfAll qs = j.gather fun path => found (formPlace path) := by
  -- On the value: the parts of a slot, the forms of a part and the slots of a
  -- composition are all values inside it.
  induction j using Json.induction with
  | array items ih =>
      have hitems := (Json.distinctKeysItems_iff items).mp hj
      refine ⟨fun c h => ?_, fun q h => ?_, fun key qs h => ?_⟩
      · cases h
      · cases h
      · rcases slotParts_eq_ok_iff.mp h with ⟨_, hparts, hqs⟩ | ⟨q, hq, -⟩
        · cases hparts
          rw [gather_array, Query.occurrencesOfAll_eq_sum]
          exact sum_eq_of_forall₂ (forall₂_imp_of_mem hqs fun p hp q hq =>
            (ih p hp (hitems p hp)).2.1 q hq)
        · cases hq
  | object members ih =>
      have hmembers := (Json.distinctKeysMembers_iff members).mp hj.2
      have hcomposition : ∀ c, composition (.object members) = .ok c → (Query.bool c).occurrences =
          (Json.object members).gather fun path => found (slotPlace path) := by
        intro c h
        obtain ⟨_, cs, hslots, hcs, rfl⟩ := composition_eq_ok_iff.mp h
        cases hslots
        rw [gather_object rfl, Query.occurrences_concat]
        refine sum_eq_of_forall₂ (forall₂_imp_of_mem hcs fun m hm c hc => ?_)
        obtain ⟨slot, qs, hkey, hqs, rfl⟩ := slotEntry_eq_ok_iff.mp hc
        rw [Query.occurrences_only, (ih m hm (hmembers m hm)).2.2 _ _ hqs, ← gather_under, hkey]
        rfl
      have hpart : ∀ q, part (.object members) = .ok q →
          q.occurrences = (Json.object members).gather fun path => found (formPlace path) := by
        intro q h
        obtain ⟨_, qss, hforms, hqss, hq⟩ := part_eq_ok_iff.mp h
        cases hforms
        rw [occurrences_join hq, Query.occurrencesOfAll_flatten, gather_object rfl]
        refine sum_eq_of_forall₂ (forall₂_imp_of_mem hqss fun m hm qs hqs => ?_)
        simp only [formPlace]
        unfold formClauses at hqs
        split at hqs
        · rename_i hkey
          obtain ⟨c, hc, rfl⟩ := map_eq_ok_iff.mp hqs
          simp only [if_pos hkey, Query.occurrencesOfAll_singleton]
          exact (ih m hm (hmembers m hm)).1 c hc
        · rename_i hkey
          simp only [if_neg hkey]
          exact occurrencesOfAll_conditions (hmembers m hm) hqs
      refine ⟨hcomposition, hpart, fun key qs h => ?_⟩
      rcases slotParts_eq_ok_iff.mp h with ⟨_, hparts, -⟩ | ⟨q, hq, rfl⟩
      · cases hparts
      · rw [Query.occurrencesOfAll_singleton]
        exact hpart q hq
  | _ =>
      refine ⟨fun c h => ?_, fun q h => ?_, fun key qs h => ?_⟩
      · cases h
      · cases h
      · cases h

/-! ### Entries -/

theorem not_isName_mustNot : ¬Operator.isName "must_not" = true := by decide

section
variable {s : Settings} {c : Clauses Query}

/-- Conditions that have to hold are not excluded. -/
theorem occurrences_required (qs : List Query) :
    (Query.bool (.only .must qs)).occurrences = Query.occurrencesOfAll qs := by
  rw [Query.occurrences_only]
  exact Multiset.map_id _

/-- What is excluded is excluded once more than it is found. -/
theorem occurrences_excluded (spot : List String → Place) {qs : List Query} {j : Json}
    (h : Query.occurrencesOfAll qs = j.gather fun path => found (spot path)) :
    (Query.bool (.only .mustNot qs)).occurrences =
      j.gather fun path => found ((spot path).under "must_not") := by
  rw [Query.occurrences_only, gather_under, h]
  rfl

/-- An exclusion mentions its values. -/
theorem occurrences_exclusion {name : String} {j : Json} {q : Query} {spot : List String → Place}
    (h : exclusion name j = .ok q) (hspot : spot [] = { field := name }) :
    q.occurrences = j.gather fun path => found (spot path) := by
  cases j with
  | array items =>
      obtain ⟨vs, hvs, rfl⟩ := bind_pure_eq_ok_iff.mp h
      rw [gather_scalars (scalars_eq_ok_iff.mp hvs), hspot]
      rfl
  | _ =>
      obtain ⟨v, hv, rfl⟩ := bind_pure_eq_ok_iff.mp h
      rw [gather_scalar (scalar_eq_ok_iff.mp hv), hspot]
      rfl

/-- A flag is about a field of its own. -/
theorem occurrences_flag {name key : String} {j : Json} {q : Query}
    (hkey : ¬Operator.isName key = true ∧ key ≠ "must_not") (h : flag name key j = .ok q) :
    q.occurrences = j.gather fun path => found (entryPlace name (key :: path)) := by
  cases j with
  | bool b =>
      cases h
      have hv : Scalar.ofJson? (.bool b) = some (.boolean b) := rfl
      rw [gather_scalar hv, entryPlace, if_neg hkey.2, if_neg hkey.1]
      rfl
  | _ => cases h

/-- A field with a map. -/
theorem occurrences_nested {name : String} {members : Entries Json}
    (hkeys : (members.map (·.1)).Nodup) (h : nested name members = .ok c) :
    (Query.bool c).occurrences =
      (Json.object members).gather fun path => found (entryPlace name path) := by
  rcases nested_eq_ok_iff.mp h with
    ⟨q, hnames, hq, rfl⟩ | ⟨excluded, q, rfl, hq, rfl⟩ | ⟨qs, hsome, hmembers, hqs, rfl⟩
  · rw [occurrences_required, Query.occurrencesOfAll_singleton]
    refine occurrences_range hkeys hq rfl fun op hop => ?_
    have hop' : op ≠ "must_not" := by
      rintro rfl
      exact not_isName_mustNot hop
    rw [entryPlace, if_neg hop', if_pos hop]
  · rw [gather_object (found_eq_zero ⟨_, .head _, not_isName_mustNot⟩), List.map_singleton,
      List.sum_singleton]
    refine occurrences_excluded (fun _ => { field := name }) ?_
    rw [Query.occurrencesOfAll_singleton]
    exact occurrences_exclusion hq rfl
  · obtain ⟨m, hm⟩ := List.exists_mem_of_ne_nil members hsome
    rw [gather_object (found_eq_zero ⟨m, hm, (hmembers m hm).1⟩), occurrences_required,
      Query.occurrencesOfAll_eq_sum]
    exact sum_eq_of_forall₂ (forall₂_imp_of_mem (mapM_eq_ok_iff.mp hqs) fun m hm q hq =>
      occurrences_flag (hmembers m hm) hq)

/-- A field. -/
theorem occurrences_field {name : String} {j : Json} (hj : j.DistinctKeys)
    (h : field name j = .ok c) :
    (Query.bool c).occurrences = j.gather fun path => found (entryPlace name path) := by
  cases j with
  | array items =>
      obtain ⟨vs, hvs, rfl⟩ := bind_pure_eq_ok_iff.mp h
      rw [occurrences_required, Query.occurrencesOfAll_singleton,
        gather_scalars (scalars_eq_ok_iff.mp hvs)]
      rfl
  | object members => exact occurrences_nested hj.1 h
  | _ =>
      obtain ⟨v, hv, rfl⟩ := bind_pure_eq_ok_iff.mp h
      rw [occurrences_required, Query.occurrencesOfAll_singleton,
        gather_scalar (scalar_eq_ok_iff.mp hv)]
      rfl

/-- The exclusions of a filter. -/
theorem occurrences_exclusions {j : Json} (h : exclusions s j = .ok c) :
    (Query.bool c).occurrences = j.gather fun path => found (place s ("must_not" :: path)) := by
  -- The place of a value is that of its field, or of the exclusion field, excluded.
  let spot (path : List String) : Place := { field := path.headD s.exclusionField }
  cases j with
  | object fields =>
      obtain ⟨qs, hqs, rfl⟩ := bind_pure_eq_ok_iff.mp h
      have hfields : Query.occurrencesOfAll qs =
          (Json.object fields).gather fun path => found (spot path) := by
        rw [gather_object rfl, Query.occurrencesOfAll_eq_sum]
        exact sum_eq_of_forall₂ ((mapM_eq_ok_iff.mp hqs).imp fun m q hq =>
          occurrences_exclusion hq rfl)
      exact occurrences_excluded spot hfields
  | _ =>
      obtain ⟨q, hq, rfl⟩ := bind_pure_eq_ok_iff.mp h
      refine occurrences_excluded spot ?_
      rw [Query.occurrencesOfAll_singleton]
      exact occurrences_exclusion hq rfl

/-- One entry of a filter. -/
theorem occurrences_entry {key : String} {j : Json} (hj : j.DistinctKeys)
    (h : entry s key j = .ok c) :
    (Query.bool c).occurrences = j.gather fun path => found (place s (key :: path)) := by
  unfold entry at h
  by_cases hmustNot : key = "must_not"
  · subst hmustNot
    exact occurrences_exclusions h
  · rw [if_neg hmustNot] at h
    simp only [place, if_neg hmustNot]
    by_cases hbool : key = "bool"
    · rw [if_pos hbool] at h
      simp only [if_pos hbool]
      exact (conserves_bool j hj).1 c h
    · rw [if_neg hbool] at h
      simp only [if_neg hbool]
      exact occurrences_field hj h

end

/-- **Compiling loses, repeats and moves nothing.** The query of a filter
that compiles mentions exactly the scalars and the comparisons that stand
in the filter, each as often, about the same field and under as many
exclusions. -/
theorem occurrences_compile (s : Settings) (f : Filter) (hf : (Json.object f).DistinctKeys)
    (q : Query) (h : compile s f = .ok q) : q.occurrences = f.occurrences s := by
  have hentries := (Json.distinctKeysMembers_iff f).mp hf.2
  obtain ⟨c, hc, rfl⟩ := compile_eq_ok_iff.mp h
  obtain ⟨cs, hcs, rfl⟩ := clauses_eq_ok_iff.mp hc
  rw [occurrences, gather_object rfl, Query.occurrences_concat]
  exact sum_eq_of_forall₂ (forall₂_imp_of_mem hcs fun m hm c hc =>
    occurrences_entry (hentries m hm) hc)

/-- A filter with an exclusion without a field, one scalar twice, a flag,
comparisons, and an exclusion in an exclusion around no comparisons. -/
def scatteredFilter : Filter :=
  [("must_not", .string "draft"),
    ("tag", .array [.integer 1, .integer 1]),
    ("flags", .object [("pinned", .bool true)]),
    ("price", .object [("gte", .integer 10), ("lt", .integer 20)]),
    ("bool", .object [("must_not", .object [("bool", .object [("must_not", .object
      [("range", .object [("n", .object [])]), ("match", .object [("t", .string "sea")])])])])])]

/-- The query that `scatteredFilter` compiles to. -/
def scatteredQuery : Query :=
  .bool {
    must := [.terms "tag" [.integer 1, .integer 1], .term "flags.pinned" (.boolean true),
      .range "price" { gte := some (.integer 10), lt := some (.integer 20) }]
    mustNot := [.terms "status" [.text "draft"],
      .bool { mustNot := [.bool { must := [.range "n" {}, .text "t" (.text "sea")] }] }] }

theorem occurrences_compile_scattered :
    (Json.object scatteredFilter).DistinctKeys ∧
      compile {} scatteredFilter = .ok scatteredQuery ∧
      scatteredQuery.occurrences = scatteredFilter.occurrences {} ∧
      scatteredFilter.occurrences {} =
        {⟨"status", 1, .value (.text "draft")⟩, ⟨"tag", 0, .value (.integer 1)⟩,
          ⟨"tag", 0, .value (.integer 1)⟩, ⟨"flags.pinned", 0, .value (.boolean true)⟩,
          ⟨"price", 0, .bounds { gte := some (.integer 10), lt := some (.integer 20) }⟩,
          ⟨"price", 0, .value (.integer 10)⟩, ⟨"price", 0, .value (.integer 20)⟩,
          ⟨"n", 2, .bounds {}⟩, ⟨"t", 2, .value (.text "sea")⟩} := by
  have hkeys : (Json.object scatteredFilter).DistinctKeys := by
    simp [scatteredFilter, Json.DistinctKeys, Json.DistinctKeysMembers, Json.DistinctKeysItems]
  exact ⟨hkeys, rfl, occurrences_compile {} scatteredFilter hkeys scatteredQuery rfl, rfl⟩

end Filter

end FacetedSearch
