import FacetedSearch.Proofs.Filter.Entries
import FacetedSearch.Proofs.Filter.Reading
import FacetedSearch.Proofs.Query.Selection

/-!
# `FacetedSearch.Proofs.Filter.Meaning`: a compiled filter means what it says

`compile_selects_iff_satisfies` is the correctness of compiling: when a
filter compiles, its query selects exactly the documents that satisfy the
filter read directly.

The proof relates the two sides piece by piece. A query and a condition
are related when they hold of the same documents (`Query.Means`). Clauses
and demands are related when they are in every respect that decides
selection (`Clauses.Express`): all of `must` and `filter` holds when all
that is required does, one of `should` when one of the alternatives does,
and so on, and the lists are empty together. The last part matters,
because an empty list of requirements is what makes alternatives count.
Both relations pass through joining (`Express.append`), so an entry never
has to know about the others.

`reads_bool` is the induction over nested compositions. Its three parts
are about one JSON value seen as a composition, as a part, and as the
content of a slot.
-/

set_option autoImplicit false

namespace FacetedSearch

/-! ### Queries and conditions -/

/-- The query selects exactly the documents of the condition. -/
def Query.Means (q : Query) (P : Document → Prop) : Prop :=
  ∀ doc, q.selects doc = true ↔ P doc

/-! ### Clauses and demands -/

/-- The clauses say what the demands say. -/
structure Clauses.Express (c : Clauses Query) (D : Demands) : Prop where
  required : ∀ doc, (∀ q ∈ c.must ++ c.filter, q.selects doc = true) ↔ ∀ P ∈ D.required, P doc
  forbidden : ∀ doc, (∃ q ∈ c.mustNot, q.selects doc = true) ↔ ∃ P ∈ D.forbidden, P doc
  alternatives : ∀ doc, (∃ q ∈ c.should, q.selects doc = true) ↔ ∃ P ∈ D.alternatives, P doc
  required_nil : c.must ++ c.filter = [] ↔ D.required = []
  alternatives_nil : c.should = [] ↔ D.alternatives = []

namespace Clauses.Express

theorem empty : Express {} {} where
  required doc := by simp
  forbidden doc := by simp
  alternatives doc := by simp
  required_nil := by simp
  alternatives_nil := by simp

theorem append {c c' : Clauses Query} {D D' : Demands} (h : c.Express D) (h' : c'.Express D') :
    (c ++ c').Express (D ++ D') where
  required doc := by
    -- Slots are joined one by one, so the four parts change places.
    show (∀ q ∈ (c.must ++ c'.must) ++ (c.filter ++ c'.filter), q.selects doc = true) ↔
      ∀ P ∈ D.required ++ D'.required, P doc
    rw [List.forall_mem_append, List.forall_mem_append, List.forall_mem_append,
      List.forall_mem_append, ← h.required, ← h'.required, List.forall_mem_append,
      List.forall_mem_append, and_and_and_comm]
  forbidden doc := by
    show (∃ q ∈ c.mustNot ++ c'.mustNot, q.selects doc = true) ↔
      ∃ P ∈ D.forbidden ++ D'.forbidden, P doc
    simp only [List.mem_append, or_and_right, exists_or, h.forbidden, h'.forbidden]
  alternatives doc := by
    show (∃ q ∈ c.should ++ c'.should, q.selects doc = true) ↔
      ∃ P ∈ D.alternatives ++ D'.alternatives, P doc
    simp only [List.mem_append, or_and_right, exists_or, h.alternatives, h'.alternatives]
  required_nil := by
    show (c.must ++ c'.must) ++ (c.filter ++ c'.filter) = [] ↔ D.required ++ D'.required = []
    rw [List.append_eq_nil_iff, List.append_eq_nil_iff, List.append_eq_nil_iff,
      List.append_eq_nil_iff, ← h.required_nil, ← h'.required_nil, List.append_eq_nil_iff,
      List.append_eq_nil_iff, and_and_and_comm]
  alternatives_nil := by
    show c.should ++ c'.should = [] ↔ D.alternatives ++ D'.alternatives = []
    rw [List.append_eq_nil_iff, List.append_eq_nil_iff, h.alternatives_nil, h'.alternatives_nil]

theorem concat {cs : List (Clauses Query)} {Ds : List Demands}
    (h : List.Forall₂ Clauses.Express cs Ds) :
    (Clauses.concat cs).Express (Demands.concat Ds) := by
  induction h with
  | nil => exact empty
  | cons hc _ ih => exact append hc ih

/-- Parts in a slot. -/
theorem only {slot : Slot} {qs : List Query} {Ps : List (Document → Prop)}
    (h : List.Forall₂ Query.Means qs Ps) :
    (Clauses.only slot qs).Express (Demands.ofSlot slot.name Ps) := by
  have hall (doc : Document) := forall_mem_iff_of_forall₂ (h.imp fun _ _ hq => hq doc)
  have hany (doc : Document) := exists_mem_iff_of_forall₂ (h.imp fun _ _ hq => hq doc)
  have hnil : qs = [] ↔ Ps = [] := by
    rw [← List.length_eq_zero_iff, h.length_eq, List.length_eq_zero_iff]
  cases slot <;> constructor <;> simp [Clauses.only, Demands.ofSlot, Slot.name, hall, hany, hnil]

/-- Clauses select the documents that meet what they express. -/
theorem selects_iff_met {c : Clauses Query} {D : Demands} (h : c.Express D) (doc : Document) :
    (Query.bool c).selects doc = true ↔ D.Met doc := by
  have hforbidden : (¬∃ P ∈ D.forbidden, P doc) ↔ ∀ P ∈ D.forbidden, ¬P doc := by
    simp only [not_exists, not_and]
  rw [Query.selects_bool_iff, h.required, h.forbidden, h.alternatives, h.required_nil, ne_eq,
    h.alternatives_nil, hforbidden]
  rfl

end Clauses.Express

/-! ### Conditions on one field -/

namespace Filter

section
variable {field : String} {items : List Json} {values : List Scalar}

/-- A leaf is equal to a scalar that was read when it is a scalar equal to
the value that was read. -/
theorem exists_sameValue_iff {j : Json} {v : Scalar} (hv : Scalar.ofJson? j = some v)
    {leaf : Json} :
    (∃ w, Scalar.ofJson? leaf = some w ∧ w.sameValue v = true) ↔ leaf.SameValue j := by
  constructor
  · rintro ⟨w, hw, h⟩
    exact (Scalar.sameValue_iff hw hv).mp h
  · intro h
    obtain ⟨w, hw⟩ := Scalar.exists_ofJson?_iff.mpr h.isScalar
    exact ⟨w, hw, (Scalar.sameValue_iff hw hv).mpr h⟩

theorem means_term {j : Json} {v : Scalar} (hv : Scalar.ofJson? j = some v) :
    (Query.term field v).Means (·.Has field j) := by
  intro doc
  show _ ↔ doc.Has field j
  rw [Query.selects_term_iff, Document.Has]
  simp only [Document.mem_scalars, ← exists_sameValue_iff hv]
  constructor
  · rintro ⟨w, ⟨leaf, hleaf, hw⟩, h⟩
    exact ⟨leaf, hleaf, w, hw, h⟩
  · rintro ⟨leaf, hleaf, w, hw, h⟩
    exact ⟨w, ⟨leaf, hleaf, hw⟩, h⟩

theorem means_terms (h : List.Forall₂ (fun j v => Scalar.ofJson? j = some v) items values) :
    (Query.terms field values).Means (·.HasAny field items) := by
  intro doc
  -- Membership in a list of values is a disjunction of equalities, one for each.
  have hterms : (Query.terms field values).selects doc = true ↔
      ∃ v ∈ values, (Query.term field v).selects doc = true := by
    simp only [Query.selects_terms_iff, Query.selects_term_iff]
    constructor
    · rintro ⟨w, hw, v, hv, h⟩
      exact ⟨v, hv, w, hw, h⟩
    · rintro ⟨v, hv, w, hw, h⟩
      exact ⟨w, hw, v, hv, h⟩
  have hany : doc.HasAny field items ↔ ∃ j ∈ items, doc.Has field j := by
    constructor
    · rintro ⟨leaf, hleaf, j, hj, h⟩
      exact ⟨j, hj, leaf, hleaf, h⟩
    · rintro ⟨j, hj, leaf, hleaf, h⟩
      exact ⟨leaf, hleaf, j, hj, h⟩
  show _ ↔ doc.HasAny field items
  rw [hterms, hany]
  exact (exists_mem_iff_of_forall₂ (h.imp fun _ _ hv => (means_term hv doc).symm)).symm

theorem means_text {j : Json} {v : Scalar} (hv : Scalar.ofJson? j = some v) :
    (Query.text field v).Means (·.HasWord field j) := by
  intro doc
  show _ ↔ doc.HasWord field j
  rw [Query.selects_text_iff, Document.HasWord, Json.written, hv]
  rfl

/-- Comparisons without repeated operators are met as a whole. -/
theorem means_range {members : Entries Json} (hkeys : (members.map (·.1)).Nodup) {q : Query}
    (h : range field members = .ok q) : q.Means (·.HasWithin field members) := by
  obtain ⟨b, hb, rfl⟩ := bind_pure_eq_ok_iff.mp h
  have hscalar := exists_bounds_iff.mp ⟨b, hb⟩
  -- One leaf is within the bounds when it meets each comparison of the map.
  have hleaf {leaf : Json} {v : Scalar} (hv : Scalar.ofJson? leaf = some v) :
      b.admits v = true ↔ ∀ op bound, (Operator.name op, bound) ∈ members →
        leaf.Meets op bound := by
    rw [Bounds.admits_iff]
    constructor
    · intro hadmits op bound hmem
      obtain ⟨w, hw⟩ := Scalar.exists_ofJson?_iff.mpr (hscalar _ hmem).2
      have hget : b.get op = some w := by
        rw [get_of_bounds hkeys hb, (Entries.lookup_eq_some_iff hkeys).mpr hmem]
        exact hw
      obtain ⟨o, ho, haccepts⟩ := hadmits op w hget
      exact ⟨o, (Scalar.compare?_eq_some_iff hv hw).mp ho, haccepts⟩
    · intro hmeets op w hget
      rw [get_of_bounds hkeys hb] at hget
      obtain ⟨bound, hlookup, hw⟩ := Option.bind_eq_some_iff.mp hget
      have hmem := (Entries.lookup_eq_some_iff hkeys).mp hlookup
      obtain ⟨o, ho, haccepts⟩ := hmeets op bound hmem
      exact ⟨o, (Scalar.compare?_eq_some_iff hv hw).mpr ho, haccepts⟩
  intro doc
  show _ ↔ doc.HasWithin field members
  rw [Query.selects_range_iff]
  simp only [Document.mem_scalars]
  constructor
  · rintro ⟨v, ⟨leaf, hmem, hv⟩, hadmits⟩
    exact ⟨leaf, hmem, Scalar.exists_ofJson?_iff.mp ⟨v, hv⟩, (hleaf hv).mp hadmits⟩
  · rintro ⟨leaf, hmem, hscalar, hmeets⟩
    obtain ⟨v, hv⟩ := Scalar.exists_ofJson?_iff.mpr hscalar
    exact ⟨v, ⟨leaf, hmem, hv⟩, (hleaf hv).mpr hmeets⟩

theorem means_exclusion {j : Json} {q : Query} (h : exclusion field j = .ok q) :
    q.Means (·.HasAny field j.elements) := by
  unfold exclusion at h
  split at h
  · obtain ⟨vs, hvs, rfl⟩ := bind_pure_eq_ok_iff.mp h
    exact means_terms (scalars_eq_ok_iff.mp hvs)
  · rename_i hj
    obtain ⟨v, hv, rfl⟩ := bind_pure_eq_ok_iff.mp h
    have helements : j.elements = [j] := by
      cases j with
      | array items => exact absurd rfl (hj items)
      | _ => rfl
    rw [helements]
    exact means_terms (.cons (scalar_eq_ok_iff.mp hv) .nil)

theorem means_flag {key : String} {j : Json} {q : Query} (h : flag field key j = .ok q) :
    q.Means (·.Has (field ++ "." ++ key) j) := by
  cases j with
  | bool b =>
      cases h
      exact means_term rfl
  | _ => cases h

end

/-! ### Parts and compositions -/

theorem means_condition {form : Form} {field : String} {j : Json} (hj : j.DistinctKeys)
    {q : Query} (h : form.condition field j = .ok q) :
    q.Means (Demands.FieldHolds form.name field j) := by
  cases form with
  | term =>
      obtain ⟨v, hv, rfl⟩ := bind_pure_eq_ok_iff.mp h
      exact means_term (scalar_eq_ok_iff.mp hv)
  | text =>
      obtain ⟨v, hv, rfl⟩ := bind_pure_eq_ok_iff.mp h
      exact means_text (scalar_eq_ok_iff.mp hv)
  | terms =>
      cases j with
      | array items =>
          obtain ⟨vs, hvs, rfl⟩ := bind_pure_eq_ok_iff.mp h
          exact means_terms (scalars_eq_ok_iff.mp hvs)
      | _ => cases h
  | range =>
      cases j with
      | object members => exact means_range hj.1 h
      | _ => cases h

/-- The conditions of a form say what the form says of all its fields. -/
theorem forall_conditions_iff {key : String} {body : Json} (hbody : body.DistinctKeys)
    {qs : List Query} (h : conditions key body = .ok qs) (doc : Document) :
    (∀ q ∈ qs, q.selects doc = true) ↔ Demands.FormHolds key body doc := by
  obtain ⟨form, fields, rfl, rfl, hqs⟩ := conditions_eq_ok_iff.mp h
  have hfields := (Json.distinctKeysMembers_iff fields).mp hbody.2
  exact (forall_mem_iff_of_forall₂ (forall₂_imp_of_mem hqs fun m hm q hq =>
    (means_condition (hfields m hm) hq doc).symm)).symm

/-- The query of a part selects what all its clauses select. -/
theorem selects_join_iff {qs : List Query} {q : Query} (h : join qs = .ok q) (doc : Document) :
    q.selects doc = true ↔ ∀ q' ∈ qs, q'.selects doc = true := by
  unfold join at h
  split at h
  · cases h
  · cases h
    simp
  · cases h
    simp [Query.selects_bool_iff]

/-- A value of a filter is read as what it says, be it a composition, a
part, or the content of a slot. -/
theorem reads_bool (j : Json) (hj : j.DistinctKeys) :
    (∀ c, composition j = .ok c → c.Express (Demands.ofBool j)) ∧
      (∀ q, part j = .ok q → q.Means (Demands.PartHolds j)) ∧
      ∀ key qs, slotParts key j = .ok qs → List.Forall₂ Query.Means qs (Demands.parts j) := by
  -- On the value: the parts of a slot, the forms of a part and the slots of a
  -- composition are all values inside it.
  induction j using Json.induction with
  | array items ih =>
      have hitems := (Json.distinctKeysItems_iff items).mp hj
      refine ⟨nofun, nofun, fun key qs h => ?_⟩
      rw [Demands.parts, Demands.partList_eq_map, List.forall₂_map_right_iff]
      rcases slotParts_eq_ok_iff.mp h with ⟨_, hparts, hqs⟩ | ⟨q, hq, -⟩
      · cases hparts
        exact (forall₂_imp_of_mem hqs fun p hp q hq => (ih p hp (hitems p hp)).2.1 q hq).flip
      · cases hq
  | object members ih =>
      have hmembers := (Json.distinctKeysMembers_iff members).mp hj.2
      have hcomposition : ∀ c, composition (.object members) = .ok c →
          c.Express (Demands.ofBool (.object members)) := by
        intro c h
        obtain ⟨_, cs, hslots, hcs, rfl⟩ := composition_eq_ok_iff.mp h
        cases hslots
        rw [Demands.ofBool, Demands.ofSlots_eq_concat]
        refine .concat ?_
        rw [List.forall₂_map_right_iff]
        refine (forall₂_imp_of_mem hcs fun m hm c hc => ?_).flip
        obtain ⟨slot, qs, hkey, hqs, rfl⟩ := slotEntry_eq_ok_iff.mp hc
        show (Clauses.only slot qs).Express (Demands.ofSlot m.1 (Demands.parts m.2))
        rw [hkey]
        exact .only ((ih m hm (hmembers m hm)).2.2 _ _ hqs)
      have hpart : ∀ q, part (.object members) = .ok q →
          q.Means (Demands.PartHolds (.object members)) := by
        intro q h doc
        obtain ⟨_, qss, hforms, hqss, hq⟩ := part_eq_ok_iff.mp h
        cases hforms
        show _ ↔ Demands.AllHold members doc
        rw [Demands.allHold_iff, selects_join_iff hq, List.forall_mem_flatten]
        refine (forall_mem_iff_of_forall₂ (forall₂_imp_of_mem hqss fun m hm qs hqs => ?_)).symm
        show (if m.1 = "bool" then (Demands.ofBool m.2).Met doc
          else Demands.FormHolds m.1 m.2 doc) ↔ ∀ q ∈ qs, q.selects doc = true
        unfold formClauses at hqs
        split at hqs
        · rename_i hkey
          obtain ⟨c, hc, rfl⟩ := map_eq_ok_iff.mp hqs
          rw [if_pos hkey, List.forall_mem_singleton]
          exact (((ih m hm (hmembers m hm)).1 c hc).selects_iff_met doc).symm
        · rename_i hkey
          rw [if_neg hkey]
          exact (forall_conditions_iff (hmembers m hm) hqs doc).symm
      refine ⟨hcomposition, hpart, fun key qs h => ?_⟩
      rcases slotParts_eq_ok_iff.mp h with ⟨_, hparts, -⟩ | ⟨q, hq, rfl⟩
      · cases hparts
      · exact .cons (hpart q hq) .nil
  | _ => exact ⟨nofun, nofun, nofun⟩

/-! ### Entries -/

/-- Conditions that an entry requires. -/
theorem express_required {qs : List Query} {Ps : List (Document → Prop)}
    (h : List.Forall₂ Query.Means qs Ps) :
    (Clauses.only .must qs).Express { required := Ps } := Clauses.Express.only h

/-- Conditions that an entry forbids. -/
theorem express_forbidden {qs : List Query} {Ps : List (Document → Prop)}
    (h : List.Forall₂ Query.Means qs Ps) :
    (Clauses.only .mustNot qs).Express { forbidden := Ps } := Clauses.Express.only h

/-- A field with a map. -/
theorem express_nested {name : String} {members : Entries Json}
    (hkeys : (members.map (·.1)).Nodup) {c : Clauses Query} (h : nested name members = .ok c) :
    c.Express (Demands.ofMembers name members) := by
  rw [Demands.ofMembers]
  rcases nested_eq_ok_iff.mp h with
    ⟨q, hnames, hq, rfl⟩ | ⟨excluded, q, rfl, hq, rfl⟩ | ⟨qs, hsome, hmembers, hqs, rfl⟩
  · rw [if_pos hnames]
    exact express_required (.cons (means_range hkeys hq) .nil)
  · -- A lone exclusion has no operator, so it is not read as comparisons.
    have hkey : ¬Operator.isName "must_not" = true := by decide
    have hnames : ¬∀ m ∈ [("must_not", excluded)], Operator.isName m.1 = true :=
      fun hall => hkey (hall _ (.head _))
    rw [if_neg hnames]
    exact express_forbidden (.cons (means_exclusion hq) .nil)
  · have hnames : ¬∀ m ∈ members, Operator.isName m.1 = true := by
      obtain ⟨m, hm⟩ := List.exists_mem_of_ne_nil members hsome
      exact fun hall => (hmembers m hm).1 (hall m hm)
    have hlookup : members.lookup "must_not" = none :=
      Entries.lookup_eq_none_iff.mpr fun m hm => (hmembers m hm).2
    rw [if_neg hnames, hlookup]
    refine express_required ?_
    rw [List.forall₂_map_right_iff]
    exact ((mapM_eq_ok_iff.mp hqs).imp fun m q hq => means_flag hq).flip

/-- A field. -/
theorem express_field {name : String} {j : Json} (hj : j.DistinctKeys) {c : Clauses Query}
    (h : field name j = .ok c) : c.Express (Demands.ofField name j) := by
  cases j with
  | array items =>
      obtain ⟨vs, hvs, rfl⟩ := bind_pure_eq_ok_iff.mp h
      exact express_required (.cons (means_terms (scalars_eq_ok_iff.mp hvs)) .nil)
  | object members => exact express_nested hj.1 h
  | _ =>
      obtain ⟨v, hv, rfl⟩ := bind_pure_eq_ok_iff.mp h
      exact express_required (.cons (means_term (scalar_eq_ok_iff.mp hv)) .nil)

/-- The exclusions of a filter. -/
theorem express_exclusions {s : Settings} {j : Json} {c : Clauses Query}
    (h : exclusions s j = .ok c) : c.Express (Demands.ofExclusions s j) := by
  cases j with
  | object fields =>
      obtain ⟨qs, hqs, rfl⟩ := bind_pure_eq_ok_iff.mp h
      refine express_forbidden ?_
      rw [List.forall₂_map_right_iff]
      exact ((mapM_eq_ok_iff.mp hqs).imp fun m q hq => means_exclusion hq).flip
  | _ =>
      obtain ⟨q, hq, rfl⟩ := bind_pure_eq_ok_iff.mp h
      exact express_forbidden (.cons (means_exclusion hq) .nil)

/-- One entry of a filter. -/
theorem express_entry {s : Settings} {key : String} {j : Json} (hj : j.DistinctKeys)
    {c : Clauses Query} (h : entry s key j = .ok c) : c.Express (Demands.ofEntry s key j) := by
  unfold entry at h
  unfold Demands.ofEntry
  by_cases hmustNot : key = "must_not"
  · rw [if_pos hmustNot] at h ⊢
    exact express_exclusions h
  · rw [if_neg hmustNot] at h ⊢
    by_cases hbool : key = "bool"
    · rw [if_pos hbool] at h ⊢
      exact (reads_bool j hj).1 c h
    · rw [if_neg hbool] at h ⊢
      exact express_field hj h

/-- The clauses of a filter say what the filter demands. -/
theorem express_clauses {s : Settings} {f : Filter} (hf : (Json.object f).DistinctKeys)
    {c : Clauses Query} (h : clauses s f = .ok c) : c.Express (Demands.ofFilter s f) := by
  have hentries := (Json.distinctKeysMembers_iff f).mp hf.2
  obtain ⟨cs, hcs, rfl⟩ := clauses_eq_ok_iff.mp h
  refine .concat ?_
  rw [List.forall₂_map_right_iff]
  exact (forall₂_imp_of_mem hcs fun m hm c hc => express_entry (hentries m hm) hc).flip

/-- **Compiling keeps the meaning of a filter.** The query of a filter
that compiles selects exactly the documents that satisfy the filter. -/
theorem compile_selects_iff_satisfies (s : Settings) (f : Filter)
    (hf : (Json.object f).DistinctKeys) (q : Query) (h : compile s f = .ok q) (doc : Document) :
    q.selects doc = true ↔ f.Satisfies s doc := by
  obtain ⟨c, hc, rfl⟩ := compile_eq_ok_iff.mp h
  exact (express_clauses hf hc).selects_iff_met doc

/-- A filter with an exclusion, and with alternatives of which one has two
clauses and the other one excludes a range. -/
def mixedFilter : Filter :=
  [("status", .object [("must_not", .array [.string "draft"])]),
    ("bool", .object [("should", .array
      [.object [("term", .object [("a", .integer 1)]),
          ("match", .object [("t", .string "red car")])],
        .object [("bool", .object [("must_not", .array
          [.object [("range", .object [("n", .object [("gte", .integer 2)])])]])])]])])]

/-- The query that `mixedFilter` compiles to. -/
def mixedQuery : Query :=
  .bool {
    should :=
      [.bool { must := [.term "a" (.integer 1), .text "t" (.text "red car")] },
        .bool { mustNot := [.range "n" { gte := some (.integer 2) }] }]
    mustNot := [.terms "status" [.text "draft"]] }

theorem compile_selects_iff_satisfies_mixed :
    (Json.object mixedFilter).DistinctKeys ∧ compile {} mixedFilter = .ok mixedQuery ∧
      (mixedQuery.selects [("n", .integer 1)] = true ↔
        mixedFilter.Satisfies {} [("n", .integer 1)]) := by
  have hkeys : (Json.object mixedFilter).DistinctKeys := by
    simp [mixedFilter, Json.DistinctKeys, Json.DistinctKeysMembers, Json.DistinctKeysItems]
  exact ⟨hkeys, rfl, compile_selects_iff_satisfies {} mixedFilter hkeys mixedQuery rfl _⟩

end Filter

end FacetedSearch
