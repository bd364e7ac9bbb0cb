import FacetedSearch.Proofs.Filter.Grammar
import FacetedSearch.Proofs.Filter.Meaning
import FacetedSearch.Proofs.Json.KeyOrder
import FacetedSearch.Proofs.Query.Agreement
import FacetedSearch.Proofs.Session.Search

/-!
# `FacetedSearch.Proofs.Filter.KeyOrder`: the order of keys in a filter

Filters are read in the order of their keys, at every level: entries,
exclusions, comparisons, flags, slots, forms and fields. None of this can
be told from what they find. `search_eq_of_reordered` says so of two
filters that differ in nothing but the order of keys.

What one filter is read as agrees with what the other one is read as
(`Query.Agrees`, `Clauses.Agrees`). There is one lemma for each function
of the compiler, of the form: what is read here is read there, and the
two agree. Where only scalars are below, the two are even equal, up to
their order in a slot. `keeps_bool` is the induction over compositions.

Which of several errors refuses a filter does depend on the order of its
keys, and nothing is said about it.
-/

set_option autoImplicit false

namespace FacetedSearch

namespace Json

variable {j j' : Json}

/-- A scalar or an array of scalars has no keys. -/
theorem Reordered.eq_of_isScalarOrScalars (h : j.Reordered j') (hj : j.IsScalarOrScalars) :
    j' = j := by
  rcases hj with hj | ⟨items, rfl, hitems⟩
  · exact h.eq_of_isScalar hj
  · obtain ⟨items', rfl, each⟩ := reordered_array_iff.mp h
    have heq : List.Forall₂ Eq items items' :=
      forall₂_imp_of_mem each fun i hi _ hii' => (hii'.eq_of_isScalar (hitems i hi)).symm
    rw [List.forall₂_eq_eq_eq] at heq
    rw [heq]

/-- The members of an object whose values have no keys only change places. -/
theorem perm_of_rearranged {members members' : List (String × Json)}
    (h : Rearranged ReorderedMember members members')
    (hmembers : ∀ m ∈ members, m.2.IsScalarOrScalars) : members.Perm members' :=
  h.perm_of_eq fun m hm m' hmm' => by
    have hmm' := reorderedMember_iff.mp hmm'
    exact Prod.ext hmm'.1.symm (hmm'.2.eq_of_isScalarOrScalars (hmembers m hm))

end Json

namespace Filter

open Json (Reordered ReorderedMember)

variable {s : Settings} {j j' : Json}

/-! ### Conditions on one field -/

/-- The bounds that a map of comparisons sets do not depend on the order of
its keys. -/
theorem range_of_rearranged {field : String} {members members' : Entries Json} {q : Query}
    (h : Rearranged ReorderedMember members members') (hkeys : (members.map (·.1)).Nodup)
    (hq : range field members = .ok q) : range field members' = .ok q := by
  obtain ⟨b, hb, rfl⟩ := bind_pure_eq_ok_iff.mp hq
  have heach := exists_bounds_iff.mp ⟨b, hb⟩
  have hperm : members.Perm members' :=
    Json.perm_of_rearranged h fun m hm => .inl (heach m hm).2
  have hkeys' : (members'.map (·.1)).Nodup := (hperm.map (·.1)).nodup_iff.mp hkeys
  obtain ⟨b', hb'⟩ : ∃ b', bounds field members' = .ok b' :=
    exists_bounds_iff.mpr fun m hm => heach m (hperm.mem_iff.mpr hm)
  -- Both records have for each operator the bound that the map has for it.
  have hsame : b' = b := by
    refine Bounds.ext_get fun op => ?_
    have hlookup : members'.lookup op.name = members.lookup op.name := by
      ext value
      rw [Entries.lookup_eq_some_iff hkeys, Entries.lookup_eq_some_iff hkeys', hperm.mem_iff]
    rw [get_of_bounds hkeys hb, get_of_bounds hkeys' hb', hlookup]
  exact bind_pure_eq_ok_iff.mpr ⟨b', hb', by rw [hsame]⟩

theorem exclusion_of_reordered {field : String} {q : Query} (h : j.Reordered j')
    (hq : exclusion field j = .ok q) : exclusion field j' = .ok q := by
  rw [h.eq_of_isScalarOrScalars (exists_exclusion_iff.mp ⟨q, hq⟩)]
  exact hq

theorem condition_of_reordered {form : Form} {field : String} {q : Query} (h : j.Reordered j')
    (hj : j.DistinctKeys) (hq : form.condition field j = .ok q) :
    form.condition field j' = .ok q := by
  have htakes : form.Takes j := exists_condition_iff.mp ⟨q, hq⟩
  cases form with
  | term | text =>
      rw [h.eq_of_isScalar htakes]
      exact hq
  | terms =>
      rw [h.eq_of_isScalarOrScalars (.inr htakes)]
      exact hq
  | range =>
      obtain ⟨members, rfl, -⟩ := htakes
      obtain ⟨members', rfl, each⟩ := Json.reordered_object_iff.mp h
      exact range_of_rearranged each hj.1 hq

theorem flag_of_reordered {field key : String} {q : Query} (h : j.Reordered j')
    (hq : flag field key j = .ok q) : flag field key j' = .ok q := by
  obtain ⟨b, rfl⟩ := exists_flag_iff.mp ⟨q, hq⟩
  rw [h.eq_of_isScalar (.inl rfl)]
  exact hq

/-! ### Runs over members -/

/-- A run over the members of an object has a rearranged run over the same
members in another order, if each member has one. -/
theorem exists_run_of_rearranged {γ : Type} {f : String → Json → Except Error γ}
    {S : γ → γ → Prop} {members members' : Entries Json} {cs : List γ}
    (h : Rearranged ReorderedMember members members')
    (hcs : List.Forall₂ (fun m c => f m.1 m.2 = .ok c) members cs)
    (hf : ∀ m ∈ members, ∀ j' c, m.2.Reordered j' → f m.1 m.2 = .ok c →
      ∃ c', f m.1 j' = .ok c' ∧ S c c') :
    ∃ cs', List.Forall₂ (fun m c => f m.1 m.2 = .ok c) members' cs' ∧ Rearranged S cs cs' := by
  refine h.exists_forall₂ hcs fun m hm m' c hmm' hc => ?_
  obtain ⟨hkey, hvalue⟩ := Json.reorderedMember_iff.mp hmm'
  rw [← hkey]
  exact hf m hm m'.2 c hvalue hc

/-- Members that are each read as the same query are read as the same
queries in another order. -/
theorem mapM_of_rearranged {f : String → Json → Except Error Query}
    {members members' : Entries Json} {qs : List Query}
    (h : Rearranged ReorderedMember members members')
    (hf : ∀ m ∈ members, ∀ j' q, m.2.Reordered j' → f m.1 m.2 = .ok q → f m.1 j' = .ok q)
    (hqs : (members.mapM fun m => f m.1 m.2) = .ok qs) :
    ∃ qs', (members'.mapM fun m => f m.1 m.2) = .ok qs' ∧ Rearranged Query.Agrees qs qs' := by
  simp only [mapM_eq_ok_iff] at hqs ⊢
  exact exists_run_of_rearranged h hqs fun m hm j' q hj' hq => ⟨q, hf m hm j' q hj' hq, .refl q⟩

/-- The conditions of a form are those of its fields, in the order of these. -/
theorem conditions_of_reordered {key : String} {qs : List Query} (h : j.Reordered j')
    (hj : j.DistinctKeys) (hqs : conditions key j = .ok qs) :
    ∃ qs', conditions key j' = .ok qs' ∧ Rearranged Query.Agrees qs qs' := by
  unfold conditions at hqs ⊢
  split at hqs
  · cases hqs
  · cases j with
    | object fields =>
        obtain ⟨fields', rfl, each⟩ := Json.reordered_object_iff.mp h
        have hfields := (Json.distinctKeysMembers_iff fields).mp hj.2
        exact mapM_of_rearranged each
          (fun m hm j' q hmj' => condition_of_reordered hmj' (hfields m hm)) hqs
    | _ => cases hqs

/-! ### Parts and compositions -/

/-- Clauses in another order are joined to a query that agrees. -/
theorem join_of_rearranged {qs qs' : List Query} {q : Query} (h : Rearranged Query.Agrees qs qs')
    (hq : join qs = .ok q) : ∃ q', join qs' = .ok q' ∧ q.Agrees q' := by
  obtain ⟨q', hq'⟩ : ∃ q', join qs' = .ok q' :=
    exists_join_iff.mpr (mt h.eq_nil_iff.mpr (exists_join_iff.mp ⟨q, hq⟩))
  refine ⟨q', hq', fun doc => ?_⟩
  rw [Bool.eq_iff_iff, selects_join_iff hq, selects_join_iff hq']
  exact h.forall_mem_iff fun q _ r hqr => by rw [hqr doc]

/-- The clauses of a form of a part, if compositions inside it are read alike. -/
theorem formClauses_of_reordered {key : String} {qs : List Query} (h : j.Reordered j')
    (hj : j.DistinctKeys)
    (hcomposition : ∀ c, composition j = .ok c → ∃ c', composition j' = .ok c' ∧ c.Agrees c')
    (hqs : formClauses key j = .ok qs) :
    ∃ qs', formClauses key j' = .ok qs' ∧ Rearranged Query.Agrees qs qs' := by
  unfold formClauses at hqs ⊢
  by_cases hkey : key = "bool"
  · rw [if_pos hkey] at hqs ⊢
    obtain ⟨c, hc, rfl⟩ := map_eq_ok_iff.mp hqs
    obtain ⟨c', hc', hagrees⟩ := hcomposition c hc
    exact ⟨_, map_eq_ok_iff.mpr ⟨c', hc', rfl⟩, .of_forall₂ (.cons hagrees.bool .nil)⟩
  · rw [if_neg hkey] at hqs ⊢
    exact conditions_of_reordered h hj hqs

/-- The clauses of a slot of a composition, if its parts are read alike. -/
theorem slotEntry_of_reordered {key : String} {c : Clauses Query}
    (hparts : ∀ qs, slotParts key j = .ok qs →
      ∃ qs', slotParts key j' = .ok qs' ∧ Rearranged Query.Agrees qs qs')
    (hc : slotEntry key j = .ok c) : ∃ c', slotEntry key j' = .ok c' ∧ c.Agrees c' := by
  obtain ⟨slot, qs, hkey, hqs, rfl⟩ := slotEntry_eq_ok_iff.mp hc
  obtain ⟨qs', hqs', hagrees⟩ := hparts qs hqs
  exact ⟨_, slotEntry_eq_ok_iff.mpr ⟨slot, qs', hkey, hqs', rfl⟩, .only slot hagrees⟩

/-- A value that is read as a composition, as a part, or as the content of
a slot is read alike with its keys in another order. -/
theorem keeps_bool (hj : j.DistinctKeys) (h : j.Reordered j') :
    (∀ c, composition j = .ok c → ∃ c', composition j' = .ok c' ∧ c.Agrees c') ∧
      (∀ q, part j = .ok q → ∃ q', part j' = .ok q' ∧ q.Agrees q') ∧
      ∀ key qs, slotParts key j = .ok qs →
        ∃ qs', slotParts key j' = .ok qs' ∧ Rearranged Query.Agrees qs qs' := by
  -- On the value, as for what it says: a slot holds parts, a part forms, and
  -- a form may be a composition again.
  induction j using Json.induction generalizing j' with
  | array items ih =>
      have hitems := (Json.distinctKeysItems_iff items).mp hj
      obtain ⟨items', rfl, each⟩ := Json.reordered_array_iff.mp h
      refine ⟨nofun, nofun, fun key qs hqs => ?_⟩
      rcases slotParts_eq_ok_iff.mp hqs with ⟨_, hparts, hqs⟩ | ⟨q, hq, -⟩
      · cases hparts
        obtain ⟨qs', hqs', hagrees⟩ := (Rearranged.of_forall₂ each).exists_forall₂ hqs
          fun p hp p' q hpp' hq => (ih p hp (hitems p hp) hpp').2.1 q hq
        exact ⟨qs', slotParts_eq_ok_iff.mpr (.inl ⟨items', rfl, hqs'⟩), hagrees⟩
      · cases hq
  | object members ih =>
      have hmembers := (Json.distinctKeysMembers_iff members).mp hj.2
      obtain ⟨members', rfl, each⟩ := Json.reordered_object_iff.mp h
      have hcomposition : ∀ c, composition (.object members) = .ok c →
          ∃ c', composition (.object members') = .ok c' ∧ c.Agrees c' := by
        intro c hc
        obtain ⟨_, cs, hslots, hcs, rfl⟩ := composition_eq_ok_iff.mp hc
        cases hslots
        obtain ⟨cs', hcs', hagrees⟩ := exists_run_of_rearranged each hcs fun m hm _ _ hmj' =>
          slotEntry_of_reordered ((ih m hm (hmembers m hm) hmj').2.2 m.1)
        exact ⟨_, composition_eq_ok_iff.mpr ⟨members', cs', rfl, hcs', rfl⟩, .concat hagrees⟩
      have hpart : ∀ q, part (.object members) = .ok q →
          ∃ q', part (.object members') = .ok q' ∧ q.Agrees q' := by
        intro q hq
        obtain ⟨_, qss, hforms, hqss, hq⟩ := part_eq_ok_iff.mp hq
        cases hforms
        obtain ⟨qss', hqss', hagrees⟩ := exists_run_of_rearranged each hqss fun m hm _ _ hmj' =>
          formClauses_of_reordered hmj' (hmembers m hm) (ih m hm (hmembers m hm) hmj').1
        obtain ⟨q', hq', hsame⟩ := join_of_rearranged hagrees.flatten hq
        exact ⟨q', part_eq_ok_iff.mpr ⟨members', qss', rfl, hqss', hq'⟩, hsame⟩
      refine ⟨hcomposition, hpart, fun key qs hqs => ?_⟩
      rcases slotParts_eq_ok_iff.mp hqs with ⟨_, hparts, -⟩ | ⟨q, hq, rfl⟩
      · cases hparts
      · obtain ⟨q', hq', hagrees⟩ := hpart q hq
        exact ⟨[q'], slotParts_eq_ok_iff.mpr (.inr ⟨q', hq', rfl⟩),
          .of_forall₂ (.cons hagrees .nil)⟩
  | _ => exact ⟨nofun, nofun, nofun⟩

/-! ### Entries -/

/-- A map for a field is read alike with its keys in another order. -/
theorem nested_of_rearranged {name : String} {members members' : Entries Json}
    {c : Clauses Query} (h : Rearranged ReorderedMember members members')
    (hkeys : (members.map (·.1)).Nodup) (hc : nested name members = .ok c) :
    ∃ c', nested name members' = .ok c' ∧ c.Agrees c' := by
  rcases nested_eq_ok_iff.mp hc with
    ⟨q, hnames, hq, rfl⟩ | ⟨excluded, q, rfl, hq, rfl⟩ | ⟨qs, hsome, hnames, hqs, rfl⟩
  · have hnames' : ∀ m ∈ members', Operator.isName m.1 = true :=
      (h.forall_mem_iff fun m _ m' hmm' => by
        rw [(Json.reorderedMember_iff.mp hmm').1]).mp hnames
    have hq' : range name members' = .ok q := range_of_rearranged h hkeys hq
    exact ⟨_, nested_eq_ok_iff.mpr (.inl ⟨q, hnames', hq', rfl⟩), .refl _⟩
  · obtain ⟨⟨key, excluded'⟩, rfl, hmm'⟩ := Rearranged.singleton_iff.mp h
    cases hmm' with
    | mk _ hvalue =>
        have hq' : exclusion name excluded' = .ok q := exclusion_of_reordered hvalue hq
        exact ⟨_, nested_eq_ok_iff.mpr (.inr (.inl ⟨excluded', q, rfl, hq', rfl⟩)), .refl _⟩
  · have hnames' : ∀ m ∈ members', ¬Operator.isName m.1 = true ∧ m.1 ≠ "must_not" :=
      (h.forall_mem_iff fun m _ m' hmm' => by
        rw [(Json.reorderedMember_iff.mp hmm').1]).mp hnames
    have hsome' : members' ≠ [] := mt h.eq_nil_iff.mpr hsome
    obtain ⟨qs', hqs', hagrees⟩ := mapM_of_rearranged h
      (fun _ _ _ _ hmj' => flag_of_reordered hmj') hqs
    exact ⟨_, nested_eq_ok_iff.mpr (.inr (.inr ⟨qs', hsome', hnames', hqs', rfl⟩)),
      .only .must hagrees⟩

theorem field_of_reordered {name : String} {c : Clauses Query} (h : j.Reordered j')
    (hj : j.DistinctKeys) (hc : field name j = .ok c) :
    ∃ c', field name j' = .ok c' ∧ c.Agrees c' := by
  cases j with
  | object members =>
      obtain ⟨members', rfl, each⟩ := Json.reordered_object_iff.mp h
      exact nested_of_rearranged each hj.1 hc
  | array items =>
      obtain ⟨vs, hvs, -⟩ := bind_pure_eq_ok_iff.mp hc
      have hitems := exists_scalars_iff.mp ⟨vs, hvs⟩
      rw [h.eq_of_isScalarOrScalars (.inr ⟨items, rfl, hitems⟩)]
      exact ⟨c, hc, .refl c⟩
  | _ =>
      cases h
      exact ⟨c, hc, .refl c⟩

theorem exclusions_of_reordered {c : Clauses Query} (h : j.Reordered j')
    (hc : exclusions s j = .ok c) : ∃ c', exclusions s j' = .ok c' ∧ c.Agrees c' := by
  cases j with
  | object fields =>
      obtain ⟨fields', rfl, each⟩ := Json.reordered_object_iff.mp h
      obtain ⟨qs, hqs, rfl⟩ := bind_pure_eq_ok_iff.mp hc
      obtain ⟨qs', hqs', hagrees⟩ := mapM_of_rearranged each
        (fun _ _ _ _ hmj' => exclusion_of_reordered hmj') hqs
      exact ⟨_, bind_pure_eq_ok_iff.mpr ⟨qs', hqs', rfl⟩, .only .mustNot hagrees⟩
  | array items =>
      obtain ⟨q, hq, -⟩ := bind_pure_eq_ok_iff.mp hc
      rw [h.eq_of_isScalarOrScalars (exists_exclusion_iff.mp ⟨q, hq⟩)]
      exact ⟨c, hc, .refl c⟩
  | _ =>
      cases h
      exact ⟨c, hc, .refl c⟩

theorem entry_of_reordered {key : String} {c : Clauses Query} (h : j.Reordered j')
    (hj : j.DistinctKeys) (hc : entry s key j = .ok c) :
    ∃ c', entry s key j' = .ok c' ∧ c.Agrees c' := by
  unfold entry at hc ⊢
  by_cases hmustNot : key = "must_not"
  · rw [if_pos hmustNot] at hc ⊢
    exact exclusions_of_reordered h hc
  · rw [if_neg hmustNot] at hc ⊢
    by_cases hbool : key = "bool"
    · rw [if_pos hbool] at hc ⊢
      exact (keeps_bool hj h).1 c hc
    · rw [if_neg hbool] at hc ⊢
      exact field_of_reordered h hj hc

/-! ### Filters and criteria -/

/-- The clauses of a filter agree with those of the filter with its keys in
another order. -/
theorem clauses_of_reordered {f g : Filter} (hf : (Json.object f).DistinctKeys)
    (h : (Json.object f).Reordered (.object g)) {c : Clauses Query} (hc : clauses s f = .ok c) :
    ∃ c', clauses s g = .ok c' ∧ c.Agrees c' := by
  have hentries := (Json.distinctKeysMembers_iff f).mp hf.2
  obtain ⟨_, hg, each⟩ := Json.reordered_object_iff.mp h
  cases hg
  obtain ⟨cs, hcs, rfl⟩ := clauses_eq_ok_iff.mp hc
  obtain ⟨cs', hcs', hagrees⟩ := exists_run_of_rearranged each hcs fun m hm _ _ hmj' =>
    entry_of_reordered hmj' (hentries m hm)
  exact ⟨_, clauses_eq_ok_iff.mpr ⟨cs', hcs', rfl⟩, .concat hagrees⟩

theorem compile_of_reordered {f g : Filter} (hf : (Json.object f).DistinctKeys)
    (h : (Json.object f).Reordered (.object g)) {q : Query} (hq : compile s f = .ok q) :
    ∃ r, compile s g = .ok r ∧ q.Agrees r := by
  obtain ⟨c, hc, rfl⟩ := compile_eq_ok_iff.mp hq
  obtain ⟨c', hc', hagrees⟩ := clauses_of_reordered hf h hc
  exact ⟨_, compile_eq_ok_iff.mpr ⟨c', hc', rfl⟩, hagrees.bool⟩

/-- Criteria of which only the keys of the filter change places have
queries that agree. -/
theorem criteria_compile_of_reordered {f g : Filter} (hf : (Json.object f).DistinctKeys)
    (h : (Json.object f).Reordered (.object g)) (c : Criteria) (hok : ∃ q, compile s f = .ok q) :
    ∃ q r, Criteria.compile s { c with filter := f } = .ok q ∧
      Criteria.compile s { c with filter := g } = .ok r ∧ q.Agrees r := by
  obtain ⟨_, hq⟩ := hok
  obtain ⟨a, ha, -⟩ := compile_eq_ok_iff.mp hq
  obtain ⟨b, hb, hagrees⟩ := clauses_of_reordered hf h ha
  -- The clause for the free text, if there is any, is the same on both sides.
  have ha' : Criteria.clauses s { c with filter := f } = .ok (a ++ c.textClauses s) :=
    Criteria.clauses_eq_ok_iff.mpr ⟨a, ha, rfl⟩
  have hb' : Criteria.clauses s { c with filter := g } = .ok (b ++ c.textClauses s) :=
    Criteria.clauses_eq_ok_iff.mpr ⟨b, hb, rfl⟩
  exact ⟨_, _, Criteria.compile_eq_ok_iff.mpr ⟨_, ha', rfl⟩,
    Criteria.compile_eq_ok_iff.mpr ⟨_, hb', rfl⟩, (hagrees.append (.refl _)).bool⟩

/-- A session answers such criteria alike. -/
theorem session_search_of_reordered {f g : Filter} (hf : (Json.object f).DistinctKeys)
    (h : (Json.object f).Reordered (.object g)) (session : Session) (index : String)
    (c : Criteria) (hok : ∃ q, compile session.settings f = .ok q) :
    session.search index { c with filter := f } = session.search index { c with filter := g } := by
  obtain ⟨q, r, hq, hr, hagrees⟩ := criteria_compile_of_reordered hf h c hok
  have hsearch : Store.search (Request.assemble session.settings index q { c with filter := f }) =
      Store.search (Request.assemble session.settings index r { c with filter := g }) :=
    Store.search_congr (Request.assemble session.settings index q c) hagrees
  rw [Session.search_eq_map_fetch hq, Session.search_eq_map_fetch hr, Session.fetch, hsearch]
  -- What is made of the outcome depends on the facets alone.
  rfl

/-- **The order of keys in a filter does not matter.** Of two filters that
differ in it, at any depth, one compiles when the other one does, and their
queries select the same documents. So they find the same: every store
answers their requests alike, and every session their searches, whatever
page, order and facets are asked for. -/
theorem search_eq_of_reordered (s : Settings) {f g : Filter} (hf : (Json.object f).DistinctKeys)
    (h : (Json.object f).Reordered (.object g)) :
    ((∃ q, compile s f = .ok q) ↔ ∃ r, compile s g = .ok r) ∧
    ∀ q r, compile s f = .ok q → compile s g = .ok r →
      (∀ doc, q.selects doc = r.selects doc) ∧
      (∀ index c store, Store.search (Request.assemble s index q c) store =
        Store.search (Request.assemble s index r c) store) ∧
      ∀ (session : Session) (index : String) (c : Criteria), session.settings = s →
        session.search index { c with filter := f } =
          session.search index { c with filter := g } := by
  have hg : (Json.object g).DistinctKeys := h.distinctKeys_iff.mp hf
  refine ⟨⟨?_, ?_⟩, ?_⟩
  · rintro ⟨q, hq⟩
    obtain ⟨r, hr, -⟩ := compile_of_reordered hf h hq
    exact ⟨r, hr⟩
  · rintro ⟨r, hr⟩
    obtain ⟨q, hq, -⟩ := compile_of_reordered hg h.symm hr
    exact ⟨q, hq⟩
  · intro q r hq hr
    obtain ⟨r', hr', hagrees⟩ := compile_of_reordered hf h hq
    cases hr.symm.trans hr'
    refine ⟨hagrees, fun index c store => ?_, ?_⟩
    · exact congrFun (Store.search_congr (Request.assemble s index q c) hagrees) store
    · rintro session index c rfl
      exact session_search_of_reordered hf h session index c ⟨q, hq⟩

/-- Bounds, and a composition of which one part has two forms. -/
def offerFilter : Filter :=
  [("price", .object [("gte", .integer 10), ("lt", .integer 20)]),
    ("bool", .object
      [("should", .array
        [.object [("term", .object [("size", .integer 1)]),
          ("match", .object [("t", .string "car")])]]),
      ("must_not", .object [("term", .object [("sold", .bool true)])])])]

/-- `offerFilter` with the keys of each of these objects turned around. -/
def offerFilterTurned : Filter :=
  [("bool", .object
      [("must_not", .object [("term", .object [("sold", .bool true)])]),
      ("should", .array
        [.object [("match", .object [("t", .string "car")]),
          ("term", .object [("size", .integer 1)])]])]),
    ("price", .object [("lt", .integer 20), ("gte", .integer 10)])]

/-- The queries of both filters, given the conditions of the part in their order. -/
def offerQuery (conditions : List Query) : Query :=
  .bool {
    must := [.range "price" { gte := some (.integer 10), lt := some (.integer 20) }]
    should := [.bool { must := conditions }]
    mustNot := [.term "sold" (.boolean true)] }

theorem reordered_offerFilter :
    (Json.object offerFilter).Reordered (.object offerFilterTurned) := by
  have hswap (m m' : String × Json) :
      (Json.object [m, m']).Reordered (.object [m', m]) :=
    .object (.cons (.refl m) (.cons (.refl m') .nil)) (.swap m' m [])
  refine .object (.cons (.mk "price" (hswap _ _)) (.cons (.mk "bool" ?_) .nil)) (.swap _ _ [])
  exact .object (.cons (.mk "should" (.array (.cons (hswap _ _) .nil))) (.cons (.refl _) .nil))
    (.swap _ _ [])

theorem search_eq_of_reordered_offer :
    (Json.object offerFilter).DistinctKeys ∧
      (Json.object offerFilter).Reordered (.object offerFilterTurned) ∧
      compile {} offerFilter =
        .ok (offerQuery [.term "size" (.integer 1), .text "t" (.text "car")]) ∧
      compile {} offerFilterTurned =
        .ok (offerQuery [.text "t" (.text "car"), .term "size" (.integer 1)]) ∧
      ∀ (session : Session) (index : String) (c : Criteria), session.settings = {} →
        session.search index { c with filter := offerFilter } =
          session.search index { c with filter := offerFilterTurned } := by
  have hkeys : (Json.object offerFilter).DistinctKeys := by
    simp [offerFilter, Json.DistinctKeys, Json.DistinctKeysMembers, Json.DistinctKeysItems]
  obtain ⟨-, hboth⟩ := search_eq_of_reordered {} hkeys reordered_offerFilter
  exact ⟨hkeys, reordered_offerFilter, rfl, rfl, (hboth _ _ rfl rfl).2.2⟩

end Filter

end FacetedSearch
