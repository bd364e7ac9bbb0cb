import FacetedSearch.Elastic.Answer
import FacetedSearch.Proofs.Json.Walk
import FacetedSearch.Proofs.Support.Entries
import FacetedSearch.Results

/-!
# `FacetedSearch.Proofs.Elastic.Buckets`: facets from the buckets of an answer

The buckets of an answer may hold anything. `Elastic.UsableAs` says which of
them have a text to be shown with, and `Elastic.Counts` what number they are
shown with, from the members of the bucket alone. The rest of the buckets
are left out, and none of this moves another one (`Elastic.Listed`).

`Results.lookup_facets_iff` is the statement for a whole answer: a facet is
there when it was asked for and the answer has an array of buckets under its
name, and its values are what these are listed as.

A member `key_as_string` goes before `key` because it is there, not because
it can be used. One that is no scalar, such as `null`, hides a key that
could be shown (`Elastic.usable_key_hidden`).
-/

set_option autoImplicit false

namespace FacetedSearch

namespace Json

/-- A value is a scalar with this text. -/
def IsWritten (j : Json) (text : String) : Prop := ∃ v, Scalar.ofJson? j = some v ∧ v.render = text

theorem natural?_eq_some_iff {limit n : Nat} {j : Json} :
    j.natural? limit = some n ↔ j = .integer n ∧ n < limit := by
  cases j with
  | integer m =>
      simp only [natural?, Option.ite_none_right_eq_some, Option.some.injEq, integer.injEq]
      omega
  | _ => simp [natural?]

theorem array?_eq_some_iff {items : List Json} {j : Json} :
    j.array? = some items ↔ j = .array items := by
  cases j <;> simp [array?]

theorem object?_eq_some_iff {members : Entries Json} {j : Json} :
    j.object? = some members ↔ j = .object members := by
  cases j <;> simp [object?]

end Json

namespace Elastic

/-! ### Values with a fallback -/

/-- The value that has a property, or the fallback if there is none. -/
inductive Otherwise {α : Type} (P : α → Prop) (fallback : α) : α → Prop where
  | found {a : α} (has : P a) : Otherwise P fallback a
  | missing (none : ∀ a, ¬P a) : Otherwise P fallback fallback

/-- What may fail to be read is the value that can be read, or the fallback. -/
theorem otherwise_iff {α : Type} {P : α → Prop} {fallback a : α} {read : Option α}
    (hread : ∀ a, read = some a ↔ P a) : Otherwise P fallback a ↔ read.getD fallback = a := by
  cases hr : read with
  | some b =>
      rw [Option.getD_some]
      constructor
      · rintro (ha | hnone)
        · exact Option.some.inj (hr.symm.trans ((hread a).mpr ha))
        · exact absurd ((hread b).mp hr) (hnone b)
      · rintro rfl
        exact .found ((hread b).mp hr)
  | none =>
      have hnone (a : α) : ¬P a := by
        rw [← hread, hr]
        exact nofun
      rw [Option.getD_none]
      constructor
      · rintro (ha | -)
        · exact absurd ha (hnone a)
        · rfl
      · rintro rfl
        exact .missing hnone

/-! ### Single buckets -/

/-- The text that a bucket can be shown with: that of `key_as_string`, or of
`key` if there is no such member. -/
inductive UsableAs (bucket : Json) (text : String) : Prop where
  | keyAsString {key : Json} (member : bucket.get? "key_as_string" = some key)
      (written : key.IsWritten text) (visible : Text.isBlankText text = false)
  | key {key : Json} (absent : bucket.get? "key_as_string" = none)
      (member : bucket.get? "key" = some key)
      (written : key.IsWritten text) (visible : Text.isBlankText text = false)

/-- The number of documents that a bucket reports, or zero if that is no
number of 64 bits. -/
def Counts (bucket : Json) : Nat → Prop :=
  Otherwise (fun n => bucket.get? "doc_count" = some (.integer n) ∧ n < UInt64.size) 0

/-- What a bucket is shown as. -/
structure ShownAs (bucket : Json) (v : FacetValue) : Prop where
  usable : UsableAs bucket v.value
  counts : Counts bucket v.count

variable {bucket : Json} {text : String} {buckets before after : List Json} {v : FacetValue}
  {vs : List FacetValue}

theorem counts_iff {n : Nat} : Counts bucket n ↔ (Bucket.ofElastic bucket).count = n := by
  refine otherwise_iff fun n => ?_
  rw [Option.bind_eq_some_iff]
  simp only [Json.natural?_eq_some_iff]
  constructor
  · rintro ⟨_, hmember, rfl, hn⟩
    exact ⟨hmember, hn⟩
  · rintro ⟨hmember, hn⟩
    exact ⟨_, hmember, rfl, hn⟩

/-- The key that a bucket is read with is used when its text is not blank. -/
theorem usableAs_iff : UsableAs bucket text ↔
    (Bucket.ofElastic bucket).key.render = text ∧ Text.isBlankText text = false := by
  constructor
  · rintro (⟨hmember, ⟨v, hv, rfl⟩, hvisible⟩ | ⟨habsent, hmember, ⟨v, hv, rfl⟩, hvisible⟩)
    · simp [Bucket.ofElastic, hmember, hv, hvisible]
    · simp [Bucket.ofElastic, habsent, hmember, hv, hvisible]
  · rintro ⟨rfl, hvisible⟩
    cases hread : (bucket.get? "key_as_string" <|> bucket.get? "key").bind Scalar.ofJson? with
    | none =>
        -- Without a scalar for its key a bucket has the empty text, which is blank.
        have hkey : (Bucket.ofElastic bucket).key = .text "" := by
          rw [Bucket.ofElastic, hread]
          rfl
        rw [hkey] at hvisible
        cases hvisible
    | some v =>
        have hkey : (Bucket.ofElastic bucket).key = v := by
          rw [Bucket.ofElastic, hread]
          rfl
        rw [hkey] at hvisible ⊢
        obtain ⟨key, hmember, hv⟩ := Option.bind_eq_some_iff.mp hread
        cases htext : bucket.get? "key_as_string" with
        | some key' =>
            rw [htext] at hmember
            obtain rfl : key' = key := Option.some.inj hmember
            exact .keyAsString htext ⟨v, hv, rfl⟩ hvisible
        | none =>
            rw [htext] at hmember
            exact .key htext hmember ⟨v, hv, rfl⟩ hvisible

/-- The key is not tried when `key_as_string` is there. -/
theorem not_usableAs_of_keyAsString {key : Json} (hkey : bucket.get? "key_as_string" = some key)
    (hscalar : ¬key.IsScalar) : ¬∃ text, UsableAs bucket text := by
  rintro ⟨text, ⟨hmember, hwritten⟩ | ⟨habsent⟩⟩
  · obtain ⟨v, hv, -⟩ := hwritten
    rw [hkey, Option.some.injEq] at hmember
    exact hscalar (Scalar.exists_ofJson?_iff.mp ⟨v, hmember ▸ hv⟩)
  · rw [hkey] at habsent
    cases habsent

/-! ### Lists of buckets -/

/-- What buckets are listed as, in their order: each as it is shown, unless
it is left out. -/
inductive Listed : List Json → List FacetValue → Prop where
  | nil : Listed [] []
  | shown {bucket : Json} {buckets : List Json} {v : FacetValue} {vs : List FacetValue}
      (value : ShownAs bucket v) (rest : Listed buckets vs) : Listed (bucket :: buckets) (v :: vs)
  | leftOut {bucket : Json} {buckets : List Json} {vs : List FacetValue}
      (value : ¬∃ text, UsableAs bucket text) (rest : Listed buckets vs) :
      Listed (bucket :: buckets) vs

theorem facetValues_cons (b : Bucket) (bs : List Bucket) :
    Results.facetValues (b :: bs) =
      if Text.isBlankText b.key.render then Results.facetValues bs
      else ⟨b.key.render, b.count⟩ :: Results.facetValues bs := by
  cases hblank : Text.isBlankText b.key.render <;> simp [Results.facetValues, hblank]

/-- The values of a facet are what its buckets are listed as. -/
theorem listed_iff : Listed buckets vs ↔
    Results.facetValues (buckets.map Bucket.ofElastic) = vs := by
  induction buckets generalizing vs with
  | nil =>
      constructor
      · rintro ⟨⟩
        rfl
      · rintro rfl
        exact .nil
  | cons bucket buckets ih =>
      rw [List.map_cons, facetValues_cons]
      cases hblank : Text.isBlankText (Bucket.ofElastic bucket).key.render with
      | true =>
          have hnone : ¬∃ text, UsableAs bucket text := by
            rintro ⟨text, htext⟩
            obtain ⟨rfl, hvisible⟩ := usableAs_iff.mp htext
            exact Bool.false_ne_true (hvisible.symm.trans hblank)
          rw [if_pos rfl, ← ih]
          constructor
          · intro h
            cases h with
            | shown hvalue => exact absurd ⟨_, hvalue.usable⟩ hnone
            | leftOut _ hrest => exact hrest
          · exact .leftOut hnone
      | false =>
          have hvalue (v : FacetValue) : ShownAs bucket v ↔
              ⟨(Bucket.ofElastic bucket).key.render, (Bucket.ofElastic bucket).count⟩ = v := by
            constructor
            · rintro ⟨husable, hcounts⟩
              rw [(usableAs_iff.mp husable).1, counts_iff.mp hcounts]
            · rintro rfl
              exact ⟨usableAs_iff.mpr ⟨rfl, hblank⟩, counts_iff.mpr rfl⟩
          rw [if_neg Bool.false_ne_true]
          constructor
          · intro h
            cases h with
            | shown hshown hrest => rw [(hvalue _).mp hshown, ih.mp hrest]
            | leftOut hnone => exact absurd ⟨_, ((hvalue _).mpr rfl).usable⟩ hnone
          · rintro rfl
            exact .shown ((hvalue _).mpr rfl) (ih.mpr rfl)

theorem listed_append_iff : Listed (before ++ after) vs ↔
    ∃ front back, Listed before front ∧ Listed after back ∧ front ++ back = vs := by
  simp only [listed_iff]
  simp [Results.facetValues]

end Elastic

/-! ### Answers -/

theorem Aggregate.ofElastic_eq_terms_iff {j : Json} {bs : List Bucket} :
    ofElastic j = .terms bs ↔
      ∃ buckets, j.get? "buckets" = some (.array buckets) ∧ buckets.map Bucket.ofElastic = bs := by
  have hread (buckets : List Json) : (j.get? "buckets").bind Json.array? = some buckets ↔
      j.get? "buckets" = some (.array buckets) := by
    simp [Option.bind_eq_some_iff, Json.array?_eq_some_iff]
  rw [ofElastic]
  simp only [← hread]
  cases (j.get? "buckets").bind Json.array? <;> simp

namespace Response

variable {body : Json} {r : Response}

/-- An answer is read when its total is, whatever its hits and aggregations
are. -/
theorem ofElastic_eq_ok_iff : ofElastic body = .ok r ↔
    (body.get? "hits").bind totalOfElastic? = some r.total ∧
      (((body.walk ["hits", "hits"]).bind Json.array?).getD []).map Hit.ofElastic = r.hits ∧
      (((body.get? "aggregations").bind Json.object?).getD []).map
        (fun m => (m.1, Aggregate.ofElastic m.2)) = r.aggregations := by
  obtain ⟨total, hits, aggregations⟩ := r
  have hwalk : body.walk ["hits", "hits"] = (body.get? "hits").bind (Json.get? "hits") := by
    simp only [Json.walk, Option.bind_fun_some]
  rw [ofElastic, hwalk]
  cases body.get? "hits" with
  | none => simp
  | some hits =>
      cases htotal : totalOfElastic? hits with
      | none => simp [htotal]
      | some total => simp [htotal]

/-- What an answer has under a name is read from the array of buckets there. -/
theorem lookup_aggregations_iff (h : ofElastic body = .ok r) {name : String} {bs : List Bucket} :
    r.aggregations.lookup name = some (.terms bs) ↔
      ∃ buckets, body.walk ["aggregations", name, "buckets"] = some (.array buckets) ∧
        buckets.map Bucket.ofElastic = bs := by
  obtain ⟨-, -, haggregations⟩ := ofElastic_eq_ok_iff.mp h
  have hlookup : (((body.get? "aggregations").bind Json.object?).getD []).lookup name =
      body.walk ["aggregations", name] := by
    simp only [Json.walk, Option.bind_fun_some]
    cases body.get? "aggregations" with
    | none => rfl
    | some j => cases j <;> rfl
  have hsplit : body.walk ["aggregations", name, "buckets"] =
      (body.walk ["aggregations", name]).bind (Json.get? "buckets") :=
    Json.walk_concat ["aggregations", name] "buckets" body
  rw [← haggregations, Entries.lookup_map, hlookup, hsplit]
  cases body.walk ["aggregations", name] with
  | none => simp
  | some j =>
      rw [Option.map_some, Option.some.injEq, Option.bind_some]
      exact Aggregate.ofElastic_eq_terms_iff

end Response

/-! ### Facets -/

namespace Results

variable {s : Settings} {c : Criteria} {r : Response} {field : String} {vs : List FacetValue}

/-- The facets of an answer are those asked for that have buckets under their names. -/
theorem mem_facetsOf_iff : (field, vs) ∈ facetsOf s c r ↔ field ∈ c.facets ∧
    ∃ buckets, r.aggregations.lookup (s.facetName field) = some (.terms buckets) ∧
      facetValues buckets = vs := by
  rw [facetsOf, List.mem_filterMap]
  constructor
  · rintro ⟨field', hfield, h⟩
    split at h
    · rename_i buckets hbuckets
      cases h
      exact ⟨mem_distinct.mp hfield, buckets, hbuckets, rfl⟩
    · cases h
  · rintro ⟨hfield, buckets, hbuckets, rfl⟩
    exact ⟨field, mem_distinct.mpr hfield, by rw [hbuckets]⟩

/-- No facet is answered twice. -/
theorem nodup_keys_facetsOf (s : Settings) (c : Criteria) (r : Response) :
    (Entries.keys (facetsOf s c r)).Nodup := by
  rw [Entries.keys, facetsOf, List.map_filterMap]
  -- What comes of a field has the field for its key, and no field occurs twice.
  refine (nodup_distinct c.facets).filterMap fun field field' key hkey hkey' => ?_
  obtain ⟨_, h, rfl⟩ := Option.map_eq_some_iff.mp hkey
  obtain ⟨_, h', hsame⟩ := Option.map_eq_some_iff.mp hkey'
  split at h
  · split at h'
    · cases h
      cases h'
      exact hsame.symm
    · cases h'
  · cases h

/-- **A facet is listed from its buckets in the answer.** -/
theorem lookup_facets_iff {body : Json} (h : Response.ofElastic body = .ok r) :
    (ofResponse s c r).facets.lookup field = some vs ↔ field ∈ c.facets ∧
      ∃ buckets, body.walk ["aggregations", s.facetName field, "buckets"] = some (.array buckets) ∧
        Elastic.Listed buckets vs := by
  rw [ofResponse, Entries.lookup_eq_some_iff (nodup_keys_facetsOf s c r), mem_facetsOf_iff]
  simp only [Response.lookup_aggregations_iff h, Elastic.listed_iff]
  refine and_congr_right fun _ => ?_
  constructor
  · rintro ⟨_, ⟨buckets, hbuckets, rfl⟩, hvalues⟩
    exact ⟨buckets, hbuckets, hvalues⟩
  · rintro ⟨buckets, hbuckets, hvalues⟩
    exact ⟨_, ⟨buckets, hbuckets, rfl⟩, hvalues⟩

end Results

namespace Elastic

/-- **No bucket with a usable text is left out.** Take a facet that was asked
for and any bucket in the array that the answer has for it. If the bucket
has a scalar for `key_as_string`, of which the text is not blank, or no such
member and such a scalar for `key`, then this text is listed with the count
of the bucket, between what the buckets before it and what those after it
are listed as. Otherwise it is left out, and nothing else is; so it is left
out with a `key_as_string` that is no scalar, whatever its `key` is. -/
theorem usable_buckets_listed {body bucket : Json} {before after : List Json} {r : Response}
    (h : Response.ofElastic body = .ok r) (s : Settings) {c : Criteria} {field : String}
    (hfield : field ∈ c.facets)
    (hbuckets : body.walk ["aggregations", s.facetName field, "buckets"] =
      some (.array (before ++ bucket :: after))) :
    let facets := (Results.ofResponse s c r).facets
    ∃ front back count, Listed before front ∧ Listed after back ∧ Counts bucket count ∧
      (∀ text, UsableAs bucket text →
        facets.lookup field = some (front ++ ⟨text, count⟩ :: back)) ∧
      ((¬∃ text, UsableAs bucket text) → facets.lookup field = some (front ++ back)) ∧
      (∀ key, bucket.get? "key_as_string" = some key → ¬key.IsScalar →
        facets.lookup field = some (front ++ back)) := by
  intro facets
  let front := Results.facetValues (before.map Bucket.ofElastic)
  let back := Results.facetValues (after.map Bucket.ofElastic)
  let count := (Bucket.ofElastic bucket).count
  have hfront : Listed before front := listed_iff.mpr rfl
  have hback : Listed after back := listed_iff.mpr rfl
  have hcount : Counts bucket count := counts_iff.mpr rfl
  have hlookup {shown : List FacetValue} (hlisted : Listed (bucket :: after) shown) :
      facets.lookup field = some (front ++ shown) :=
    (Results.lookup_facets_iff h).mpr ⟨hfield, _, hbuckets,
      listed_append_iff.mpr ⟨front, shown, hfront, hlisted, rfl⟩⟩
  have hleftOut (hnone : ¬∃ text, UsableAs bucket text) :
      facets.lookup field = some (front ++ back) := hlookup (.leftOut hnone hback)
  refine ⟨front, back, count, hfront, hback, hcount, fun text htext => ?_, hleftOut, ?_⟩
  · exact hlookup (.shown ⟨htext, hcount⟩ hback)
  · exact fun key hkey hscalar => hleftOut (not_usableAs_of_keyAsString hkey hscalar)

/-- An answer with one match and these buckets for the colour. -/
def colourAnswer (buckets : List Json) : Json :=
  .object
    [("hits", .object [("total", .integer 1)]),
    ("aggregations", .object [("colour_agg", .object [("buckets", .array buckets)])])]

/-- A bucket without a count keeps its place between one that has a text for
its key and one that is blank. -/
theorem usable_buckets_listed_colour :
    let preferred := Json.object
      [("key", .integer 1), ("key_as_string", .string "true"), ("doc_count", .integer 9)]
    let uncounted := Json.object [("key", .integer 7), ("doc_count", .integer (-1))]
    let blank := Json.object [("key", .string " "), ("doc_count", .integer 4)]
    ∃ r, Response.ofElastic (colourAnswer [preferred, uncounted, blank]) = .ok r ∧
      (Results.ofResponse {} { facets := ["colour"] } r).facets.lookup "colour" =
        some [⟨"true", 9⟩, ⟨"7", 0⟩] := by
  intro preferred uncounted blank
  refine ⟨_, rfl, ?_⟩
  have hbuckets : (colourAnswer [preferred, uncounted, blank]).walk
      ["aggregations", Settings.facetName {} "colour", "buckets"] =
        some (.array ([preferred] ++ uncounted :: [blank])) := rfl
  have hfield : "colour" ∈ ({ facets := ["colour"] } : Criteria).facets := List.mem_cons_self
  obtain ⟨front, back, count, hfront, hback, hcount, hshown, -⟩ :=
    usable_buckets_listed rfl {} hfield hbuckets
  have husable : UsableAs uncounted "7" := .key rfl rfl ⟨_, rfl, rfl⟩ (by decide)
  obtain rfl := listed_iff.mp hfront
  obtain rfl := listed_iff.mp hback
  obtain rfl := counts_iff.mp hcount
  rw [hshown "7" husable]
  simp only [preferred, uncounted, blank]
  rfl

/-- A bucket with a usable key is left out for a `null` beside it. -/
theorem usable_key_hidden :
    ∃ r, Response.ofElastic (colourAnswer
        [.object [("key", .string "red"), ("key_as_string", .null), ("doc_count", .integer 3)]]) =
          .ok r ∧
      (Json.string "red").IsWritten "red" ∧ Text.isBlankText "red" = false ∧
      (Results.ofResponse {} { facets := ["colour"] } r).facets = [("colour", [])] :=
  ⟨_, rfl, ⟨_, rfl, rfl⟩, by decide, rfl⟩

end Elastic

end FacetedSearch
