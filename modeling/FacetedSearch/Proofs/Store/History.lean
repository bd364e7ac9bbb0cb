import FacetedSearch.Proofs.Query.Algebra
import FacetedSearch.Proofs.Session.Search
import FacetedSearch.Proofs.Support.Entries
import Mathlib.Data.List.DropRight

/-!
# `FacetedSearch.Proofs.Store.History`: a store and what was done to it

A store is a map from names to lists of documents. What it holds can be
told from the commands that it was given, without running them: for an
index only the commands after the last one that drops it count
(`sinceDrop`). The index is there when one of these makes it, and its
documents are those that they put into it, in their order (`contents`).

`lookup_perform` says what one command does to an index, and
`contents_concat` what it adds to the history. The two agree, so the store
holds what its history says (`lookup_performAll`). The induction is on the
last command, since a command that drops an index makes all before it
irrelevant.

There are three ways to read a store: the size of an index, a request for
everything in it (`search_everything`), and the question whether it is
there, asked directly or through a service (`checkIndex_eq_ok`,
`hasIndex_of_indexExists`). `contents_of_history` relates all of them to the
history.
-/

set_option autoImplicit false

namespace FacetedSearch

namespace Store

/-! ### Commands -/

/-- What a store can be told or asked. -/
inductive Command where
  | change (change : Change)
  | search (request : Request)
  | checkIndex (index : String)

/-- The store after a command. -/
def perform (s : Store) : Command → Store
  | .change c => s.apply c
  | .search r => (s.search r).2
  | .checkIndex index => (s.checkIndex index).2

/-- The store after commands in turn. -/
def performAll (s : Store) (cs : List Command) : Store := cs.foldl perform s

theorem performAll_concat (s : Store) (cs : List Command) (c : Command) :
    s.performAll (cs ++ [c]) = (s.performAll cs).perform c := by
  simp [performAll]

/-- There is an index of this name. -/
def HasIndex (s : Store) (index : String) : Prop := (s.indices.lookup index).isSome = true

namespace Command

/-- The index that a command is about. -/
def index? : Command → Option String
  | .change (.createIndex i) | .change (.dropIndex i) | .change (.insert i _ _)
  | .change (.insertAll i _) | .checkIndex i => some i
  | .change (.setAvailable _) | .change (.failNext _) => none
  | .search r => some r.index

/-- Whether a command drops an index. -/
def drops (index : String) : Command → Bool
  | .change (.dropIndex i) => index = i
  | _ => false

/-- Whether a command makes an index, by creating it or by putting a document
into it. -/
def makes (index : String) : Command → Bool
  | .change (.createIndex i) | .change (.insert i _ _) => index = i
  | .change (.insertAll i docs) => index = i && !docs.isEmpty
  | _ => false

/-- A value as a document of a store. Nothing is kept of one that is no object. -/
def document (id : String) : Json → Stored
  | .object members => ⟨id, members⟩
  | _ => ⟨id, []⟩

/-- The documents that a command puts into an index. -/
def stored (index : String) : Command → List Stored
  | .change (.insert i id value) => if index = i then [document id value] else []
  | .change (.insertAll i docs) =>
    if index = i then docs.map fun d => document d.1 d.2 else []
  | _ => []

end Command

/-! ### Histories -/

/-- The commands after the last one that drops an index. -/
def sinceDrop (index : String) (cs : List Command) : List Command :=
  cs.rtakeWhile fun c => !c.drops index

/-- The documents that commands have put into an index since it was dropped
last; nothing if none of them makes the index. -/
def contents (index : String) (cs : List Command) : Option (List Stored) :=
  let recent := sinceDrop index cs
  if recent.any (·.makes index) then some (recent.flatMap (·.stored index)) else none

theorem sinceDrop_concat (index : String) (cs : List Command) (c : Command) :
    sinceDrop index (cs ++ [c]) =
      if c.drops index then [] else sinceDrop index cs ++ [c] := by
  rw [sinceDrop, List.rtakeWhile_concat]
  cases c.drops index <;> rfl

/-- A command that puts documents into an index makes it. -/
theorem Command.stored_of_not_makes {c : Command} {index : String} (h : c.makes index = false) :
    c.stored index = [] := by
  cases c with
  | search r => rfl
  | checkIndex i => rfl
  | change c => cases c <;> simp_all [makes, stored]

/-- Where there is no index, no documents were put into it either. -/
theorem getD_contents (index : String) (cs : List Command) :
    (contents index cs).getD [] = (sinceDrop index cs).flatMap (·.stored index) := by
  rw [contents]
  split
  · rfl
  · rename_i hmakes
    rw [Bool.not_eq_true, List.any_eq_false] at hmakes
    refine (List.flatMap_eq_nil_iff.mpr fun c hc => ?_).symm
    exact Command.stored_of_not_makes (Bool.not_eq_true _ ▸ hmakes c hc)

/-- What one more command adds to the history of an index. -/
theorem contents_concat (index : String) (cs : List Command) (c : Command) :
    contents index (cs ++ [c]) =
      if c.drops index then none
      else if c.makes index then some ((contents index cs).getD [] ++ c.stored index)
      else contents index cs := by
  rw [getD_contents, contents, contents, sinceDrop_concat]
  cases hdrops : c.drops index with
  | true => rfl
  | false =>
      cases hmakes : c.makes index with
      | true => simp [hmakes]
      | false => simp [hmakes, Command.stored_of_not_makes hmakes]

/-! ### One command -/

theorem documents_of_lookup {s : Store} {index : String} {docs : List Stored}
    (h : s.indices.lookup index = some docs) : s.documents index = docs := by
  rw [documents, h, Option.getD_some]

theorem lookup_createIndex (s : Store) (i index : String) :
    (s.createIndex i).indices.lookup index =
      if index = i then some (s.documents i) else s.indices.lookup index :=
  Entries.lookup_put _ _ _ _

theorem lookup_dropIndex (s : Store) (i index : String) :
    (s.dropIndex i).indices.lookup index =
      if index = i then none else s.indices.lookup index :=
  Entries.lookup_erase _ _ _

theorem lookup_insert (s : Store) (i id index : String) (value : Json) :
    (s.insert i id value).indices.lookup index =
      if index = i then some (s.documents i ++ [Command.document id value])
      else s.indices.lookup index := by
  have hdocument : (⟨id, value.object?.getD []⟩ : Stored) = Command.document id value := by
    cases value <;> rfl
  rw [insert, hdocument]
  exact Entries.lookup_put _ _ _ _

/-- Documents that are put into an index one after the other make it if there
are any, and stand at its end. -/
theorem lookup_insertAll (s : Store) (i index : String) (docs : List (String × Json)) :
    (s.insertAll i docs).indices.lookup index =
      if index = i ∧ docs ≠ [] then
        some (s.documents i ++ docs.map fun d => Command.document d.1 d.2)
      else s.indices.lookup index := by
  induction docs generalizing s with
  | nil => simp [insertAll]
  | cons d docs ih =>
      show ((s.insert i d.1 d.2).insertAll i docs).indices.lookup index = _
      have hdocuments : (s.insert i d.1 d.2).documents i =
          s.documents i ++ [Command.document d.1 d.2] :=
        documents_of_lookup (by rw [lookup_insert, if_pos rfl])
      rw [ih, hdocuments, lookup_insert]
      by_cases hi : index = i
      · cases docs <;> simp [hi]
      · simp [hi]

/-- No question changes an index. -/
theorem indices_checkIndex (index : String) (s : Store) :
    (s.checkIndex index).2.indices = s.indices := by
  unfold checkIndex reach
  cases s.available with
  | false => rfl
  | true => cases s.pendingFailures <;> rfl

/-- **What a command does to an index.** It drops the index, or it makes it and
adds documents at its end, or it leaves it as it is. -/
theorem lookup_perform (s : Store) (c : Command) (index : String) :
    (s.perform c).indices.lookup index =
      if c.drops index then none
      else if c.makes index then some (s.documents index ++ c.stored index)
      else s.indices.lookup index := by
  cases c with
  | search r => exact congrArg (·.lookup index) (indices_search r s).1
  | checkIndex i => exact congrArg (·.lookup index) (indices_checkIndex i s)
  | change c =>
      cases c with
      | createIndex i =>
          rw [perform, apply, lookup_createIndex]
          by_cases hi : index = i <;> simp [hi, Command.drops, Command.makes, Command.stored]
      | dropIndex i =>
          rw [perform, apply, lookup_dropIndex]
          by_cases hi : index = i <;> simp [hi, Command.drops, Command.makes]
      | insert i id value =>
          rw [perform, apply, lookup_insert]
          by_cases hi : index = i <;> simp [hi, Command.drops, Command.makes, Command.stored]
      | insertAll i docs =>
          rw [perform, apply, lookup_insertAll]
          by_cases hi : index = i <;> cases docs <;>
            simp [hi, Command.drops, Command.makes, Command.stored]
      | setAvailable available => rfl
      | failNext count => rfl

/-- A command that is about another index leaves an index as it is. -/
theorem lookup_perform_of_ne (s : Store) {c : Command} {index : String}
    (hc : c.index? ≠ some index) :
    (s.perform c).indices.lookup index = s.indices.lookup index := by
  have huntouched : c.drops index = false ∧ c.makes index = false := by
    cases c with
    | search r => exact ⟨rfl, rfl⟩
    | checkIndex i => exact ⟨rfl, rfl⟩
    | change c => cases c <;> simp_all [Command.index?, Command.drops, Command.makes, eq_comm]
  rw [lookup_perform, huntouched.1, huntouched.2]
  rfl

/-! ### Commands in turn -/

section
variable (sorter : Sorter Stored)

/-- **A new store holds what its history says**, index by index. -/
theorem lookup_performAll (cs : List Command) (index : String) :
    (performAll { sorter } cs).indices.lookup index = contents index cs := by
  induction cs using List.reverseRecOn with
  | nil => rfl
  | append_singleton cs c ih =>
      rw [performAll_concat, lookup_perform, contents_concat, documents, ih]

/-- After a history, an index is there when a command after the last drop
makes it. -/
theorem hasIndex_performAll_iff (cs : List Command) (index : String) :
    (performAll { sorter } cs).HasIndex index ↔ ∃ c ∈ sinceDrop index cs, c.makes index = true := by
  rw [HasIndex, lookup_performAll, contents, ← List.any_eq_true]
  cases (sinceDrop index cs).any (·.makes index) <;> simp

theorem documents_performAll (cs : List Command) (index : String) :
    (performAll { sorter } cs).documents index = (sinceDrop index cs).flatMap (·.stored index) := by
  rw [documents, lookup_performAll, getD_contents]

end

/-! ### Reading a store -/

variable {s : Store} {index : String}

theorem HasIndex.lookup_eq (h : s.HasIndex index) :
    s.indices.lookup index = some (s.documents index) := by
  obtain ⟨docs, hdocs⟩ := Option.isSome_iff_exists.mp h
  rw [documents_of_lookup hdocs, hdocs]

theorem lookup_of_not_hasIndex (h : ¬s.HasIndex index) : s.indices.lookup index = none := by
  rwa [HasIndex, Bool.not_eq_true, Option.isSome_eq_false_iff, Option.isNone_iff_eq_none] at h

/-- The request for everything in an index, up to a number of documents. -/
def everything (index : String) (size : UInt64) (aggregations : List Aggregation) : Request where
  index := index
  query := .all
  size := some size
  aggregations := aggregations

/-- A request for everything is answered with the documents of the index, as
they are and in their order. -/
theorem search_everything (havailable : s.available = true) (hpending : s.pendingFailures = 0)
    (hindex : s.HasIndex index) {n : UInt64} (hn : s.size index ≤ n.toNat)
    (aggregations : List Aggregation) :
    ∃ resp, s.search (everything index n aggregations) = (.ok (some resp), s) ∧
      resp.total = s.size index ∧
      resp.hits = (s.documents index).map fun d => ⟨some d.id, some d.document⟩ := by
  let r := everything index n aggregations
  -- Nothing is left out: every document is selected, and the page has room for all.
  have hhits : hits s.sorter (s.documents index) r = some (s.documents index) :=
    (hits_eq_filter rfl).trans
      (congrArg some (List.filter_eq_self.mpr fun d _ => Query.selects_all d.document))
  have hpage : page r (s.documents index) = s.documents index := List.take_of_length_le hn
  have hsearch : (s.search r).1 = .ok (some (respond r (s.documents index))) :=
    search_eq_ok_iff.mpr ⟨havailable, hpending, _, hindex.lookup_eq,
      answer_eq_some_iff.mpr ⟨_, hhits, rfl⟩⟩
  refine ⟨_, search_eq_of_ok hsearch, rfl, ?_⟩
  rw [respond, hpage]
  rfl

/-- A request to an index that is not there is refused. -/
theorem search_of_not_hasIndex (havailable : s.available = true) (hpending : s.pendingFailures = 0)
    {r : Request} (hindex : ¬s.HasIndex r.index) :
    s.search r = (.error (.status 404 ("no such index [" ++ r.index ++ "]")), s) := by
  simp [search, reach, havailable, hpending, lookup_of_not_hasIndex hindex]

/-- A store that says whether there is an index is right. -/
theorem checkIndex_eq_ok {found : Bool} (h : (s.checkIndex index).1 = .ok found) :
    found = true ↔ s.HasIndex index := by
  unfold checkIndex reach at h
  cases havailable : s.available with
  | false => simp [havailable] at h
  | true =>
      cases hpending : s.pendingFailures with
      | succ n => simp [havailable, hpending] at h
      | zero =>
          simp only [havailable, hpending] at h
          cases h
          rfl

/-- A service says that there is an index only if there is one. -/
theorem hasIndex_of_indexExists {t t' : Session} (h : t.indexExists index = some (true, t')) :
    t.store.HasIndex index := by
  have hindices (store : Store) (h : store.indices = t.store.indices) :
      (checkIndex index store).2.indices = t.store.indices :=
    (indices_checkIndex index store).trans h
  simp only [Session.indexExists, Option.bind_eq_bind, Option.bind_eq_some_iff] at h
  obtain ⟨⟨outcome, u⟩, hcall, h⟩ := h
  rcases outcome with f | _ | _
  · cases h
  · cases h
  · obtain ⟨-, store, hstore, hfound⟩ := Session.exists_request_of_call_eq_ok hindices rfl hcall
    have hstore' : store.HasIndex index := (checkIndex_eq_ok hfound).mp rfl
    rwa [HasIndex, hstore] at hstore'

/-! ### Commands without an effect -/

/-- To create an index that is there changes nothing. -/
theorem createIndex_of_hasIndex (h : s.HasIndex index) : s.createIndex index = s := by
  rw [createIndex, Entries.put_of_lookup h.lookup_eq]

/-- To drop an index that is not there changes nothing. -/
theorem dropIndex_of_not_hasIndex (h : ¬s.HasIndex index) : s.dropIndex index = s := by
  rw [dropIndex, Entries.erase_of_lookup (lookup_of_not_hasIndex h)]

/-- **A store is a map from names to lists of documents.** Start with a new
store, however it sorts, and give it any commands. Then an index is there
exactly when, after the last command that drops it, one creates it or puts a
document into it; and its size is the number of documents put into it since,
none if it is not there. A store that can be reached answers a request for
everything with these documents, in the order in which they came, and refuses
it where there is no index. Neither the store nor a service in front of it
reports an index that is not there. Commands about other indices change
nothing about this one, and neither does creating it while it is there or
dropping it while it is not. -/
theorem contents_of_history (sorter : Sorter Stored) (cs : List Command) (index : String) :
    let s := performAll { sorter } cs
    let recent := sinceDrop index cs
    let docs := recent.flatMap (·.stored index)
    (s.HasIndex index ↔ ∃ c ∈ recent, c.makes index = true) ∧
    s.size index = docs.length ∧ (¬s.HasIndex index → s.size index = 0) ∧
    (s.available = true → s.pendingFailures = 0 →
      ∀ (n : UInt64) (aggregations : List Aggregation), s.size index ≤ n.toNat →
        (s.HasIndex index → ∃ resp,
          s.search (everything index n aggregations) = (.ok (some resp), s) ∧
          resp.total = s.size index ∧
          resp.hits = docs.map fun d => ⟨some d.id, some d.document⟩) ∧
        (¬s.HasIndex index → s.search (everything index n aggregations) =
          (.error (.status 404 ("no such index [" ++ index ++ "]")), s))) ∧
    (∀ found, (s.checkIndex index).1 = .ok found → (found = true ↔ s.HasIndex index)) ∧
    (∀ t t' : Session, t.store = s → t.indexExists index = some (true, t') → s.HasIndex index) ∧
    (∀ c : Command, c.index? ≠ some index →
      (s.perform c).indices.lookup index = s.indices.lookup index) ∧
    (s.HasIndex index → s.createIndex index = s) ∧
    (¬s.HasIndex index → s.dropIndex index = s) := by
  intro s recent docs
  have hdocs : s.documents index = docs := documents_performAll sorter cs index
  refine ⟨hasIndex_performAll_iff sorter cs index, congrArg List.length hdocs, ?_, ?_,
    fun found => checkIndex_eq_ok, ?_, fun c => lookup_perform_of_ne s,
    createIndex_of_hasIndex, dropIndex_of_not_hasIndex⟩
  · intro hindex
    rw [size, documents, lookup_of_not_hasIndex hindex]
    rfl
  · intro havailable hpending n aggregations hn
    refine ⟨fun hindex => ?_, fun hindex => search_of_not_hasIndex havailable hpending hindex⟩
    have hanswer := search_everything havailable hpending hindex hn aggregations
    rwa [hdocs] at hanswer
  · intro t t' ht h
    rw [← ht]
    exact hasIndex_of_indexExists h

/-- Toys are dropped and put in again, one of them without a description; of
books there are none to put in, and a failure is used up by a question. -/
def restocked : List Command :=
  [.change (.insert "toys" "1" (.object [("colour", .string "red")])),
    .change (.dropIndex "toys"),
    .change (.insertAll "toys" [("2", .object [("colour", .string "blue")]), ("3", .null)]),
    .change (.insertAll "books" []), .change (.failNext 1), .checkIndex "toys"]

theorem contents_of_history_restocked :
    let s := performAll { sorter := .insertion } restocked
    (s.available = true ∧ s.pendingFailures = 0 ∧ s.size "toys" ≤ (2 : UInt64).toNat ∧
      Command.index? (.change (.dropIndex "toys")) ≠ some "books") ∧
    (s.HasIndex "toys" ∧ s.size "toys" = 2 ∧
      ∃ resp, s.search (everything "toys" 2 []) = (.ok (some resp), s) ∧ resp.total = 2 ∧
        resp.hits = [⟨some "2", some [("colour", .string "blue")]⟩, ⟨some "3", some []⟩]) ∧
    (¬s.HasIndex "books" ∧ s.dropIndex "books" = s ∧
      (s.perform (.change (.dropIndex "toys"))).indices.lookup "books" =
        s.indices.lookup "books") := by
  intro s
  have hother : Command.index? (.change (.dropIndex "toys")) ≠ some "books" := by decide
  obtain ⟨hindex, hsize, -, hsearch, -, -, -, -, -⟩ :=
    contents_of_history .insertion restocked "toys"
  obtain ⟨hbooks, -, -, -, -, -, hframe, -, hdrop⟩ :=
    contents_of_history .insertion restocked "books"
  have htoys : s.HasIndex "toys" := hindex.mpr (by decide)
  have hnobooks : ¬s.HasIndex "books" := fun h => absurd (hbooks.mp h) (by decide)
  obtain ⟨resp, hresp, htotal, hhits⟩ := (hsearch rfl rfl 2 [] (by decide)).1 htoys
  exact ⟨⟨rfl, rfl, by decide, hother⟩, ⟨htoys, hsize, resp, hresp, htotal, hhits⟩,
    hnobooks, hdrop hnobooks, hframe _ hother⟩

end Store

end FacetedSearch
