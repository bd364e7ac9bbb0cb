import FacetedSearch.Document.Matching
import FacetedSearch.Document.Projection
import FacetedSearch.Document.Sorting
import FacetedSearch.Document.Tally
import FacetedSearch.Failure

/-!
# `FacetedSearch.Store`: a search engine in memory

A store holds indices, and an index the documents that were put into it,
in that order. It answers requests the way a search engine does: the
documents that match are sorted, aggregated as a whole, and cut to the
page asked for. How they are sorted is up to the store (`Sorter`). If
sorting gives up on them, no answer comes back (`none`), and no failure
either.

A store can be switched off, and it can be told to fail the next calls.
Both are checked before anything else (`reach`), so a call that fails in
this way neither reads nor changes an index.
-/

set_option autoImplicit false

namespace FacetedSearch

/-- A document under its identifier. -/
structure Stored where
  id : String
  document : Document
deriving Inhabited

/-- A search engine in memory. -/
structure Store where
  indices : Entries (List Stored) := []
  available : Bool := true
  /-- How many calls are still to fail. -/
  pendingFailures : Nat := 0
  /-- How hits are put in order. -/
  sorter : Sorter Stored := .insertion
deriving Inhabited

namespace Store

/-! ### Indices -/

/-- The documents of an index. -/
def documents (s : Store) (index : String) : List Stored := (s.indices.lookup index).getD []

/-- How many documents an index has. -/
def size (s : Store) (index : String) : Nat := (s.documents index).length

/-- Makes an index, unless it is there already. -/
def createIndex (s : Store) (index : String) : Store :=
  { s with indices := Entries.put index (s.documents index) s.indices }

/-- Removes an index with its documents. -/
def dropIndex (s : Store) (index : String) : Store :=
  { s with indices := Entries.erase index s.indices }

/-- Puts a document at the end of an index, which is made if need be. A
value that is no object is kept as the empty document. -/
def insert (s : Store) (index id : String) (value : Json) : Store :=
  let stored : Stored := ⟨id, value.object?.getD []⟩
  { s with indices := Entries.put index (s.documents index ++ [stored]) s.indices }

/-- Puts documents into an index one after the other. -/
def insertAll (s : Store) (index : String) (docs : List (String × Json)) : Store :=
  docs.foldl (fun s d => s.insert index d.1 d.2) s

/-! ### Failing -/

/-- Switches the store on or off. -/
def setAvailable (s : Store) (available : Bool) : Store := { s with available := available }

/-- Lets the next calls fail. -/
def failNext (s : Store) (count : Nat) : Store := { s with pendingFailures := count }

/-! ### Changes -/

/-- What can be done to a store. -/
inductive Change where
  | createIndex (index : String)
  | dropIndex (index : String)
  | insert (index id : String) (value : Json)
  | insertAll (index : String) (docs : List (String × Json))
  | setAvailable (available : Bool)
  | failNext (count : Nat)
deriving Inhabited

/-- The store after a change. -/
def apply (s : Store) : Change → Store
  | .createIndex index => s.createIndex index
  | .dropIndex index => s.dropIndex index
  | .insert index id value => s.insert index id value
  | .insertAll index docs => s.insertAll index docs
  | .setAvailable available => s.setAvailable available
  | .failNext count => s.failNext count

/-! ### Answering -/

/-- The outcome of reaching the store: being switched off comes before a
failure that was asked for, which is used up. -/
def reach (s : Store) : Except Failure Unit × Store :=
  if !s.available then (.error (.unavailable "in-memory backend switched off"), s)
  else match s.pendingFailures with
    | n + 1 => (.error (.connection "injected failure"), { s with pendingFailures := n })
    | 0 => (.ok (), s)

/-- The documents that match a request, in the order it asks for. -/
def hits (sorter : Sorter Stored) (docs : List Stored) (r : Request) : Option (List Stored) :=
  let found := docs.filter fun d => r.query.selects d.document
  match r.sortBy with
  | some s => s.sort sorter Stored.document found
  | none => some found

/-- A document as a hit, with the fields that were asked for. -/
def hit (r : Request) (d : Stored) : Hit := ⟨some d.id, some (d.document.project r.includes)⟩

/-- The page of the hits that a request asks for. -/
def page (r : Request) (found : List Stored) : List Stored :=
  (found.drop ((r.offset.map (·.toNat)).getD 0)).take ((r.size.map (·.toNat)).getD defaultSize)

/-- The answer to a request that has these hits. -/
def respond (r : Request) (found : List Stored) : Response where
  total := found.length
  hits := (page r found).map (hit r)
  aggregations := Entries.collect <|
    r.aggregations.map fun a => (a.name, a.answer (found.map Stored.document))

/-- The answer of an index with these documents. -/
def answer (sorter : Sorter Stored) (docs : List Stored) (r : Request) : Option Response :=
  (hits sorter docs r).map (respond r)

/-- Searches an index. -/
def search (r : Request) (s : Store) : Except Failure (Option Response) × Store :=
  match s.reach with
  | (.error f, s) => (.error f, s)
  | (.ok (), s) =>
    match s.indices.lookup r.index with
    | some docs => (.ok (answer s.sorter docs r), s)
    | none => (.error (.status 404 ("no such index [" ++ r.index ++ "]")), s)

/-- Tells whether there is an index. -/
def checkIndex (index : String) (s : Store) : Except Failure Bool × Store :=
  match s.reach with
  | (.error f, s) => (.error f, s)
  | (.ok (), s) => (.ok (s.indices.lookup index).isSome, s)

end Store

end FacetedSearch
