import FacetedSearch.Document.Path

/-!
# `FacetedSearch.Document.Projection`: parts of documents

A projection keeps the requested fields of a document. A field that the
document has under its whole path is kept under that name; one that is
found by following the path is put back at the same place, in objects
made for it as needed. Where a value other than an object is already in
the way, it stays.
-/

set_option autoImplicit false

namespace FacetedSearch.Document

/-- Puts a value where a path of keys leads. -/
def insertAt (v : Json) : List String → Document → Document
  | [], out => out
  | [key], out => Entries.put key v out
  | key :: rest, out =>
    match out.lookup key with
    | none => Entries.put key (.object (insertAt v rest [])) out
    | some (.object child) => Entries.put key (.object (insertAt v rest child)) out
    | some _ => out

/-- Adds one requested field of a document to what is kept of it. -/
def keep (doc : Document) (out : Document) (path : String) : Document :=
  match doc.lookup path with
  | some v => Entries.put path v out
  | none =>
    match (Json.object doc).walk (segments path) with
    | some v => insertAt v (segments path) out
    | none => out

/-- The requested fields of a document; all of it when none are named. -/
def project (doc : Document) : Option (List String) → Document
  | none => doc
  | some paths => paths.foldl (keep doc) []

end FacetedSearch.Document
