import FacetedSearch.Scalar

/-!
# `FacetedSearch.Document.Path`: fields inside documents

A field is named by a path. A field of the document with the whole path
for its name comes first; otherwise the path is cut at its dots and
followed through nested objects, segment by segment (`Json.walk`).

A field with an array has the items of the array for its leaves. Any
other field is a leaf itself, and a missing field has none.
-/

set_option autoImplicit false

namespace FacetedSearch

/-- The segments of a path, between its dots. -/
def segments (path : String) : List String := (path.toList.splitOn '.').map String.ofList

namespace Json

/-- Follows keys through nested objects. -/
def walk : List String → Json → Option Json
  | [], j => some j
  | key :: rest, j => (j.get? key).bind (walk rest)

theorem walk_append (ks ls : List String) (j : Json) :
    j.walk (ks ++ ls) = (j.walk ks).bind (walk ls) := by
  induction ks generalizing j with
  | nil => rfl
  | cons k ks ih =>
      cases h : j.get? k with
      | none => simp [walk, h]
      | some child => simp [walk, h, ih]

mutual

/-- Every string in a value, at any depth. -/
def texts : Json → List String
  | .string s => [s]
  | .array items => textsOfItems items
  | .object members => textsOfMembers members
  | _ => []

/-- Every string in the items of an array. -/
def textsOfItems : List Json → List String
  | [] => []
  | j :: rest => texts j ++ textsOfItems rest

/-- Every string in the members of an object. -/
def textsOfMembers : List (String × Json) → List String
  | [] => []
  | (_, j) :: rest => texts j ++ textsOfMembers rest

end

theorem textsOfItems_eq_flatMap (items : List Json) :
    textsOfItems items = items.flatMap texts := by
  induction items with
  | nil => rfl
  | cons j rest ih => simp [textsOfItems, ih]

theorem textsOfMembers_eq_flatMap (members : List (String × Json)) :
    textsOfMembers members = members.flatMap fun m => m.2.texts := by
  induction members with
  | nil => rfl
  | cons m rest ih => obtain ⟨k, j⟩ := m; simp [textsOfMembers, ih]

end Json

namespace Document

/-- The value of a field. -/
def find? (doc : Document) (path : String) : Option Json :=
  doc.lookup path <|> (Json.object doc).walk (segments path)

/-- The leaves of a field. -/
def leaves (doc : Document) (path : String) : List Json :=
  match doc.find? path with
  | some (.array items) => items
  | some j => [j]
  | none => []

/-- The scalars among the leaves of a field. -/
def scalars (doc : Document) (path : String) : List Scalar :=
  (doc.leaves path).filterMap Scalar.ofJson?

/-- The scalar that a field has for its value. -/
def scalar? (doc : Document) (path : String) : Option Scalar :=
  (doc.find? path).bind Scalar.ofJson?

end Document

end FacetedSearch
