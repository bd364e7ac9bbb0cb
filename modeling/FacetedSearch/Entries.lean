/-!
# `FacetedSearch.Entries`: maps that remember their order

Documents, filters, indices and responses are all maps from text to
something, and the order of their keys can be seen in every answer.
Such a map is a list of entries. Reading is `List.lookup`; this file
adds writing (`put`, `erase`) and ordering by key (`sortByKey`).

`put` keeps a known key where it stands and changes its value there; a
new key goes to the end. Reading after writing is settled by
`lookup_put_self` and `lookup_put_of_ne`, which are all that the rest
of the library uses of `put`.
-/

set_option autoImplicit false

namespace FacetedSearch

/-- A map from text to `α` that keeps the order of its keys. -/
abbrev Entries (α : Type) := List (String × α)

namespace Entries

variable {α : Type}

/-- The keys, in order. -/
def keys (es : Entries α) : List String := es.map (·.1)

/-- Writes `v` under `k`: in place when the key is known, at the end otherwise. -/
def put (k : String) (v : α) : Entries α → Entries α
  | [] => [(k, v)]
  | (k', v') :: rest => if k = k' then (k', v) :: rest else (k', v') :: put k v rest

/-- Removes every entry of a key. -/
def erase (k : String) (es : Entries α) : Entries α := es.filter (·.1 ≠ k)

/-- Builds a map from entries that may repeat a key: a repeated key keeps
its first place and its last value. -/
def collect (es : List (String × α)) : Entries α :=
  es.foldl (fun out e => put e.1 e.2 out) []

/-- The entries by increasing key, code point by code point. -/
def sortByKey (es : Entries α) : Entries α := es.mergeSort (fun a b => a.1 ≤ b.1)

/-! ### Reading what was written -/

@[simp] theorem lookup_put_self (k : String) (v : α) (es : Entries α) :
    (put k v es).lookup k = some v := by
  induction es with
  | nil => simp [put]
  | cons e rest ih =>
      obtain ⟨k', v'⟩ := e
      by_cases h : k = k'
      · simp [put, h]
      · have hb : (k == k') = false := by simpa using h
        simp [put, h, List.lookup_cons, hb, ih]

theorem lookup_put_of_ne {k k' : String} (h : k' ≠ k) (v : α) (es : Entries α) :
    (put k v es).lookup k' = es.lookup k' := by
  have hb : (k' == k) = false := by simpa using h
  induction es with
  | nil => simp [put, List.lookup_cons, hb]
  | cons e rest ih =>
      obtain ⟨k'', v''⟩ := e
      by_cases h₁ : k = k''
      · subst h₁; simp [put, List.lookup_cons, hb]
      · simp [put, h₁, List.lookup_cons, ih]

end Entries

end FacetedSearch
