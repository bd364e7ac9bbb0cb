import FacetedSearch.Proofs.Document.Texts
import FacetedSearch.Proofs.Filter.Grammar
import FacetedSearch.Proofs.Filter.Meaning
import FacetedSearch.Proofs.Query.Agreement
import FacetedSearch.Proofs.Text.Words
import Mathlib.Logic.Relation

/-!
# `FacetedSearch.Proofs.Filter.Rewording`: text conditions for exact ones

A text condition is met by less than equality: one word in common is
enough. But it looks at texts, only, where equality looks at every scalar.
So it takes in what the exact condition on the same field selects if the
value is a text with a word (`Query.selects_text_of_term`), and nothing
of the kind holds of numbers and truth values
(`Filter.not_selects_text_of_term`).

Inside a composition the step from one to the other makes the composition
select more, or less, depending on the number of `must_not` slots around
it. `Shifts` is the relation between queries, and between the slots of
compositions, that keeps track of the direction; `Clauses.Shifts.bool`
says that a composition passes it on. `Filter.Reworded` describes the step
on the JSON of a filter, at any depth, and `Filter.Reworded.readingShifts`
is the induction over it.

`Filter.implies_of_reworded` is the main statement.
-/

set_option autoImplicit false

namespace FacetedSearch

/-! ### Conditions on one field -/

/-- Only the same text is equal to a text. -/
theorem Scalar.sameValue_text_iff {v : Scalar} {t : String} :
    v.sameValue (.text t) = true ↔ v = .text t := by
  cases v <;> simp [sameValue, number?]

namespace Query

variable {doc : Document} {field : String}

/-- A text condition on a field that is no pattern looks at the texts among
its leaves. -/
theorem selects_text_iff_of_not_isPattern {v : Scalar} (hfield : Text.isPattern field = false) :
    (Query.text field v).selects doc = true ↔
      ∃ s, .string s ∈ doc.leaves field ∧
        ∃ word ∈ Text.words s, word ∈ Text.words v.render := by
  simp only [selects_text_iff, Document.mem_texts_of_not_isPattern hfield]

/-- An exact condition on a text looks for a leaf that is this text. -/
theorem selects_term_text_iff {t : String} :
    (Query.term field (.text t)).selects doc = true ↔ .string t ∈ doc.leaves field := by
  simp only [selects_term_iff, Document.mem_scalars, Scalar.sameValue_text_iff]
  constructor
  · rintro ⟨v, ⟨leaf, hleaf, hv⟩, htext⟩
    rwa [(Scalar.eq_text_iff_of_ofJson? hv).mp htext] at hleaf
  · intro hleaf
    exact ⟨.text t, ⟨_, hleaf, rfl⟩, rfl⟩

/-- A text that is found as such is found by its words, if it has any. -/
theorem selects_text_of_term {t : String} (hfield : Text.isPattern field = false)
    (ht : ∃ c ∈ t.toList, Text.isAlphanumeric c = true)
    (h : (Query.term field (.text t)).selects doc = true) :
    (Query.text field (.text t)).selects doc = true := by
  obtain ⟨c, hc, halphanumeric⟩ := ht
  have hwords : Text.words t ≠ [] := fun hnone =>
    Bool.false_ne_true ((Text.words_eq_nil_iff.mp hnone c hc).symm.trans halphanumeric)
  obtain ⟨word, hword⟩ := List.exists_mem_of_ne_nil _ hwords
  exact (selects_text_iff_of_not_isPattern hfield).mpr
    ⟨t, selects_term_text_iff.mp h, word, hword, hword⟩

end Query

/-! ### Queries that select more -/

/-- The second query selects whatever the first one selects. -/
def Query.Implies (q r : Query) : Prop := ∀ doc, q.selects doc = true → r.selects doc = true

/-- From the first query to the second one, what is selected grows, or
shrinks. -/
def Query.Shifts : (wider : Bool) → Query → Query → Prop
  | true, q, r => q.Implies r
  | false, q, r => r.Implies q

/-- The direction in which the queries of a slot have to shift for their
composition to become wider, or narrower. -/
def Slot.direction (slot : Slot) (wider : Bool) : Bool :=
  if slot = .mustNot then !wider else wider

/-- Slot for slot, the queries of both compositions are related in such a
way that the composition shifts. -/
def Clauses.Shifts (wider : Bool) (a b : Clauses Query) : Prop :=
  ∀ slot, Rearranged (Query.Shifts (slot.direction wider)) (a.get slot) (b.get slot)

theorem Query.Shifts.refl (wider : Bool) (q : Query) : q.Shifts wider q := by
  cases wider <;> exact fun _ h => h

theorem Query.Shifts.trans {wider : Bool} {q r r' : Query} (h : q.Shifts wider r)
    (h' : r.Shifts wider r') : q.Shifts wider r' := by
  cases wider with
  | true => exact fun doc hdoc => h' doc (h doc hdoc)
  | false => exact fun doc hdoc => h doc (h' doc hdoc)

theorem Query.Shifts.flip {wider : Bool} {q r : Query} (h : q.Shifts wider r) :
    r.Shifts (!wider) q := by
  cases wider <;> exact h

namespace Clauses.Shifts

variable {wider : Bool} {a b : Clauses Query}

theorem refl (wider : Bool) (a : Clauses Query) : a.Shifts wider a :=
  fun _ => .of_perm (Query.Shifts.refl _) (.refl _)

theorem flip (h : a.Shifts wider b) : b.Shifts (!wider) a := by
  intro slot
  have hdirection : slot.direction (!wider) = !slot.direction wider := by
    unfold Slot.direction
    split <;> rfl
  rw [hdirection]
  exact (h slot).flip.imp fun _ _ hqr => hqr.flip

theorem concat {as bs : List (Clauses Query)} (h : Rearranged (Clauses.Shifts wider) as bs) :
    (Clauses.concat as).Shifts wider (Clauses.concat bs) :=
  rearranged_get_concat h

theorem only {slot : Slot} {qs rs : List Query}
    (h : Rearranged (Query.Shifts (slot.direction wider)) qs rs) :
    (Clauses.only slot qs).Shifts wider (Clauses.only slot rs) :=
  rearranged_get_only (R := fun slot => Query.Shifts (slot.direction wider)) h

/-- A composition selects more when more is selected by what it requires
and by its alternatives, and less by what it excludes. -/
theorem implies (h : a.Shifts true b) : (Query.bool a).Implies (.bool b) := by
  intro doc hdoc
  have hrequired : Rearranged Query.Implies (a.must ++ a.filter) (b.must ++ b.filter) :=
    (h .must).append (h .filter)
  have hexcluded : Rearranged (fun q r => r.Implies q) a.mustNot b.mustNot := h .mustNot
  have halternatives : Rearranged Query.Implies a.should b.should := h .should
  obtain ⟨hall, hnone, hsome⟩ := Query.selects_bool_iff.mp hdoc
  refine Query.selects_bool_iff.mpr ⟨fun r hr => ?_, ?_, fun hempty hshould => ?_⟩
  · obtain ⟨q, hq, hqr⟩ := hrequired.exists_of_mem_right hr
    exact hqr doc (hall q hq)
  · rintro ⟨r, hr, hselects⟩
    obtain ⟨q, hq, hrq⟩ := hexcluded.exists_of_mem_right hr
    exact hnone ⟨q, hq, hrq doc hselects⟩
  · -- The alternatives count on both sides, for the slots are empty together.
    obtain ⟨q, hq, hselects⟩ := hsome (hrequired.eq_nil_iff.mpr hempty)
      (mt halternatives.eq_nil_iff.mp hshould)
    obtain ⟨r, hr, hqr⟩ := halternatives.flip.exists_of_mem_right hq
    exact ⟨r, hr, hqr doc hselects⟩

theorem bool (h : a.Shifts wider b) : (Query.bool a).Shifts wider (.bool b) := by
  cases wider with
  | true => exact h.implies
  | false => exact h.flip.implies

end Clauses.Shifts

/-! ### Filters that are reworded -/

namespace Filter

/-- A condition on a field that may ask for words instead. -/
def MayAskForWords (m : String × Json) : Prop :=
  Text.isPattern m.1 = false ∧
    ∃ t, m.2 = .string t ∧ ∃ c ∈ t.toList, Text.isAlphanumeric c = true

/-- What a value inside a `bool` entry is read as. -/
inductive Place where
  | composition | slot | part

/-- Somewhere in the value one `term` has become a `match`, with the same
fields. For a wider composition it stands under an even number of `must_not`
slots, and under an odd number for a narrower one. -/
inductive Reworded : Place → (wider : Bool) → Json → Json → Prop where
  | term (before after : Entries Json) {fields : Entries Json}
      (each : ∀ m ∈ fields, MayAskForWords m) :
      Reworded .part true (.object (before ++ ("term", .object fields) :: after))
        (.object (before ++ ("match", .object fields) :: after))
  | bool {wider : Bool} (before after : Entries Json) {j j' : Json}
      (inside : Reworded .composition wider j j') :
      Reworded .part wider (.object (before ++ ("bool", j) :: after))
        (.object (before ++ ("bool", j') :: after))
  | alone {wider : Bool} {p p' : Json} (part : Reworded .part wider p p') :
      Reworded .slot wider p p'
  | item {wider : Bool} (before after : List Json) {p p' : Json}
      (part : Reworded .part wider p p') :
      Reworded .slot wider (.array (before ++ p :: after)) (.array (before ++ p' :: after))
  | slot {wider : Bool} (before after : Entries Json) (slot : Slot) {body body' : Json}
      (inside : Reworded .slot (slot.direction wider) body body') :
      Reworded .composition wider (.object (before ++ (slot.name, body) :: after))
        (.object (before ++ (slot.name, body') :: after))

/-- The second value is read when the first one is, and what it is read as
shifts. -/
def ReadingShifts : Place → (wider : Bool) → Json → Json → Prop
  | .composition, wider, j, j' =>
      ∀ c, composition j = .ok c → ∃ c', composition j' = .ok c' ∧ c.Shifts wider c'
  | .slot, wider, j, j' => ∀ key qs, slotParts key j = .ok qs →
      ∃ qs', slotParts key j' = .ok qs' ∧ Rearranged (Query.Shifts wider) qs qs'
  | .part, wider, j, j' => ∀ q, part j = .ok q → ∃ q', part j' = .ok q' ∧ q.Shifts wider q'

variable {s : Settings} {wider : Bool} {j j' : Json}

/-- A run over a list goes on as before when one item is replaced by
another one. -/
theorem exists_run_of_replaced {α β : Type} {P : α → β → Prop} {S : β → β → Prop}
    (hS : ∀ b, S b b) {before after : List α} {a : α} (a' : α) {bs : List β}
    (hbs : List.Forall₂ P (before ++ a :: after) bs)
    (hstep : ∀ b, P a b → ∃ b', P a' b' ∧ S b b') :
    ∃ bs', List.Forall₂ P (before ++ a' :: after) bs' ∧ Rearranged S bs bs' := by
  have hsame (as : List α) : List.Forall₂ (fun x y => x = y ∨ x = a ∧ y = a') as as :=
    List.forall₂_same.mpr fun _ _ => .inl rfl
  have hreplaced := List.rel_append (hsame before) (.cons (.inr ⟨rfl, rfl⟩) (hsame after))
  refine (Rearranged.of_forall₂ hreplaced).exists_forall₂ hbs fun x _ y b hxy hb => ?_
  rcases hxy with rfl | ⟨rfl, rfl⟩
  · exact ⟨b, hb, hS b⟩
  · exact hstep b hb

/-- A part selects more when its clauses do. -/
theorem implies_of_join {qs qs' : List Query} {q q' : Query}
    (h : Rearranged Query.Implies qs qs') (hq : join qs = .ok q) (hq' : join qs' = .ok q') :
    q.Implies q' := by
  intro doc hdoc
  refine (selects_join_iff hq' doc).mpr fun r' hr' => ?_
  obtain ⟨r, hr, himplies⟩ := h.exists_of_mem_right hr'
  exact himplies doc ((selects_join_iff hq doc).mp hdoc r hr)

/-- Clauses that shift are joined to a query that does. -/
theorem join_of_shifts {qs qs' : List Query} {q : Query}
    (h : Rearranged (Query.Shifts wider) qs qs') (hq : join qs = .ok q) :
    ∃ q', join qs' = .ok q' ∧ q.Shifts wider q' := by
  obtain ⟨q', hq'⟩ : ∃ q', join qs' = .ok q' :=
    exists_join_iff.mpr (mt h.eq_nil_iff.mpr (exists_join_iff.mp ⟨q, hq⟩))
  refine ⟨q', hq', ?_⟩
  cases wider with
  | true => exact implies_of_join h hq hq'
  | false => exact implies_of_join h.flip hq' hq

/-- One condition of a `term` that becomes a `match`. -/
theorem condition_of_reworded {m : String × Json} (hm : MayAskForWords m) {q : Query}
    (hq : Form.term.condition m.1 m.2 = .ok q) :
    ∃ q', Form.text.condition m.1 m.2 = .ok q' ∧ q.Shifts true q' := by
  obtain ⟨field, _⟩ := m
  obtain ⟨hfield, t, rfl, ht⟩ := hm
  obtain rfl : .term field (.text t) = q := Except.ok.inj hq
  exact ⟨.text field (.text t), rfl, fun _ => Query.selects_text_of_term hfield ht⟩

/-- All its conditions. -/
theorem conditions_of_reworded {fields : Entries Json} (hfields : ∀ m ∈ fields, MayAskForWords m)
    {qs : List Query} (hqs : conditions "term" (.object fields) = .ok qs) :
    ∃ qs', conditions "match" (.object fields) = .ok qs' ∧
      Rearranged (Query.Shifts true) qs qs' := by
  have hterm : List.Forall₂ (fun m q => Form.term.condition m.1 m.2 = .ok q) fields qs :=
    mapM_eq_ok_iff.mp hqs
  have hsame : Rearranged Eq fields fields := .of_perm (fun _ => rfl) (.refl fields)
  obtain ⟨qs', htext, hshifts⟩ := hsame.exists_forall₂
    (Q := fun m q => Form.text.condition m.1 m.2 = .ok q) hterm fun m hm _ q hmm' hq =>
      hmm' ▸ condition_of_reworded (hfields m hm) hq
  exact ⟨qs', mapM_eq_ok_iff.mpr htext, hshifts⟩

/-- A part is reworded with one of its forms, if that has clauses as before. -/
theorem part_of_form {before after : Entries Json} {key key' : String} {q : Query}
    (hform : ∀ qs, formClauses key j = .ok qs →
      ∃ qs', formClauses key' j' = .ok qs' ∧ Rearranged (Query.Shifts wider) qs qs')
    (hq : part (.object (before ++ (key, j) :: after)) = .ok q) :
    ∃ q', part (.object (before ++ (key', j') :: after)) = .ok q' ∧ q.Shifts wider q' := by
  obtain ⟨_, qss, hforms, hqss, hjoin⟩ := part_eq_ok_iff.mp hq
  cases hforms
  obtain ⟨qss', hqss', hshifts⟩ := exists_run_of_replaced
    (fun _ => .of_perm (Query.Shifts.refl wider) (.refl _)) (key', j') hqss hform
  obtain ⟨q', hq', hshift⟩ := join_of_shifts hshifts.flatten hjoin
  exact ⟨q', part_eq_ok_iff.mpr ⟨_, qss', rfl, hqss', hq'⟩, hshift⟩

/-- A composition shifts with one of its slots. -/
theorem slotEntry_of_shifts {slot : Slot} (h : ReadingShifts .slot (slot.direction wider) j j')
    {c : Clauses Query} (hc : slotEntry slot.name j = .ok c) :
    ∃ c', slotEntry slot.name j' = .ok c' ∧ c.Shifts wider c' := by
  obtain ⟨slot', qs, hname, hqs, rfl⟩ := slotEntry_eq_ok_iff.mp hc
  obtain rfl := Slot.name_injective hname
  obtain ⟨qs', hqs', hshifts⟩ := h slot.name qs hqs
  exact ⟨_, slotEntry_eq_ok_iff.mpr ⟨slot, qs', rfl, hqs', rfl⟩, .only hshifts⟩

/-- Rewording shifts what is read, all the way up. -/
theorem Reworded.readingShifts {place : Place} (h : Reworded place wider j j') :
    ReadingShifts place wider j j' := by
  -- On the derivation: up from the form that changes, through its part and the
  -- slot of that, to the composition; which may be a form of a part again.
  induction h with
  | term before after each =>
      intro q hq
      refine part_of_form (fun qs hqs => ?_) hq
      exact conditions_of_reworded each hqs
  | bool before after _ ih =>
      intro q hq
      refine part_of_form (fun qs hqs => ?_) hq
      obtain ⟨c, hc, rfl⟩ := map_eq_ok_iff.mp hqs
      obtain ⟨c', hc', hshifts⟩ := ih c hc
      exact ⟨_, map_eq_ok_iff.mpr ⟨c', hc', rfl⟩, .of_forall₂ (.cons hshifts.bool .nil)⟩
  | alone part ih =>
      intro key qs hqs
      rcases slotParts_eq_ok_iff.mp hqs with ⟨parts, rfl, -⟩ | ⟨q, hq, rfl⟩
      · cases part
      · obtain ⟨q', hq', hshifts⟩ := ih q hq
        exact ⟨[q'], slotParts_eq_ok_iff.mpr (.inr ⟨q', hq', rfl⟩),
          .of_forall₂ (.cons hshifts .nil)⟩
  | item before after _ ih =>
      intro key qs hqs
      rcases slotParts_eq_ok_iff.mp hqs with ⟨_, hparts, hqs⟩ | ⟨q, hq, -⟩
      · cases hparts
        obtain ⟨qs', hqs', hshifts⟩ := exists_run_of_replaced (Query.Shifts.refl _) _ hqs ih
        exact ⟨qs', slotParts_eq_ok_iff.mpr (.inl ⟨_, rfl, hqs'⟩), hshifts⟩
      · cases hq
  | @slot wider before after slot body body' _ ih =>
      intro c hc
      obtain ⟨_, cs, hslots, hcs, rfl⟩ := composition_eq_ok_iff.mp hc
      cases hslots
      obtain ⟨cs', hcs', hshifts⟩ := exists_run_of_replaced (Clauses.Shifts.refl wider)
        (slot.name, body') hcs fun c hc => slotEntry_of_shifts ih hc
      exact ⟨_, composition_eq_ok_iff.mpr ⟨_, cs', rfl, hcs', rfl⟩, .concat hshifts⟩

/-- A filter shifts with its `bool` entry, whatever other entries it has. -/
theorem compile_of_readingShifts {before after : Filter}
    (h : ReadingShifts .composition wider j j') {q : Query}
    (hq : compile s (before ++ ("bool", j) :: after) = .ok q) :
    ∃ q', compile s (before ++ ("bool", j') :: after) = .ok q' ∧ q.Shifts wider q' := by
  obtain ⟨c, hc, rfl⟩ := compile_eq_ok_iff.mp hq
  obtain ⟨cs, hcs, rfl⟩ := clauses_eq_ok_iff.mp hc
  obtain ⟨cs', hcs', hshifts⟩ := exists_run_of_replaced (Clauses.Shifts.refl wider)
    ("bool", j') hcs h
  exact ⟨_, compile_eq_ok_iff.mpr ⟨_, clauses_eq_ok_iff.mpr ⟨cs', hcs', rfl⟩, rfl⟩,
    (Clauses.Shifts.concat hshifts).bool⟩

/-- The same for any number of steps. -/
theorem compile_of_steps {before after : Filter}
    (h : Relation.ReflTransGen (Reworded .composition wider) j j') {q : Query}
    (hq : compile s (before ++ ("bool", j) :: after) = .ok q) :
    ∃ q', compile s (before ++ ("bool", j') :: after) = .ok q' ∧ q.Shifts wider q' := by
  induction h with
  | refl => exact ⟨q, hq, .refl wider q⟩
  | tail _ hstep ih =>
      obtain ⟨r, hr, hqr⟩ := ih
      obtain ⟨q', hq', hrq'⟩ := compile_of_readingShifts hstep.readingShifts hr
      exact ⟨q', hq', hqr.trans hrq'⟩

/-- **Asking for words finds what asking for a text finds.** On a field
that is no pattern, a text that has a word is found by its words wherever it
is found as such. For any scalar the condition on words looks at the texts
among the leaves of the field, and at nothing else. So a filter in whose
`bool` entry any number of `term` conditions on texts become `match`
conditions compiles as before, and it loses no document if they all stand
under an even number of `must_not` slots; if they all stand under an odd
number, it gains none. -/
theorem implies_of_reworded :
    (∀ (doc : Document) (field t : String), Text.isPattern field = false →
      (∃ c ∈ t.toList, Text.isAlphanumeric c = true) →
      (Query.term field (.text t)).selects doc = true →
      (Query.text field (.text t)).selects doc = true) ∧
    (∀ (doc : Document) (field : String) (v : Scalar), Text.isPattern field = false →
      ((Query.text field v).selects doc = true ↔ ∃ s, .string s ∈ doc.leaves field ∧
        ∃ word ∈ Text.words s, word ∈ Text.words v.render)) ∧
    ∀ (s : Settings) (before after : Filter) (j j' : Json) (q : Query),
      compile s (before ++ ("bool", j) :: after) = .ok q →
      (Relation.ReflTransGen (Reworded .composition true) j j' →
        ∃ q', compile s (before ++ ("bool", j') :: after) = .ok q' ∧
          ∀ doc, q.selects doc = true → q'.selects doc = true) ∧
      (Relation.ReflTransGen (Reworded .composition false) j j' →
        ∃ q', compile s (before ++ ("bool", j') :: after) = .ok q' ∧
          ∀ doc, q'.selects doc = true → q.selects doc = true) := by
  refine ⟨fun _ _ _ hfield ht => Query.selects_text_of_term hfield ht,
    fun _ _ _ hfield => Query.selects_text_iff_of_not_isPattern hfield,
    fun s before after j j' q hq => ⟨fun h => ?_, fun h => ?_⟩⟩
  · exact compile_of_steps h hq
  · exact compile_of_steps h hq

/-- A composition with two conditions on texts, one of them under two
`must_not` slots, in the given forms. -/
def carComposition (outer inner : String) : Json :=
  .object
    [("filter", .array [.object [(outer, .object [("color", .string "red")])]]),
    ("must_not", .object [("bool", .object
      [("must_not", .object [(inner, .object [("tags", .string "Fast Car")])])])])]

theorem reworded_carComposition :
    Relation.ReflTransGen (Reworded .composition true) (carComposition "term" "term")
      (carComposition "match" "match") := by
  have hcolor : MayAskForWords ("color", .string "red") :=
    ⟨by decide, _, rfl, 'r', by decide, by decide⟩
  have htags : MayAskForWords ("tags", .string "Fast Car") :=
    ⟨by decide, _, rfl, 'F', by decide, by decide⟩
  have houter : Reworded .composition true (carComposition "term" "term")
      (carComposition "match" "term") :=
    .slot [] _ .filter (.item [] [] (.term [] [] (List.forall_mem_singleton.mpr hcolor)))
  have hinner : Reworded .composition true (carComposition "match" "term")
      (carComposition "match" "match") :=
    .slot [_] [] .mustNot (.alone (.bool [] [] (.slot [] [] .mustNot
      (.alone (.term [] [] (List.forall_mem_singleton.mpr htags))))))
  exact (Relation.ReflTransGen.single houter).tail hinner

/-- A composition that excludes a text, in the given form. -/
def exclusionComposition (form : String) : Json :=
  .object [("must_not", .array [.object [(form, .object [("title", .string "a")])]])]

theorem reworded_exclusionComposition :
    Relation.ReflTransGen (Reworded .composition false) (exclusionComposition "term")
      (exclusionComposition "match") := by
  have htitle : MayAskForWords ("title", .string "a") :=
    ⟨by decide, _, rfl, 'a', by decide, by decide⟩
  exact .single (.slot [] [] .mustNot
    (.item [] [] (.term [] [] (List.forall_mem_singleton.mpr htitle))))

/-- The reworded filter finds the document that the other one finds, and one
in which the words are written differently. A reworded exclusion finds no
document but what the other one finds. -/
theorem implies_of_reworded_cars :
    let found : Document := [("color", .string "red"), ("tags", .array [.string "Fast Car"])]
    let added : Document := [("color", .string "dark red"), ("tags", .array [.string "fast"])]
    (Query.text "tags" (.text "Fast Car")).selects found = true ∧
    (∃ q q', compile {} [("bool", carComposition "term" "term")] = .ok q ∧
      compile {} [("bool", carComposition "match" "match")] = .ok q' ∧
      q.selects found = true ∧ q'.selects found = true ∧
      q.selects added = false ∧ q'.selects added = true) ∧
    ∃ q q', compile {} [("bool", exclusionComposition "term")] = .ok q ∧
      compile {} [("bool", exclusionComposition "match")] = .ok q' ∧
      q'.selects [("title", .string "b")] = true ∧ q.selects [("title", .string "b")] = true := by
  intro found added
  obtain ⟨htext, -, hfilter⟩ := implies_of_reworded
  obtain ⟨r, hr, hwider⟩ := (hfilter {} [] [] _ _ _ rfl).1 reworded_carComposition
  obtain ⟨r', hr', hnarrower⟩ := (hfilter {} [] [] _ _ _ rfl).2 reworded_exclusionComposition
  refine ⟨?_, ⟨_, r, rfl, hr, by decide +kernel, ?_, by decide +kernel, ?_⟩,
    ⟨_, r', rfl, hr', ?_, hnarrower _ ?_⟩⟩
  · exact htext found "tags" "Fast Car" (by decide) ⟨'F', by decide, by decide⟩
      (by decide +kernel)
  · exact hwider found (by decide +kernel)
  · cases hr
    decide +kernel
  · cases hr'
    decide +kernel
  · cases hr'
    decide +kernel

/-- A number is found as such and not by what it is written as; and excluding
a text by its words also excludes other texts. -/
theorem not_selects_text_of_term :
    (¬∀ (doc : Document) (field : String) (v : Scalar), Text.isPattern field = false →
      (∃ c ∈ v.render.toList, Text.isAlphanumeric c = true) →
      (Query.term field v).selects doc = true → (Query.text field v).selects doc = true) ∧
    ∃ q q', compile {} [("bool", exclusionComposition "term")] = .ok q ∧
      compile {} [("bool", exclusionComposition "match")] = .ok q' ∧
      q.selects [("title", .string "a b")] = true ∧
      q'.selects [("title", .string "a b")] = false := by
  refine ⟨fun h => ?_, _, _, rfl, rfl, by decide +kernel, by decide +kernel⟩
  have hfound := h [("n", .integer 5)] "n" (.integer 5) (by decide)
    ⟨'5', by decide +kernel, by decide⟩ (by decide +kernel)
  have hmissed : (Query.text "n" (.integer 5)).selects [("n", .integer 5)] = false := by
    decide +kernel
  exact Bool.false_ne_true (hmissed.symm.trans hfound)

end Filter

end FacetedSearch
