import DagAccess.Proofs.Logging.Tagging
import Mathlib.Data.List.TakeDrop
import Mathlib.Data.List.TakeWhile

/-!
# Sections by kind and name

The section of a kind that has a name is found by the two together (`section?`), and its options do
not depend on where it stands. A document is `Distinct` if no section stands twice and none that
counts for a kind has an empty name after its underscore. Then the sections of a kind have different
names, and for each name the section that is found is the one that counts (`mem_sectionsOf`,
`lookup_sectionsOf`), in whichever order they stand (`section?_of_perm`).
-/

namespace DagAccess

/-! ## Cutting -/

namespace Text

variable {sep : Char} {before : List Char}

theorem not_sep_of_not_mem (absent : sep ∉ before) : ∀ c ∈ before, decide (c ≠ sep) = true := by
  intro c hc
  rw [decide_eq_true_eq]
  rintro rfl
  exact absent hc

theorem cut_of_not_mem (absent : sep ∉ before) : cut sep before = (before, none) := by
  have all := not_sep_of_not_mem absent
  rw [cut, List.span_eq_takeWhile_dropWhile, List.takeWhile_eq_self_iff.mpr all,
    List.dropWhile_eq_nil_iff.mpr all]

theorem cut_append (absent : sep ∉ before) (after : List Char) :
    cut sep (before ++ sep :: after) = (before, some after) := by
  have all := not_sep_of_not_mem absent
  rw [cut, List.span_eq_takeWhile_dropWhile, List.takeWhile_append_of_pos all,
    List.dropWhile_append_of_pos all]
  simp

end Text

namespace Logging

open Ini (Document Entries)

variable {d e : Document} {kind name section_ : String} {options : Entries}

/-- The kinds of sections that are applied. -/
def kinds : List String := ["formatter", "handler", "logger"]

theorem clean_of_mem_kinds (known : kind ∈ kinds) : '_' ∉ kind.toList := by
  have all : ∀ kind ∈ kinds, '_' ∉ kind.toList := by decide
  exact all kind known

/-- The name of the section of a kind with a name. An empty name is that of a section without an
underscore. -/
def sectionName (kind name : String) : String :=
  if name = "" then kind else kind ++ "_" ++ name

/-- The options of the section of a kind with a name. -/
def section? (d : Document) (kind name : String) : Option Entries :=
  if d.hasSection (sectionName kind name) then some (d.items (sectionName kind name)) else none

theorem isSome_section? (d : Document) (kind name : String) :
    (section? d kind name).isSome = d.hasSection (sectionName kind name) := by
  unfold section?
  cases d.hasSection (sectionName kind name) <;> rfl

/-- No section stands twice, and those of a kind that is applied have a name after the
underscore. -/
structure Distinct (d : Document) : Prop where
  once : (d.sections.map Prod.fst).Nodup
  named : ∀ kind ∈ kinds, d.hasSection (kind ++ "_") = false

/-! ## Names of sections -/

theorem splitSection_eq_iff (clean : '_' ∉ kind.toList) :
    splitSection section_ = (kind, name) ↔ section_ = kind ++ "_" ++ name ∨ section_ = kind ∧
    name = "" := by
  constructor
  · intro split
    by_cases there : '_' ∈ section_.toList
    · obtain ⟨before, after, whole, absent⟩ := List.eq_append_cons_of_mem there
      rw [splitSection, whole, Text.cut_append absent] at split
      obtain ⟨rfl, rfl⟩ := Prod.mk.inj split
      left
      rw [← String.toList_inj, whole]
      simp
    · rw [splitSection, Text.cut_of_not_mem there] at split
      obtain ⟨same, none⟩ := Prod.mk.inj split
      exact .inr ⟨by rw [← same, String.ofList_toList], none.symm⟩
  · rintro (rfl | ⟨rfl, rfl⟩)
    · have whole : (kind ++ "_" ++ name).toList = kind.toList ++ '_' :: name.toList := by simp
      rw [splitSection, whole, Text.cut_append clean]
      simp
    · rw [splitSection, Text.cut_of_not_mem clean]
      simp

theorem Distinct.splitSection_iff (distinct : Distinct d) (known : kind ∈ kinds)
    (there : d.hasSection section_ = true) :
    splitSection section_ = (kind, name) ↔ section_ = sectionName kind name := by
  rw [splitSection_eq_iff (clean_of_mem_kinds known), sectionName]
  by_cases nameless : name = ""
  · have other : section_ ≠ kind ++ "_" ++ name := by
      rintro rfl
      rw [nameless, String.append_empty, distinct.named kind known] at there
      cases there
    rw [if_pos nameless]
    exact ⟨fun either => (either.resolve_left other).1, fun same => .inr ⟨same, nameless⟩⟩
  · rw [if_neg nameless]
    exact ⟨fun either => either.resolve_right fun both => nameless both.2, .inl⟩

theorem hasSection_iff : d.hasSection section_ = true ↔ ∃ s ∈ d.sections, s.1 = section_ := by
  simp [Document.hasSection]

/-! ## The sections of a kind -/

theorem mem_sectionsOf : (name, options) ∈ sectionsOf d kind ↔
    ∃ s ∈ d.sections, splitSection s.1 = (kind, name) ∧ d.items s.1 = options := by
  unfold sectionsOf
  rw [List.mem_filterMap]
  refine exists_congr fun s => and_congr_right fun _ => ?_
  rcases splitSection s.1 with ⟨k, n⟩
  by_cases same : k = kind
  · simp [same]
  · simp [same]

theorem Distinct.mem_sectionsOf (distinct : Distinct d) (known : kind ∈ kinds) :
    (name, options) ∈ sectionsOf d kind ↔ section? d kind name = some options := by
  rw [Logging.mem_sectionsOf, section?]
  constructor
  · rintro ⟨s, listed, split, rfl⟩
    have there : d.hasSection s.1 = true := hasSection_iff.mpr ⟨s, listed, rfl⟩
    have same := (distinct.splitSection_iff known there).mp split
    rw [← same, if_pos there]
  · intro found
    split at found
    · next there =>
      obtain ⟨s, listed, same⟩ := hasSection_iff.mp there
      rw [← same] at there
      refine ⟨s, listed, (distinct.splitSection_iff known there).mpr same, ?_⟩
      rw [same]
      exact Option.some.inj found
    · cases found

theorem Distinct.nodup_sectionsOf (distinct : Distinct d) (known : kind ∈ kinds) :
    ((sectionsOf d kind).map Prod.fst).Nodup := by
  have apart : d.sections.Pairwise fun s t => s.1 ≠ t.1 := List.pairwise_map.mp distinct.once
  rw [List.Nodup, List.pairwise_map, sectionsOf, List.pairwise_filterMap]
  refine List.Pairwise.imp_of_mem (fun {s t} hs ht other => ?_) apart
  rcases first : splitSection s.1 with ⟨k, n⟩
  rcases second : splitSection t.1 with ⟨l, m⟩
  simp only
  intro u hu v hv same
  split at hu
  · split at hv
    · next first' second' =>
      subst first' second'
      cases hu
      cases hv
      rw [distinct.splitSection_iff known (hasSection_iff.mpr ⟨s, hs, rfl⟩)] at first
      rw [distinct.splitSection_iff known (hasSection_iff.mpr ⟨t, ht, rfl⟩)] at second
      obtain rfl : n = m := same
      exact other (first.trans second.symm)
    · cases hv
  · cases hu

/-! ## Entries under names -/

section collect

variable {α : Type} {es : List (String × α)} {n : String}

theorem isSome_lookup_collect (there : n ∈ es.map Prod.fst) :
    ((collect es).lookup n).isSome = true := by
  have step : ∀ (es fs : List (String × α)), n ∈ es.map Prod.fst ∨ (fs.lookup n).isSome = true →
      ((es.foldl (fun fs e => Assoc.put e.1 e.2 fs) fs).lookup n).isSome = true := by
    intro es
    induction es with
    | nil => exact fun fs either => either.resolve_left List.not_mem_nil
    | cons e rest ih =>
      intro fs either
      refine ih _ ?_
      rw [Assoc.lookup_put]
      by_cases same : n = e.1
      · exact .inr (by rw [if_pos (beq_iff_eq.mpr same)]; rfl)
      · rw [beq_false_of_ne same, if_neg Bool.false_ne_true]
        exact either.imp_left fun listed => (List.mem_cons.mp listed).resolve_left same
  exact step es [] (.inl there)

/-- Where no name is given twice, all entries count. -/
theorem lookup_collect_of_nodup (distinct : (es.map Prod.fst).Nodup) (n : String) :
    (collect es).lookup n = es.lookup n := by
  refine Option.ext fun a =>
    ⟨fun found => Assoc.lookup_of_mem distinct (lookup_collect found), fun found => ?_⟩
  have listed : n ∈ es.map Prod.fst := List.mem_map_of_mem (Assoc.mem_of_lookup found)
  obtain ⟨b, counts⟩ := Option.isSome_iff_exists.mp (isSome_lookup_collect listed)
  rw [counts, ← found, Assoc.lookup_of_mem distinct (lookup_collect counts)]

end collect

theorem Distinct.lookup_sectionsOf (distinct : Distinct d) (known : kind ∈ kinds) (name : String) :
    (sectionsOf d kind).lookup name = section? d kind name := by
  refine Option.ext fun options => ⟨fun found => ?_, fun found => ?_⟩
  · exact (distinct.mem_sectionsOf known).mp (Assoc.mem_of_lookup found)
  · exact Assoc.lookup_of_mem (distinct.nodup_sectionsOf known)
      ((distinct.mem_sectionsOf known).mpr found)

/-! ## Sections in another order -/

section order

variable (distinct : Distinct d) (order : e.sections.Perm d.sections)
include distinct order

theorem hasSection_of_perm (name : String) : e.hasSection name = d.hasSection name := by
  rw [Document.hasSection_eq, Document.hasSection_eq, Assoc.lookup_perm distinct.once order]

theorem Distinct.of_perm : Distinct e where
  once := (order.map Prod.fst).nodup_iff.mpr distinct.once
  named kind known := (hasSection_of_perm distinct order _).trans (distinct.named kind known)

variable (defaults : e.defaults = d.defaults)
include defaults

theorem items_of_perm (name : String) : e.items name = d.items name := by
  rw [Document.items, Document.items, defaults, Assoc.lookup_perm distinct.once order]

/-- Each name has the same section. -/
theorem section?_of_perm : section? e = section? d := by
  funext kind name
  simp only [section?, hasSection_of_perm distinct order, items_of_perm distinct order defaults]

end order

end Logging

end DagAccess
