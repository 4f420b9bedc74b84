import DagAccess.Principal

/-!
# Order in sets of names

How operations on sets of names act on the order of the names. Names that are new and do not repeat
are added at the end as they stand (`toList_insertAll`), so a set is made again from its own names
in their order (`ofList_toList`).
-/

namespace DagAccess.PrincipalSet

/-- Sets with the same names in the same order are equal. -/
theorem eq_of_toList {s t : PrincipalSet} (h : s.toList = t.toList) : s = t := by
  obtain ⟨names, _⟩ := s
  obtain ⟨others, _⟩ := t
  cases h
  rfl

theorem eq_empty_of_isEmpty {s : PrincipalSet} (h : s.isEmpty = true) : s = ∅ :=
  eq_of_toList (List.isEmpty_iff.mp h)

theorem insertAll_cons (s : PrincipalSet) (name : String) (names : List String) :
    s.insertAll (name :: names) = (s.insert name).insertAll names := rfl

/-- Names that are new and do not repeat come last, in their order. -/
theorem toList_insertAll {names : List String} (distinct : names.Nodup) (s : PrincipalSet)
    (new : ∀ name ∈ names, name ∉ s) : (s.insertAll names).toList = s.toList ++ names := by
  induction names generalizing s with
  | nil => simp [insertAll]
  | cons name rest ih =>
    obtain ⟨fresh, distinct⟩ := List.nodup_cons.mp distinct
    have added : (s.insert name).toList = s.toList ++ [name] := by
      rw [toList_insert, if_neg (new name List.mem_cons_self)]
    have stillNew : ∀ other ∈ rest, other ∉ s.insert name := by
      intro other later there
      rcases mem_insert.mp there with old | rfl
      · exact new other (List.mem_cons_of_mem _ later) old
      · exact fresh later
    rw [insertAll_cons, ih distinct (s.insert name) stillNew, added, List.append_assoc,
      List.singleton_append]

@[simp]
theorem ofList_toList (s : PrincipalSet) : ofList s.toList = s := by
  apply eq_of_toList
  rw [ofList, toList_insertAll s.nodup ∅ (fun name _ => not_mem_empty name)]
  rfl

@[simp]
theorem empty_union (s : PrincipalSet) : (∅ : PrincipalSet).union s = s := ofList_toList s

/-- There are names, none twice, and all are of one kind. -/
structure Filled (kind : String → Prop) (s : PrincipalSet) : Prop where
  nonempty : s.toList ≠ []
  distinct : s.toList.Nodup
  named : ∀ name ∈ s, kind name

theorem filled_of_isEmpty {kind : String → Prop} {s : PrincipalSet} (nonempty : ¬ s.isEmpty = true)
    (named : ∀ name ∈ s, kind name) : s.Filled kind :=
  ⟨fun empty => nonempty (List.isEmpty_iff.mpr empty), s.nodup, named⟩

/-- A set of names stays one if it is united with another one; the first one may be empty. -/
theorem Filled.union {kind : String → Prop} {s t : PrincipalSet} (first : s = ∅ ∨ s.Filled kind)
    (second : t.Filled kind) : (s.union t).Filled kind := by
  refine ⟨?_, (s.union t).nodup, ?_⟩
  · obtain ⟨name, listed⟩ := List.exists_mem_of_ne_nil t.toList second.nonempty
    have united : name ∈ s.union t := mem_union.mpr (.inr listed)
    exact List.ne_nil_of_mem united
  · intro name united
    rcases mem_union.mp united with old | new
    · rcases first with rfl | filled
      · exact absurd old (not_mem_empty name)
      · exact filled.named name old
    · exact second.named name new

end DagAccess.PrincipalSet
