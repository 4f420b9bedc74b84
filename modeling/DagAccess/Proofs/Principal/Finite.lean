import DagAccess.Principal.Pool
import DagAccess.Proofs.Principal
import Mathlib.Data.Finset.Card
import Mathlib.Data.Finset.SymmDiff

/-!
# Sets of names as finite sets

`toFinset` forgets the order of a set of names. Every operation is seen through it as the operation
of mathematical finite sets, combinations (`toFinset_combine`, `toFinset_combineInPlace`) and
comparisons (`compare_iff`) included; the comparisons count names, which no set holds twice
(`size_eq_card`). What forgetting leaves out is said by `Follows`: the names that stay keep their
order, and new ones come in the order in which they were first given (`follows_combine`,
`follows_combineInPlace`).
-/

namespace DagAccess.PrincipalSet

variable {s t : PrincipalSet} {name : String} {names : List String}

/-- The names without their order. -/
def toFinset (s : PrincipalSet) : Finset String :=
  s.toList.toFinset

@[simp]
theorem mem_toFinset : name ∈ s.toFinset ↔ name ∈ s :=
  List.mem_toFinset

theorem size_eq_card (s : PrincipalSet) : s.size = s.toFinset.card :=
  (List.toFinset_card_of_nodup s.nodup).symm

/-! ## Operations -/

@[simp]
theorem toFinset_empty : (∅ : PrincipalSet).toFinset = ∅ := rfl

theorem toFinset_eq_empty_iff : s.toFinset = ∅ ↔ s.toList = [] :=
  List.toFinset_eq_empty_iff s.toList

@[simp]
theorem toFinset_insert (s : PrincipalSet) (name : String) :
    (s.insert name).toFinset = Insert.insert name s.toFinset := by
  ext other
  simp only [mem_toFinset, mem_insert, Finset.mem_insert]
  exact or_comm

@[simp]
theorem toFinset_erase (s : PrincipalSet) (name : String) :
    (s.erase name).toFinset = s.toFinset.erase name := by
  ext other
  simp only [mem_toFinset, mem_erase, Finset.mem_erase]
  exact and_comm

@[simp]
theorem toFinset_insertAll (s : PrincipalSet) (names : List String) :
    (s.insertAll names).toFinset = s.toFinset ∪ names.toFinset := by
  ext other
  simp only [mem_toFinset, mem_insertAll, Finset.mem_union, List.mem_toFinset]

@[simp]
theorem toFinset_ofList (names : List String) : (ofList names).toFinset = names.toFinset := by
  rw [ofList, toFinset_insertAll, toFinset_empty, Finset.empty_union]

/-! ## Order -/

theorem insertAll_append_singleton (s : PrincipalSet) (names : List String) (name : String) :
    s.insertAll (names ++ [name]) = (s.insertAll names).insert name := by
  simp only [insertAll, List.foldl_append, List.foldl_cons, List.foldl_nil]

/-- The last name counts only if it was not given before. -/
theorem eraseDups_append_singleton (names : List String) (name : String) :
    (names ++ [name]).eraseDups =
      if name ∈ names then names.eraseDups else names.eraseDups ++ [name] := by
  rw [List.eraseDups_append]
  by_cases given : name ∈ names
  · have again : [name].removeAll names = [] := by simp [List.removeAll, given]
    rw [if_pos given, again, List.eraseDups_nil, List.append_nil]
  · have once : [name].removeAll names = [name] := by simp [List.removeAll, given]
    rw [if_neg given, once]
    rfl

theorem eraseDups_filter (names : List String) (keep : String → Bool) :
    (names.filter keep).eraseDups = names.eraseDups.filter keep := by
  induction names using List.reverseRecOn with
  | nil => rfl
  | append_singleton names name ih =>
    rw [List.filter_append, eraseDups_append_singleton]
    by_cases kept : keep name = true
    · rw [List.filter_cons_of_pos kept, List.filter_nil, eraseDups_append_singleton, ih]
      simp only [List.mem_filter, kept, and_true]
      split
      · rfl
      · rw [List.filter_append, List.filter_cons_of_pos kept, List.filter_nil]
    · rw [List.filter_cons_of_neg kept, List.filter_nil, List.append_nil, ih]
      split
      · rfl
      · rw [List.filter_append, List.filter_cons_of_neg kept, List.filter_nil, List.append_nil]

/-- Names are added behind those that are there, each where it is first given. -/
theorem toList_insertAll_eq (s : PrincipalSet) (names : List String) :
    (s.insertAll names).toList = s.toList ++ names.eraseDups.filter (· ∉ s) := by
  induction names using List.reverseRecOn with
  | nil => simp [insertAll]
  | append_singleton names name ih =>
    rw [insertAll_append_singleton, toList_insert, ih, eraseDups_append_singleton]
    simp only [mem_insertAll]
    by_cases given : name ∈ names
    · rw [if_pos given, if_pos (.inr given)]
    · rw [if_neg given, List.filter_append]
      by_cases there : name ∈ s
      · rw [if_pos (.inl there), List.filter_cons_of_neg (by simp [there]), List.filter_nil,
          List.append_nil]
      · rw [if_neg (fun either => either.elim there given),
          List.filter_cons_of_pos (by simp [there]),
          List.filter_nil, List.append_assoc]

theorem toList_ofList (names : List String) : (ofList names).toList = names.eraseDups := by
  rw [ofList, toList_insertAll_eq, toList_empty, List.nil_append, List.filter_eq_self]
  simp

theorem eraseDups_toList (s : PrincipalSet) : s.toList.eraseDups = s.toList := by
  rw [← toList_ofList, ofList_toList]

theorem toList_erase (s : PrincipalSet) (name : String) :
    (s.erase name).toList = s.toList.filter (· ≠ name) := rfl

theorem toList_eraseAll (s : PrincipalSet) (names : List String) :
    (s.eraseAll names).toList = s.toList.filter (· ∉ names) := by
  induction names generalizing s with
  | nil => simp [eraseAll]
  | cons name rest ih =>
    have first : s.eraseAll (name :: rest) = (s.erase name).eraseAll rest := rfl
    rw [first, ih, toList_erase, List.filter_filter]
    refine List.filter_congr fun other _ => ?_
    simp [Bool.and_comm]

/-- Of names that do not repeat, those that are there are removed and the others added. -/
theorem toList_toggleAll (distinct : names.Nodup) (s : PrincipalSet) :
    (s.toggleAll names).toList = s.toList.filter (· ∉ names) ++ names.filter (· ∉ s) := by
  induction names generalizing s with
  | nil => simp [toggleAll]
  | cons name rest ih =>
    obtain ⟨once, distinct⟩ := List.nodup_cons.mp distinct
    have first : s.toggleAll (name :: rest) = (s.toggle name).toggleAll rest := rfl
    -- toggling a name does not change for the later ones whether they are there
    have later : rest.filter (· ∉ s.toggle name) = rest.filter (· ∉ s) := by
      refine List.filter_congr fun other behind => ?_
      have different : other ≠ name := fun same => once (same ▸ behind)
      unfold toggle
      split <;> simp [different]
    rw [first, ih distinct, later, toggle]
    by_cases there : name ∈ s
    · rw [if_pos there, toList_erase, List.filter_filter, List.filter_cons_of_neg (by simp [there])]
      congr 1
      refine List.filter_congr fun other _ => ?_
      simp [Bool.and_comm]
    · have kept : s.toList.filter (· ∉ rest) = s.toList.filter (· ∉ name :: rest) := by
        refine List.filter_congr fun other inside => ?_
        have different : other ≠ name := fun same => there (same ▸ inside)
        simp [different]
      have own : [name].filter (· ∉ rest) = [name] := List.filter_cons_of_pos (by simp [once])
      have added : (name :: rest).filter (· ∉ s) = [name] ++ rest.filter (· ∉ s) :=
        List.filter_cons_of_pos (by simp [there])
      rw [if_neg there, toList_insert, if_neg there, List.filter_append, kept, own, added,
        List.append_assoc]

/-- The names that stay keep their order, and new ones follow in the order in which they were first
given. -/
def Follows (before given after : List String) : Prop :=
  after = before.filter (· ∈ after) ++ given.eraseDups.filter fun name =>
    name ∈ after ∧ name ∉ before

theorem follows_of_eq {before given after : List String} {stays comes : String → Bool}
    (whole : after = before.filter stays ++ given.eraseDups.filter comes)
    (new : ∀ name ∈ given, comes name = true → name ∉ before) : Follows before given after := by
  have mem_after : ∀ name, name ∈ after ↔
      name ∈ before ∧ stays name = true ∨ name ∈ given ∧ comes name = true := by
    intro name
    rw [whole, List.mem_append, List.mem_filter, List.mem_filter, List.mem_eraseDups]
  have old : before.filter (· ∈ after) = before.filter stays := by
    refine List.filter_congr fun name inside => ?_
    have stayed : name ∈ after ↔ stays name = true := by
      rw [mem_after]
      constructor
      · rintro (⟨-, kept⟩ | ⟨listed, added⟩)
        · exact kept
        · exact absurd inside (new name listed added)
      · exact fun kept => .inl ⟨inside, kept⟩
    simp [stayed]
  have added : (given.eraseDups.filter fun name => name ∈ after ∧ name ∉ before) =
      given.eraseDups.filter comes := by
    refine List.filter_congr fun name listed => ?_
    have listed := List.mem_eraseDups.mp listed
    have came : (name ∈ after ∧ name ∉ before) ↔ comes name = true := by
      rw [mem_after]
      constructor
      · rintro ⟨⟨inside, -⟩ | ⟨-, yes⟩, outside⟩
        · exact absurd inside outside
        · exact yes
      · exact fun yes => ⟨.inr ⟨listed, yes⟩, new name listed yes⟩
    simp only [came, Bool.decide_eq_true]
  rw [Follows, old, added]
  exact whole

theorem follows_insertAll (s : PrincipalSet) (names : List String) :
    Follows s.toList names (s.insertAll names).toList := by
  have whole : (s.insertAll names).toList =
      s.toList.filter (fun _ => true) ++ names.eraseDups.filter (· ∉ s) := by
    rw [toList_insertAll_eq, List.filter_true]
  refine follows_of_eq whole fun name _ new => ?_
  simpa using new

theorem follows_insert (s : PrincipalSet) (name : String) :
    Follows s.toList [name] (s.insert name).toList :=
  follows_insertAll s [name]

/-- Where names are only taken out of a set, nothing has to be given. -/
theorem follows_filter (s : PrincipalSet) (keep : String → Bool) (given : List String) :
    Follows s.toList given (s.filter keep).toList := by
  have whole : (s.filter keep).toList = s.toList.filter keep ++
      given.eraseDups.filter fun _ => false := by
    rw [toList_filter, List.filter_false, List.append_nil]
  exact follows_of_eq whole fun _ _ impossible => Bool.noConfusion impossible

theorem follows_erase (s : PrincipalSet) (name : String) :
    Follows s.toList [] (s.erase name).toList :=
  follows_filter s _ []

theorem filter_false (s : PrincipalSet) : s.filter (fun _ => false) = ∅ :=
  eq_of_toList (List.filter_false s.toList)

theorem follows_empty (s : PrincipalSet) (given : List String) :
    Follows s.toList given (∅ : PrincipalSet).toList := by
  rw [← filter_false s]
  exact follows_filter s _ given

/-! ## Combinations -/

/-- A combination of finite sets. -/
def Combination.apply : Combination → Finset String → Finset String → Finset String
  | .union, A, B => A ∪ B
  | .intersection, A, B => A ∩ B
  | .difference, A, B => A \ B
  | .symmetricDifference, A, B => symmDiff A B

/-- The names of the other side do not repeat if it is taken for a set. -/
theorem Operand.toList_toSet (s : PrincipalSet) (o : Operand) :
    (o.toSet s).toList = (o.names s).eraseDups := by
  cases o with
  | itself => exact (eraseDups_toList s).symm
  | set t => exact (eraseDups_toList t).symm
  | list names => exact toList_ofList names

theorem Operand.mem_toSet {o : Operand} : name ∈ o.toSet s ↔ name ∈ o.names s := by
  rw [← mem_toList, o.toList_toSet, List.mem_eraseDups]

/-- A combination makes the set that it makes of finite sets. -/
theorem toFinset_combine (s : PrincipalSet) (o : Operand) (c : Combination) :
    (s.combine o c).toFinset = c.apply s.toFinset (o.names s).toFinset := by
  ext name
  cases c with
  | union => simp [combine, Combination.apply]
  | intersection => simp [combine, Combination.apply, and_comm]
  | difference => simp [combine, Combination.apply]
  | symmetricDifference => simp [combine, Combination.apply, Finset.mem_symmDiff, Operand.mem_toSet]

/-- A new set starts with the names that are taken from the first side, and goes on with those of
the other side. Common names stand in the order of the other side. -/
theorem follows_combine (s : PrincipalSet) (o : Operand) (c : Combination) :
    Follows (if c = .intersection then [] else s.toList) (o.names s) (s.combine o c).toList := by
  cases c with
  | union => exact follows_insertAll s _
  | intersection =>
    have whole : (s.combine o .intersection).toList =
        List.filter (fun _ => true) [] ++ (o.names s).eraseDups.filter (· ∈ s) :=
      (toList_ofList _).trans (eraseDups_filter (o.names s) _)
    exact follows_of_eq whole fun _ _ _ => List.not_mem_nil
  | difference => exact follows_filter s _ _
  | symmetricDifference =>
    have apart : ∀ name ∈ ((o.toSet s).filter (· ∉ s)).toList, name ∉ s.filter (· ∉ o.toSet s) := by
      intro name other first
      have outside : name ∉ s := by simpa using (mem_filter.mp other).2
      exact outside (mem_filter.mp first).1
    have whole : (s.combine o .symmetricDifference).toList =
        s.toList.filter (· ∉ o.toSet s) ++ (o.names s).eraseDups.filter (· ∉ s) := by
      rw [← o.toList_toSet]
      exact toList_insertAll ((o.toSet s).filter (· ∉ s)).nodup _ apart
    refine follows_of_eq whole fun name _ new => ?_
    simpa using new

/-- In place a set is combined with itself by a way of its own, with anything else by adding and
removing names one by one. -/
theorem toList_combineInPlace (s : PrincipalSet) (o : Operand) (c : Combination) :
    (s.combineInPlace o c).toList = match c with
      | .union => s.toList ++ (o.names s).eraseDups.filter (· ∉ s)
      | .intersection => s.toList.filter (· ∈ o.names s)
      | .difference => s.toList.filter (· ∉ o.names s)
      | .symmetricDifference =>
        s.toList.filter (· ∉ o.names s) ++ (o.names s).eraseDups.filter (· ∉ s) := by
  have toggled : ∀ o : Operand, (s.toggleAll (o.toSet s).toList).toList =
      s.toList.filter (· ∉ o.names s) ++ (o.names s).eraseDups.filter (· ∉ s) := by
    intro o
    rw [toList_toggleAll (o.toSet s).nodup, o.toList_toSet]
    simp only [List.mem_eraseDups]
  cases c with
  | union => exact toList_insertAll_eq s _
  | intersection => rfl
  | difference =>
    cases o with
    | itself => simp [combineInPlace, Operand.names]
    | set t => exact toList_eraseAll s _
    | list names => exact toList_eraseAll s _
  | symmetricDifference =>
    cases o with
    | itself => simp [combineInPlace, Operand.names]
    | set t => exact toggled (.set t)
    | list names => exact toggled (.list names)

/-- In place a combination comes to the same set as a new one. -/
theorem toFinset_combineInPlace (s : PrincipalSet) (o : Operand) (c : Combination) :
    (s.combineInPlace o c).toFinset = c.apply s.toFinset (o.names s).toFinset := by
  ext name
  rw [mem_toFinset, ← mem_toList, toList_combineInPlace]
  cases c with
  | union =>
    simp only [Combination.apply, ← toList_insertAll_eq, mem_toList, mem_insertAll,
      Finset.mem_union, mem_toFinset, List.mem_toFinset]
  | intersection => simp [Combination.apply]
  | difference => simp [Combination.apply]
  | symmetricDifference => simp [Combination.apply, Finset.mem_symmDiff]

theorem follows_combineInPlace (s : PrincipalSet) (o : Operand) (c : Combination) :
    Follows s.toList (o.names s) (s.combineInPlace o c).toList := by
  have whole := toList_combineInPlace s o c
  cases c with
  | union => exact follows_insertAll s _
  | intersection => exact follows_filter s _ _
  | difference =>
    have taken : (s.combineInPlace o .difference) = s.filter (· ∉ o.names s) := eq_of_toList whole
    rw [taken]
    exact follows_filter s _ _
  | symmetricDifference =>
    refine follows_of_eq whole fun name _ new => ?_
    simpa using new

/-! ## Comparisons -/

/-- A comparison of finite sets. -/
def Comparison.Holds : Comparison → Finset String → Finset String → Prop
  | .eq, A, B => A = B
  | .ne, A, B => A ≠ B
  | .le, A, B => A ⊆ B
  | .lt, A, B => A ⊂ B
  | .ge, A, B => B ⊆ A
  | .gt, A, B => B ⊂ A
  | .disjoint, A, B => Disjoint A B

theorem subset_iff : s.subset t = true ↔ s.toFinset ⊆ t.toFinset := by
  simp [subset, Finset.subset_iff]

/-- As no name counts twice, sets of one size are the same if one is included in the other. -/
theorem same_iff : s.same t = true ↔ s.toFinset = t.toFinset := by
  rw [same, Bool.and_eq_true, subset_iff, decide_eq_true_eq, size_eq_card, size_eq_card]
  constructor
  · rintro ⟨size, included⟩
    exact Finset.eq_of_subset_of_card_le included (Nat.le_of_eq size.symm)
  · intro equal
    exact ⟨congrArg Finset.card equal, equal.subset⟩

theorem smaller_iff :
    (s.subset t && decide (s.size < t.size)) = true ↔ s.toFinset ⊂ t.toFinset := by
  rw [Bool.and_eq_true, subset_iff, decide_eq_true_eq, size_eq_card, size_eq_card]
  constructor
  · rintro ⟨included, smaller⟩
    refine Finset.ssubset_iff_subset_ne.mpr ⟨included, fun equal => ?_⟩
    exact Nat.ne_of_lt smaller (congrArg Finset.card equal)
  · exact fun proper => ⟨proper.subset, Finset.card_lt_card proper⟩

/-- Sets are compared as finite sets are. -/
theorem compare_iff {c : Comparison} : s.compare t c = true ↔ c.Holds s.toFinset t.toFinset := by
  cases c with
  | eq => exact same_iff
  | ne =>
    rw [compare, Bool.not_eq_true', Comparison.Holds, Ne, ← same_iff, Bool.not_eq_true]
  | le => exact subset_iff
  | lt => exact smaller_iff
  | ge => exact subset_iff
  | gt => exact smaller_iff
  | disjoint =>
    simp only [compare, List.all_eq_true, decide_eq_true_eq, Comparison.Holds,
      Finset.disjoint_right, mem_toFinset, mem_toList]

end DagAccess.PrincipalSet
