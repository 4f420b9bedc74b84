import DagAccess.Text.Quoted

/-!
# Sets of names that remember their order

A `PrincipalSet` holds the names of users or groups. Membership is that of a finite set; the order
of first insertion is kept, and decides only how the set is written. Every operation is described by
what it does to the view `toList`.
-/

namespace DagAccess

/-- Names without repetition, in the order in which they were added. -/
structure PrincipalSet where
  toList : List String
  nodup : toList.Nodup := by simp
  deriving DecidableEq

namespace PrincipalSet

instance : EmptyCollection PrincipalSet := ⟨⟨[], by simp⟩⟩

instance : Inhabited PrincipalSet := ⟨∅⟩

instance : Membership String PrincipalSet := ⟨fun s name => name ∈ s.toList⟩

instance (name : String) (s : PrincipalSet) : Decidable (name ∈ s) :=
  inferInstanceAs (Decidable (name ∈ s.toList))

/-- The number of names. -/
def size (s : PrincipalSet) : Nat :=
  s.toList.length

/-- No name is in the set. -/
def isEmpty (s : PrincipalSet) : Bool :=
  s.toList.isEmpty

/-- Adds a name at the end, unless it is there. -/
def insert (s : PrincipalSet) (name : String) : PrincipalSet :=
  if h : name ∈ s.toList then s
  else ⟨s.toList ++ [name], by simpa [List.nodup_append, s.nodup]
    using fun a ha (e : a = name) => h (e ▸ ha)⟩

/-- Keeps the names that satisfy the test. -/
def filter (s : PrincipalSet) (keep : String → Bool) : PrincipalSet :=
  ⟨s.toList.filter keep, s.nodup.sublist List.filter_sublist⟩

/-- Removes a name. -/
def erase (s : PrincipalSet) (name : String) : PrincipalSet :=
  s.filter (· ≠ name)

/-- Adds names in their order. -/
def insertAll (s : PrincipalSet) (names : List String) : PrincipalSet :=
  names.foldl insert s

/-- The names of a list, in order of first occurrence. -/
def ofList (names : List String) : PrincipalSet :=
  insertAll ∅ names

/-- The names of the first set, then the new ones of the second. -/
def union (s t : PrincipalSet) : PrincipalSet :=
  s.insertAll t.toList

/-- Removes names. -/
def eraseAll (s : PrincipalSet) (names : List String) : PrincipalSet :=
  names.foldl erase s

/-- Adds a name that is missing, removes one that is there. -/
def toggle (s : PrincipalSet) (name : String) : PrincipalSet :=
  if name ∈ s then s.erase name else s.insert name

/-- Toggles names in their order. -/
def toggleAll (s : PrincipalSet) (names : List String) : PrincipalSet :=
  names.foldl toggle s

/-- Every name of the first set is in the second. -/
def subset (s t : PrincipalSet) : Bool :=
  s.toList.all (· ∈ t)

/-- Both sets have the same names. -/
def same (s t : PrincipalSet) : Bool :=
  s.size = t.size && s.subset t

/-- The set between brackets, after the name of its kind. -/
def describe (s : PrincipalSet) : String :=
  "PrincipalSet(" ++ Text.quotedList s.toList ++ ")"

/-! ## The view of the operations -/

@[simp]
theorem mem_toList {name : String} {s : PrincipalSet} : name ∈ s.toList ↔ name ∈ s := Iff.rfl

@[simp]
theorem toList_empty : (∅ : PrincipalSet).toList = [] := rfl

@[simp]
theorem not_mem_empty (name : String) : name ∉ (∅ : PrincipalSet) := by
  rw [← mem_toList]
  simp

theorem toList_insert (s : PrincipalSet) (name : String) :
    (s.insert name).toList = if name ∈ s then s.toList else s.toList ++ [name] := by
  unfold insert
  by_cases h : name ∈ s.toList
  · simp [h, mem_toList.mp h]
  · simp [h, mt mem_toList.mpr h]

@[simp]
theorem mem_insert {s : PrincipalSet} {name other : String} :
    other ∈ s.insert name ↔ other ∈ s ∨ other = name := by
  rw [← mem_toList, toList_insert]
  split
  · constructor
    · exact Or.inl
    · rintro (h | rfl) <;> assumption
  · simp

@[simp]
theorem toList_filter (s : PrincipalSet) (keep : String → Bool) :
    (s.filter keep).toList = s.toList.filter keep := rfl

@[simp]
theorem mem_filter {s : PrincipalSet} {keep : String → Bool} {name : String} :
    name ∈ s.filter keep ↔ name ∈ s ∧ keep name := by
  rw [← mem_toList, toList_filter, List.mem_filter, mem_toList]

@[simp]
theorem mem_erase {s : PrincipalSet} {name other : String} :
    other ∈ s.erase name ↔ other ∈ s ∧ other ≠ name := by
  simp [erase]

@[simp]
theorem mem_insertAll {s : PrincipalSet} {names : List String} {name : String} :
    name ∈ s.insertAll names ↔ name ∈ s ∨ name ∈ names := by
  induction names generalizing s with
  | nil => simp [insertAll]
  | cons n ns ih =>
    rw [insertAll, List.foldl_cons, ← insertAll, ih, mem_insert, List.mem_cons, or_assoc]

@[simp]
theorem mem_ofList {names : List String} {name : String} : name ∈ ofList names ↔ name ∈ names := by
  simp [ofList]

@[simp]
theorem mem_union {s t : PrincipalSet} {name : String} :
    name ∈ s.union t ↔ name ∈ s ∨ name ∈ t := by
  simp [union]

theorem isEmpty_iff {s : PrincipalSet} : s.isEmpty ↔ ∀ name, name ∉ s := by
  rw [isEmpty, List.isEmpty_iff, List.eq_nil_iff_forall_not_mem]
  rfl

end PrincipalSet

end DagAccess
