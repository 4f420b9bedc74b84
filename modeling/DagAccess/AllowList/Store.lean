import DagAccess.AllowList
import DagAccess.Assoc

/-!
# Allow-lists by reference

Sets of names and allow-lists are changed in place, and whoever knows one sees what has become of
it. So they stand in a store under numbers: a list holds for each of its actions the number of a
set, which other lists may hold as well. `Store.list` is what a list allows at a time, as a value.
Some lists are known outside; an `Edit` is what may be done to them there.
-/

namespace DagAccess.AllowList

/-- The number of a set or a list in a store. -/
abbrev Ref := Nat

/-- The numbers of sets for some of the actions. -/
structure Sheet where
  entries : List (AclType × Ref)
  distinct : (entries.map Prod.fst).Nodup

instance : EmptyCollection Sheet := ⟨⟨[], .nil⟩⟩

namespace Sheet

/-- The set for an action, if it is mentioned. -/
def find? (h : Sheet) (t : AclType) : Option Ref :=
  h.entries.lookup t

/-- Assigns a set to an action, in place if it is mentioned, else at the end. -/
def put (h : Sheet) (t : AclType) (r : Ref) : Sheet where
  entries := Assoc.put t r h.entries
  distinct := by
    rw [Assoc.keys_put]
    split
    · exact h.distinct
    · next fresh =>
      refine List.nodup_append.mpr ⟨h.distinct, List.nodup_cons.mpr ⟨nofun, .nil⟩, ?_⟩
      rintro u there v last rfl
      exact fresh (List.mem_singleton.mp last ▸ there)

/-- Drops an action. -/
def erase (h : Sheet) (t : AclType) : Sheet where
  entries := Assoc.erase t h.entries
  distinct := h.distinct.sublist (List.filter_sublist.map Prod.fst)

/-- The list as a value, if this is what its sets hold. -/
def read (h : Sheet) (sets : Ref → PrincipalSet) : AllowList where
  entries := h.entries.map fun e => (e.1, sets e.2)
  distinct := by
    rw [List.map_map]
    exact h.distinct

theorem find?_put (h : Sheet) (t u : AclType) (r : Ref) :
    (h.put t r).find? u = if u = t then some r else h.find? u := by
  rw [find?, put, Assoc.lookup_put]
  by_cases same : u = t
  · simp [same]
  · simp [same, find?]

theorem find?_erase (h : Sheet) (t u : AclType) :
    (h.erase t).find? u = if u = t then none else h.find? u := by
  rw [find?, erase, Assoc.lookup_erase]
  by_cases same : u = t
  · simp [same]
  · simp [same, find?]

end Sheet

/-- Sets and lists, and the lists that are known outside. Every set that a list holds is there, and
so is every list that is known. -/
structure Store where
  sets : Array PrincipalSet
  lists : Array Sheet
  known : List Ref
  held : ∀ {x : Ref} {h : Sheet} {t : AclType} {r : Ref},
    lists[x]? = some h → h.find? t = some r → r < sets.size
  there : ∀ {x : Ref}, x ∈ known → x < lists.size

instance : EmptyCollection Store := ⟨⟨#[], #[], [], by simp, nofun⟩⟩

namespace Store

/-! ## Looking -/

/-- What stands in a set. -/
def set (s : Store) (r : Ref) : PrincipalSet :=
  (s.sets[r]?).getD ∅

/-- The sets of a list. -/
def sheet (s : Store) (x : Ref) : Sheet :=
  (s.lists[x]?).getD ∅

/-- What a list allows by now. -/
def list (s : Store) (x : Ref) : AllowList :=
  (s.sheet x).read s.set

/-- A set that a list holds is there. -/
theorem held_sheet (s : Store) {x : Ref} {t : AclType} {r : Ref}
    (found : (s.sheet x).find? t = some r) : r < s.sets.size := by
  unfold sheet at found
  cases there : s.lists[x]? with
  | none =>
    rw [there] at found
    cases found
  | some h =>
    rw [there] at found
    exact s.held there found

/-! ## Changing -/

/-- Makes a new list. -/
def new (s : Store) : Ref × Store :=
  (s.lists.size, { s with
    lists := s.lists.push ∅
    held := by
      intro x h t r there found
      rw [Array.getElem?_push] at there
      split at there
      · obtain rfl := Option.some.inj there
        cases found
      · exact s.held there found
    there := by
      intro x known
      rw [Array.size_push]
      exact Nat.lt_succ_of_lt (s.there known) })

/-- Makes a new set, which no list holds yet. -/
def push (s : Store) (names : PrincipalSet) : Store :=
  { s with
    sets := s.sets.push names
    held := by
      intro x h t r there found
      rw [Array.size_push]
      exact Nat.lt_succ_of_lt (s.held there found) }

/-- Changes which sets a list holds; the sets have to be there. -/
def amend (s : Store) (x : Ref) (f : Sheet → Sheet)
    (among : ∀ {h : Sheet} {t r}, (f h).find? t = some r → h.find? t = some r ∨ r < s.sets.size) :
    Store :=
  { s with
    lists := s.lists.modify x f
    held := by
      intro y h t r there found
      rw [Array.getElem?_modify] at there
      split at there
      · obtain ⟨before, old, rfl⟩ := Option.map_eq_some_iff.mp there
        exact (among found).elim (s.held old) id
      · exact s.held there found
    there := by
      intro y known
      rw [Array.size_modify]
      exact s.there known }

/-- Assigns a set that is there to an action of a list. -/
def share (s : Store) (x : Ref) (t : AclType) (r : Ref) (there : r < s.sets.size) : Store :=
  s.amend x (·.put t r) fun {h u q} found => by
    rw [Sheet.find?_put] at found
    split at found
    · exact .inr (Option.some.inj found ▸ there)
    · exact .inl found

/-- Assigns a new set to an action of a list. -/
def put (s : Store) (x : Ref) (t : AclType) (names : PrincipalSet) : Store :=
  (s.push names).share x t s.sets.size (by
    rw [push, Array.size_push]
    exact Nat.lt_succ_self _)

/-- Drops an action from a list. -/
def erase (s : Store) (x : Ref) (t : AclType) : Store :=
  s.amend x (·.erase t) fun {h u r} found => by
    rw [Sheet.find?_erase] at found
    split at found
    · cases found
    · exact .inl found

/-- Changes what stands in a set. -/
def fill (s : Store) (r : Ref) (change : PrincipalSet → PrincipalSet) : Store :=
  { s with
    sets := s.sets.modify r change
    held := by
      intro x h t q there found
      rw [Array.size_modify]
      exact s.held there found }

/-- Makes a list known outside. -/
def tell (s : Store) (x : Ref) : Store :=
  if there : x < s.lists.size then
    { s with
      known := s.known ++ [x]
      there := fun known => (List.mem_append.mp known).elim s.there fun last =>
        List.mem_singleton.mp last ▸ there }
  else s

/-! ## Copying and merging -/

/-- The set of a list for an action, a new one if there is none. -/
def ensure (s : Store) (x : Ref) (t : AclType) : Ref × Store :=
  match (s.sheet x).find? t with
  | some r => (r, s)
  | none => (s.sets.size, s.put x t ∅)

/-- A new list with new sets that hold this. -/
def place (s : Store) (a : AllowList) : Ref × Store :=
  let (new, s) := s.new
  (new, a.entries.foldl (fun s e => s.put new e.1 e.2) s)

/-- A new list, with a copy of each set of the list. -/
def copy (s : Store) (x : Ref) : Ref × Store :=
  let (new, s) := s.new
  (new, (s.sheet x).entries.foldl (fun s e => s.put new e.1 (s.set e.2)) s)

/-- Changes what stands in the set of a list for an action. -/
def alter (s : Store) (x : Ref) (t : AclType) (change : PrincipalSet → PrincipalSet) : Store :=
  let (own, s) := s.ensure x t
  s.fill own change

/-- Adds the names of a set to those that the list has for the action. -/
def mergeEntry (s : Store) (x : Ref) (e : AclType × Ref) : Store :=
  s.alter x e.1 (·.union (s.set e.2))

/-- Adds everything that the second list allows to the first one, which keeps its sets. -/
def merge (s : Store) (x source : Ref) : Store :=
  (s.sheet source).entries.foldl (·.mergeEntry x ·) s

/-- A copy of a list that is known outside. -/
def give (s : Store) (x : Ref) : Ref × Store :=
  let (copy, s) := s.copy x
  (copy, s.tell copy)

end Store

/-! ## From outside -/

/-- What may be done to lists by those that know them. A list is named by its place among the known
ones; with one that is not there, nothing happens. -/
inductive Edit
  | new
  | copy (list : Nat)
  | merge (list source : Nat)
  /-- Assigns a new set. -/
  | put (list : Nat) (t : AclType) (names : PrincipalSet)
  /-- Assigns the very set that another list holds. -/
  | share (list : Nat) (t : AclType) (source : Nat) (u : AclType)
  | erase (list : Nat) (t : AclType)
  /-- Changes a set, which every list that holds it shows. -/
  | alter (list : Nat) (t : AclType) (change : PrincipalSet → PrincipalSet)

/-- What a known list comes to after an edit. -/
def Store.edit (s : Store) : Edit → Store
  | .new => let (x, s) := s.new; s.tell x
  | .copy i => (s.known[i]?).elim s fun x => (s.give x).2
  | .merge i j => (s.known[i]?).elim s fun x => (s.known[j]?).elim s fun y => s.merge x y
  | .put i t names => (s.known[i]?).elim s fun x => s.put x t names
  | .share i t j u => (s.known[i]?).elim s fun x => (s.known[j]?).elim s fun y =>
    match found : (s.sheet y).find? u with
    | some r => s.share x t r (s.held_sheet found)
    | none => s
  | .erase i t => (s.known[i]?).elim s fun x => s.erase x t
  | .alter i t change => (s.known[i]?).elim s fun x => s.alter x t change

end DagAccess.AllowList
