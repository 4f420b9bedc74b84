import DagAccess.Principal

/-!
# Protected actions and allow-lists

Four actions are protected: viewing and modifying the application master (AM), which covers all of
its DAGs, and viewing and modifying a single DAG. An `AllowList` assigns sets of names to some of
them and remembers the order in which the actions were first mentioned.
-/

namespace DagAccess

/-- What is done to a resource. -/
inductive Right
  | view
  | modify
  deriving DecidableEq, Repr

/-- The protected actions. -/
inductive AclType
  | amView
  | amModify
  | dagView
  | dagModify
  deriving DecidableEq, Repr

namespace AclType

/-- All actions in their usual order. -/
def all : List AclType := [.amView, .amModify, .dagView, .dagModify]

/-- The name of an action in answers and messages. -/
def label : AclType → String
  | .amView => "am_view"
  | .amModify => "am_modify"
  | .dagView => "dag_view"
  | .dagModify => "dag_modify"

/-- The action concerns a single DAG. -/
def isDag : AclType → Bool
  | .amView | .amModify => false
  | .dagView | .dagModify => true

/-- The right over the AM. -/
def ofAm : Right → AclType
  | .view => .amView
  | .modify => .amModify

/-- The right over a DAG. -/
def ofDag : Right → AclType
  | .view => .dagView
  | .modify => .dagModify

theorem mem_all (t : AclType) : t ∈ all := by
  cases t <;> decide

end AclType

/-- Sets of names for some of the actions. -/
structure AllowList where
  entries : List (AclType × PrincipalSet)
  distinct : (entries.map Prod.fst).Nodup := by simp
  deriving DecidableEq

namespace AllowList

instance : EmptyCollection AllowList := ⟨⟨[], by simp⟩⟩

instance : Inhabited AllowList := ⟨∅⟩

/-- The names for an action, if it is mentioned. -/
def find? (a : AllowList) (t : AclType) : Option PrincipalSet :=
  a.entries.lookup t

/-- The names for an action, none if it is not mentioned. -/
def principals (a : AllowList) (t : AclType) : PrincipalSet :=
  (a.find? t).getD ∅

/-- Changes the names for an action in place; an action that is not mentioned comes last. -/
def alter (t : AclType) (f : PrincipalSet → PrincipalSet) :
    List (AclType × PrincipalSet) → List (AclType × PrincipalSet)
  | [] => [(t, f ∅)]
  | (u, s) :: rest => if u = t then (u, f s) :: rest else (u, s) :: alter t f rest

theorem mem_keys_alter {t u : AclType} {f : PrincipalSet → PrincipalSet}
    {es : List (AclType × PrincipalSet)} :
    u ∈ (alter t f es).map Prod.fst ↔ u ∈ es.map Prod.fst ∨ u = t := by
  induction es with
  | nil => simp [alter]
  | cons e es ih =>
    obtain ⟨v, s⟩ := e
    unfold alter
    by_cases h : v = t
    · simp only [if_pos h, List.map_cons, List.mem_cons]
      constructor
      · exact Or.inl
      · rintro (h' | rfl)
        · exact h'
        · exact Or.inl h.symm
    · simp only [if_neg h, List.map_cons, List.mem_cons, ih, or_assoc]

theorem nodup_keys_alter {t : AclType} {f : PrincipalSet → PrincipalSet}
    {es : List (AclType × PrincipalSet)} (h : (es.map Prod.fst).Nodup) :
    ((alter t f es).map Prod.fst).Nodup := by
  induction es with
  | nil => simp [alter]
  | cons e es ih =>
    obtain ⟨v, s⟩ := e
    rw [List.map_cons, List.nodup_cons] at h
    unfold alter
    by_cases hv : v = t
    · simpa only [if_pos hv, List.map_cons, List.nodup_cons] using h
    · rw [if_neg hv, List.map_cons, List.nodup_cons, mem_keys_alter]
      exact ⟨fun h' => h'.elim h.1 hv, ih h.2⟩

/-- Changes the names for one action, starting from no names if it is not mentioned. -/
def modify (a : AllowList) (t : AclType) (f : PrincipalSet → PrincipalSet) : AllowList :=
  ⟨alter t f a.entries, nodup_keys_alter a.distinct⟩

/-- Adds one name for an action. -/
def add (a : AllowList) (t : AclType) (name : String) : AllowList :=
  a.modify t (·.insert name)

/-- Removes one name for an action, which is mentioned from now on. -/
def discard (a : AllowList) (t : AclType) (name : String) : AllowList :=
  a.modify t (·.erase name)

/-- Adds the names of entries, action by action. -/
def mergeEntries (a : AllowList) (es : List (AclType × PrincipalSet)) : AllowList :=
  es.foldl (fun a e => a.modify e.1 (·.union e.2)) a

/-- Adds everything that the second list allows. -/
def merge (a b : AllowList) : AllowList :=
  a.mergeEntries b.entries

/-- Assigns a set to an action, in place if it is mentioned. -/
def put (a : AllowList) (t : AclType) (s : PrincipalSet) : AllowList :=
  a.modify t fun _ => s

/-- An allow-list from entries; a later entry for an action replaces an earlier one. -/
def ofEntries (es : List (AclType × PrincipalSet)) : AllowList :=
  es.foldl (fun a e => a.put e.1 e.2) ∅

end AllowList

/-- Users and groups that are allowed to do something. -/
structure Grants where
  users : AllowList := ∅
  groups : AllowList := ∅
  deriving DecidableEq, Inhabited

/-- Adds everything that the second one grants. -/
def Grants.merge (a b : Grants) : Grants :=
  ⟨a.users.merge b.users, a.groups.merge b.groups⟩

end DagAccess
