import DagAccess.AllowList.Store

/-!
# Pools of named allow-lists

A pool holds allow-lists under names. They are made, copied, merged into each other, and changed
name by name.
-/

namespace DagAccess.AllowList

/-- Steps on a pool. -/
inductive Step
  | new (id : String) (entries : List (AclType × List String))
  | copy (id target : String)
  /-- Adds what the second list allows to the first one. -/
  | merge (id source : String)
  | add (id : String) (t : AclType) (name : String)
  | discard (id : String) (t : AclType) (name : String)

/-- A store, and names for lists in the order in which they were given. -/
structure Pool where
  store : Store := ∅
  names : List (String × Ref) := []

namespace Pool

/-- What the list with a name allows by now, nothing if the name was never given. -/
def find (p : Pool) (id : String) : AllowList :=
  ((p.names.lookup id).map p.store.list).getD ∅

/-- Gives a name to a list that was made. -/
def name (p : Pool) (id : String) (made : Ref × Store) : Pool where
  store := made.2
  names := Assoc.put id made.1 p.names

/-- The list with a name, a new one if the name was never given. -/
def ensure (p : Pool) (id : String) : Ref × Pool :=
  match p.names.lookup id with
  | some x => (x, p)
  | none => (p.store.new.1, p.name id p.store.new)

/-- Changes the names for an action in place. -/
def alter (p : Pool) (id : String) (t : AclType) (change : PrincipalSet → PrincipalSet) : Pool :=
  let (x, p) := p.ensure id
  { p with store := p.store.alter x t change }

/-- One step. -/
def step (p : Pool) : Step → Pool
  | .new id entries =>
    p.name id (p.store.place (.ofEntries (entries.map fun (t, names) => (t, .ofList names))))
  | .copy id target =>
    let (x, p) := p.ensure id
    p.name target (p.store.copy x)
  | .merge id source =>
    let (y, p) := p.ensure source
    let (x, p) := p.ensure id
    { p with store := p.store.merge x y }
  | .add id t name => p.alter id t (·.insert name)
  | .discard id t name => p.alter id t (·.erase name)

/-- Steps in their order, with the pool after each of them. -/
def run (p : Pool) : List Step → List Pool
  | [] => []
  | s :: rest => p.step s :: run (p.step s) rest

end Pool

end DagAccess.AllowList
