import DagAccess.Assoc
import DagAccess.Principal

/-!
# Pools of named sets

A pool holds principal sets under names and lets them be combined: in place, into a new set, and by
comparison. The second operand of a combination is a set of the pool, a set given by its elements,
or a plain list, which may repeat names and is no set: it cannot be compared by inclusion, and
equals no set.
-/

namespace DagAccess

namespace PrincipalSet

/-- The other side of a combination. -/
inductive Operand
  /-- The very set that the operation works on. -/
  | itself
  | set (s : PrincipalSet)
  | list (names : List String)

/-- The names of the other side in their order; `self` is the first side. -/
def Operand.names (self : PrincipalSet) : Operand → List String
  | .itself => self.toList
  | .set s => s.toList
  | .list names => names

/-- The other side as a set. -/
def Operand.toSet (self : PrincipalSet) : Operand → PrincipalSet
  | .itself => self
  | .set s => s
  | .list names => ofList names

/-- Combinations of two sides. -/
inductive Combination
  | union
  | intersection
  | difference
  | symmetricDifference
  deriving DecidableEq, Repr

/-- The new set that a combination makes. The common names stand in the order of the second side. -/
def combine (s : PrincipalSet) (o : Operand) : Combination → PrincipalSet
  | .union => s.insertAll (o.names s)
  | .intersection => ofList ((o.names s).filter (· ∈ s))
  | .difference => s.filter (· ∉ o.names s)
  | .symmetricDifference =>
    let t := o.toSet s
    (s.filter (· ∉ t)).union (t.filter (· ∉ s))

/-- The set after a combination in place. The names that stay keep their order. -/
def combineInPlace (s : PrincipalSet) (o : Operand) : Combination → PrincipalSet
  | .union => s.insertAll (o.names s)
  | .intersection => s.filter (· ∈ o.names s)
  | .difference => match o with
    | .itself => ∅
    | o => s.eraseAll (o.names s)
  | .symmetricDifference => match o with
    | .itself => ∅
    | o => s.toggleAll (o.toSet s).toList

/-- Comparisons of two sides. -/
inductive Comparison
  | eq
  | ne
  | le
  | lt
  | ge
  | gt
  | disjoint
  deriving DecidableEq, Repr

/-- The outcome of a comparison with a set. -/
def compare (s t : PrincipalSet) : Comparison → Bool
  | .eq => s.same t
  | .ne => !s.same t
  | .le => s.subset t
  | .lt => s.subset t && s.size < t.size
  | .ge => t.subset s
  | .gt => t.subset s && t.size < s.size
  | .disjoint => t.toList.all (· ∉ s)

/-- The outcome of a comparison; inclusion of a plain list is not defined. -/
def compare? (s : PrincipalSet) : Operand → Comparison → Option Bool
  | .itself, c => some (s.compare s c)
  | .set t, c => some (s.compare t c)
  | .list _, .eq => some false
  | .list _, .ne => some true
  | .list names, .disjoint => some (names.all (· ∉ s))
  | .list _, _ => none

/-- Steps on a pool. -/
inductive Step
  | new (id : String) (names : List String)
  | copy (id target : String)
  | add (id name : String)
  | discard (id name : String)
  | remove (id name : String)
  | contains (id name : String)
  | pop (id : String)
  | clear (id : String)
  | size (id : String)
  | describe (id : String)
  | update (id : String) (other : String ⊕ Operand)
  | combine (id target : String) (c : Combination) (other : String ⊕ Operand)
  | combineInPlace (id : String) (c : Combination) (other : String ⊕ Operand)
  | compare (id : String) (c : Comparison) (other : String ⊕ Operand)

/-- What a step answers. -/
inductive Answer
  | done
  | truth (b : Bool)
  | name (s : String)
  | count (n : Nat)
  /-- A new set was made. -/
  | made

/-- Why a step fails. -/
inductive StepFault
  | noSet (id : String)
  /-- The name to be removed is missing. -/
  | missing (name : String)
  /-- There is no first name to be taken. -/
  | nothingToPop
  /-- A plain list is not compared by inclusion. -/
  | incomparable

/-- Named sets in the order in which the names were given. -/
abbrev Pool := List (String × PrincipalSet)

namespace Pool

/-- The set with this name. -/
def find (p : Pool) (id : String) : Except StepFault PrincipalSet :=
  match p.lookup id with
  | some s => .ok s
  | none => .error (.noSet id)

/-- Gives a name to a set. -/
def put (p : Pool) (id : String) (s : PrincipalSet) : Pool :=
  Assoc.put id s p

/-- The other side of a combination, which a name of the pool may stand for. -/
def operand (p : Pool) (id : String) : String ⊕ Operand → Except StepFault Operand
  | .inl other =>
    if other = id then .ok .itself else (p.find other).map .set
  | .inr o => .ok o

/-- One step: the answer and the pool after it. -/
def step (p : Pool) : Step → Except StepFault (Answer × Pool)
  | .new id names => .ok (.done, p.put id (ofList names))
  | .copy id target => do
    let s ← p.find id
    return (.done, p.put target s)
  | .add id name => do
    let s ← p.find id
    return (.done, p.put id (s.insert name))
  | .discard id name => do
    let s ← p.find id
    return (.done, p.put id (s.erase name))
  | .remove id name => do
    let s ← p.find id
    if name ∈ s then return (.done, p.put id (s.erase name)) else throw (.missing name)
  | .contains id name => do
    let s ← p.find id
    return (.truth (name ∈ s), p)
  | .pop id => do
    let s ← p.find id
    match s.toList with
    | [] => throw .nothingToPop
    | name :: _ => return (.name name, p.put id (s.erase name))
  | .clear id => do
    let _ ← p.find id
    return (.done, p.put id ∅)
  | .size id => do
    let s ← p.find id
    return (.count s.size, p)
  | .describe id => do
    let s ← p.find id
    return (.name s.describe, p)
  | .update id other => do
    let s ← p.find id
    let o ← p.operand id other
    return (.done, p.put id (s.insertAll (o.names s)))
  | .combine id target c other => do
    let s ← p.find id
    let o ← p.operand id other
    return (.made, p.put target (s.combine o c))
  | .combineInPlace id c other => do
    let s ← p.find id
    let o ← p.operand id other
    return (.done, p.put id (s.combineInPlace o c))
  | .compare id c other => do
    let s ← p.find id
    let o ← p.operand id other
    match s.compare? o c with
    | some b => return (.truth b, p)
    | none => throw .incomparable

/-- Steps in their order; a step that fails leaves the pool alone. Each answer comes with the pool
after the step. -/
def run (p : Pool) : List Step → List (Except StepFault Answer × Pool)
  | [] => []
  | s :: rest =>
    match p.step s with
    | .ok (answer, after) => (.ok answer, after) :: run after rest
    | .error fault => (.error fault, p) :: run p rest

end Pool

end PrincipalSet

end DagAccess
