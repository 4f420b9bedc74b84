import DagAccess.Groups.Provider

/-!
# Access managers

A manager decides who may do what. The manager of the AM is made from options; the manager of a DAG
is derived from it and adds the owner of the DAG and what the options submitted with the DAG grant.
Access is granted, in this order, to everyone if checks are off, to the owner of the AM, to the
owner of the DAG for the actions on it, to users that are listed, or everyone if the wildcard is,
and to members of groups that are listed.

`rule` decides as far as that is possible without knowing the groups of the user, and `decide`
completes it with the outcome of a lookup.
-/

namespace DagAccess

/-- How options are read: what those of a scope grant. -/
structure Reader where
  read : Acl.Scope → Options → Grants

/-- The usual way. -/
def Reader.standard : Reader := ⟨Acl.readGrants⟩

/-- The reader that finds this in all options. -/
def Reader.finding (g : Grants) : Reader := ⟨fun _ _ => g⟩

/-- Decides who may do what. -/
structure Manager where
  provider : Groups.ProviderId
  amUser : String
  dagUser : Option String := none
  enabled : Bool := true
  grants : Grants := {}

namespace Manager

/-! ## Making managers -/

/-- The manager of the AM. -/
def make (reader : Reader) (provider : Option Groups.ProviderId) (amUser : String)
    (conf : Option Options) : Except AclFault Manager :=
  match provider with
  | none => .error .noProvider
  | some provider =>
    if amUser = "" then .error .noAmUser
    else
      let bare : Manager := { provider, amUser }
      match conf with
      | none => .ok bare
      | some conf =>
        match Acl.readEnabled conf with
        | .error raw => .error (.invalidSwitch raw)
        | .ok false => .ok { bare with enabled := false }
        | .ok true => .ok { bare with grants := Grants.merge {} (reader.read .am conf) }

/-- The manager of a DAG. -/
def forDag (m : Manager) (reader : Reader) (dagUser : String) (conf : Option Options) :
    Except AclFault Manager :=
  if dagUser = "" then .error .noDagUser
  else
    let derived := { m with dagUser := some dagUser }
    match conf with
    | none => .ok derived
    | some conf =>
      if m.enabled then .ok { derived with grants := m.grants.merge (reader.read .dag conf) }
      else .ok derived

/-! ## Deciding -/

/-- What can be said without knowing the groups of a user. -/
inductive Ruling
  | granted
  | denied
  /-- Members of these groups are granted access. -/
  | members (groups : PrincipalSet)
  deriving DecidableEq

/-- The ruling on an action of a user. -/
def rule (m : Manager) (user : String) (t : AclType) : Ruling :=
  let users := m.grants.users.principals t
  let groups := m.grants.groups.principals t
  if !m.enabled then .granted
  else if user = m.amUser then .granted
  else if t.isDag ∧ m.dagUser = some user then .granted
  else if wildcard ∈ users ∨ user ∈ users then .granted
  else if groups.isEmpty then .denied
  else .members groups

/-- One of the groups is among the allowed ones. -/
def meets (allowed groups : PrincipalSet) : Bool :=
  groups.toList.any (· ∈ allowed)

/-- The decision after a lookup. Some faults leave the user without groups, others are passed on. -/
def settle (allowed : PrincipalSet) : Except Fault PrincipalSet → Except Fault Bool
  | .ok groups => .ok (meets allowed groups)
  | .error fault => if fault.leavesNoGroups then .ok false else .error fault

/-- The decision on an action of a user, given what a lookup of the user's groups would bring. -/
def decide (m : Manager) (user : String) (t : AclType) (lookup : Except Fault PrincipalSet) :
    Except Fault Bool :=
  match m.rule user t with
  | .granted => .ok true
  | .denied => .ok false
  | .members groups => settle groups lookup

/-! ## Rendering -/

/-- Who has a right over the AM, as a text for the resource manager: the owner and the users listed,
then the groups listed, or the wildcard for everyone. -/
def render (m : Manager) (r : Right) : String :=
  let users := m.grants.users.principals (.ofAm r)
  let groups := m.grants.groups.principals (.ofAm r)
  if !m.enabled then wildcard
  else if wildcard ∈ users then wildcard
  else
    let listed := commaSeparated users.toList
    m.amUser ++ (if listed = "" then "" else "," ++ listed)
      ++ (if groups.isEmpty then "" else " " ++ commaSeparated groups.toList)

/-- The name that the resource manager has for a right. -/
def rightName : Right → String
  | .view => "VIEW_APP"
  | .modify => "MODIFY_APP"

end Manager

end DagAccess
