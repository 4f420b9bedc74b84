import DagAccess.AllowList.Store
import DagAccess.Manager

/-!
# Managers that last

A manager that lasts refers to its two allow-lists, which stand in a store, and to the parser that
reads options for it and for the managers derived from it. `Stored.manager` is what it is at a time,
as a value.

Besides the usual parser there may be others, which are called from outside: they see what they were
asked for before, do what they like to the lists that are known, and answer two of those.
-/

namespace DagAccess

/-- What a parser does when it is called: edits of the lists that are known, and the places of the
two that it answers, or the fault that it ends with. -/
structure Parser.Turn where
  edits : List AllowList.Edit := []
  answer : Except Fault (Nat × Nat)

/-- What a parser does after calls for these scopes, when it is asked for a scope of options and
finds these lists. -/
abbrev Parser.Behaviour := List Acl.Scope → Acl.Scope → Options → AllowList.Store → Parser.Turn

/-- How options are read for a manager. The scopes that a parser of another kind was asked for are
noted under its number. -/
inductive Parser
  | standard
  | custom (id : Nat) (behaviour : Parser.Behaviour)

namespace Manager

/-- A manager and the numbers of its lists. -/
structure Stored where
  provider : Groups.ProviderId
  amUser : String
  dagUser : Option String := none
  parser : Parser := .standard
  enabled : Bool := true
  users : AllowList.Ref
  groups : AllowList.Ref

/-- What the manager is by now. -/
def Stored.manager (m : Stored) (s : AllowList.Store) : Manager where
  provider := m.provider
  amUser := m.amUser
  dagUser := m.dagUser
  enabled := m.enabled
  grants := ⟨s.list m.users, s.list m.groups⟩

/-- A manager with these lists in place of what it grants. -/
def stored (m : Manager) (parser : Parser) (users groups : AllowList.Ref) : Stored :=
  { provider := m.provider, amUser := m.amUser, dagUser := m.dagUser, parser, enabled := m.enabled,
    users, groups }

end Manager

end DagAccess
