import DagAccess.Acl.Listing
import DagAccess.Text.Case

/-!
# Options about access

Access is configured by options with texts. Options of the AM speak of the AM only, options
submitted with a DAG of that DAG only, so that no DAG can widen the access to the AM. One more
option switches all checks on or off.
-/

namespace DagAccess

/-- Option names with their texts; the first entry of a name counts. -/
abbrev Options := List (String × String)

namespace Acl

/-- Whose options are read. -/
inductive Scope
  | am
  | dag
  deriving DecidableEq, Repr

/-- The options of a scope and the actions that they are about. -/
def Scope.options : Scope → List (String × AclType)
  | .am => [("view_acls", .amView), ("modify_acls", .amModify)]
  | .dag => [("dag_view_acls", .dagView), ("dag_modify_acls", .dagModify)]

/-- Enters the names of a listing for an action; an empty list makes no entry. -/
def Listing.enter (l : Listing) (t : AclType) (g : Grants) : Grants :=
  { users := if l.users.isEmpty then g.users else g.users.put t l.users
    groups := if l.groups.isEmpty then g.groups else g.groups.put t l.groups }

/-- What the options of a scope grant. -/
def readGrants (scope : Scope) (conf : Options) : Grants :=
  scope.options.foldl
    (fun g (option, t) =>
      match conf.lookup option with
      | none => g
      | some text => (Listing.read text.toList).enter t g)
    {}

/-- The option that switches checks on or off. -/
def enabledOption : String := "acls_enabled"

/-- The words for on and off. -/
def switchWords : List (String × Bool) :=
  [("1", true), ("yes", true), ("true", true), ("on", true),
   ("0", false), ("no", false), ("false", false), ("off", false)]

/-- Whether checks are on: they are unless an option says otherwise. A text that is neither blank
nor one of the words is given back as an error. -/
def readEnabled (conf : Options) : Except String Bool :=
  match conf.lookup enabledOption with
  | none => .ok true
  | some raw =>
    if Text.blank raw then .ok true
    else match switchWords.lookup (Text.lower (Text.unquote raw)) with
      | some on => .ok on
      | none => .error raw

end Acl

end DagAccess
