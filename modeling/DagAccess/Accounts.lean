import DagAccess.Number.Integer
import DagAccess.Principal
import DagAccess.Text.Blank

/-!
# Accounts

The account database: users with the number of their primary group, and groups with their numbers
and members. Of several entries for one name or number the first one counts. Every text may be asked
for, also one with a NUL, which a real database refuses as no name at all; here it has no account,
as any other name that is not listed.
-/

namespace DagAccess

/-- A user account. -/
structure Account where
  name : String
  gid : Int

/-- A group with its members. -/
structure Group where
  name : String
  gid : Int
  members : List String

/-- The account database. -/
structure Accounts where
  users : List Account := []
  groups : List Group := []

namespace Accounts

/-- The account of a user. -/
def user? (a : Accounts) (name : String) : Option Account :=
  a.users.find? (·.name = name)

/-- The group with a number. -/
def group? (a : Accounts) (gid : Int) : Option Group :=
  a.groups.find? (·.gid = gid)

/-- The primary group of an account, if it has a name, and every group that lists the user. -/
def groupsOf (a : Accounts) (account : Account) : PrincipalSet :=
  let primary := ((a.group? account.gid).map Group.name).toList
  let listed := (a.groups.filter (·.members.contains account.name)).map Group.name
  .ofList (primary ++ listed)

/-! ## Account files

The database is written in two files with a line for each entry and colons between the fields. Lines
that lack a field or whose number is none are passed over.
-/

/-- The fields of the lines of a file. -/
def fieldsOf (text : String) : List (List String) :=
  (Text.split '\n' text).map (Text.split ':')

/-- The account in the fields of a line. -/
def readAccount : List String → Option Account
  | name :: _ :: _ :: gid :: _ => (Number.readInt 10 gid.toList).toOption.map (⟨name, ·⟩)
  | _ => none

/-- The group in the fields of a line. -/
def readGroup : List String → Option Group
  | name :: _ :: gid :: members :: _ =>
    (Number.readInt 10 gid.toList).toOption.map
    (⟨name, ·, (Text.split ',' members).filter (· ≠ "")⟩)
  | _ => none

/-- The database in the texts of both files. -/
def ofText (users groups : String) : Accounts :=
  ⟨(fieldsOf users).filterMap readAccount, (fieldsOf groups).filterMap readGroup⟩

end Accounts

end DagAccess
