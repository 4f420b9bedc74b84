import DagAccess.AllowList
import DagAccess.Text.Blank

/-!
# Written access lists

An access list names users, then groups, as in `alice,bob analysts,ops`. The first run of blanks
divides the users from the groups, commas divide names. A text of blanks lists nobody, `*` alone
stands for everybody, and a text that starts with a blank lists groups only. `Listing.read` reads
such a text, `Listing.write` writes one.
-/

namespace DagAccess

/-- The name that stands for every user. -/
def wildcard : String := "*"

/-- Names written with a separator between them. -/
def commaSeparated (names : List String) : String :=
  ",".intercalate names

namespace Acl

/-- The users and the groups that a text lists. -/
structure Listing where
  users : PrincipalSet
  groups : PrincipalSet
  deriving DecidableEq

/-- The names between commas, trimmed; blank ones are left out. -/
def readNames (cs : List Char) : PrincipalSet :=
  .ofList ((((Text.pieces ',' cs).map (Text.trim Text.isBlank)).filter (· ≠ [])).map String.ofList)

/-- Reads an access list: without the blanks at its end, it is divided at its first run of
blanks. -/
def Listing.read (cs : List Char) : Listing :=
  if cs.all Text.isBlank then ⟨∅, ∅⟩
  else if Text.trim Text.isBlank cs = wildcard.toList then ⟨.ofList [wildcard], ∅⟩
  else
    let (users, rest) := (Text.trimRight Text.isBlank cs).span (!Text.isBlank ·)
    ⟨readNames users, readNames (rest.dropWhile Text.isBlank)⟩

/-- Writes an access list: the users, then `gap` and the groups if there are any. -/
def Listing.write (gap : String) (l : Listing) : String :=
  commaSeparated l.users.toList
    ++ (if l.groups.isEmpty then "" else gap ++ commaSeparated l.groups.toList)

end Acl

end DagAccess
