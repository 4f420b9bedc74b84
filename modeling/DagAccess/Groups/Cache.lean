import DagAccess.Principal

/-!
# Caches of group lookups

A cache keeps the groups of users with the time at which their lookup began. Entries stand in the
order in which they were stored. As no lookup is stored with an earlier time than one before it, the
entries that have expired stand first, and expiry has to look no further than the first entry that
has not.
-/

namespace DagAccess.Groups

/-- A lookup that succeeded. -/
structure CacheEntry where
  user : String
  fetched : Int
  groups : PrincipalSet
  deriving DecidableEq

/-- The lookups that are remembered, oldest first. -/
abbrev Cache := List CacheEntry

namespace Cache

/-- The entry is older than the lifetime. -/
def isExpired (lifetime now : Int) (e : CacheEntry) : Bool :=
  lifetime ≤ now - e.fetched

/-- Drops the entries at the front that have expired. -/
def expire (c : Cache) (lifetime now : Int) : Cache :=
  c.dropWhile (isExpired lifetime now)

/-- The groups remembered for a user. -/
def find? (c : Cache) (user : String) : Option PrincipalSet :=
  (List.find? (·.user = user) c).map CacheEntry.groups

/-- Forgets a user. -/
def forget (c : Cache) (user : String) : Cache :=
  c.filter (·.user ≠ user)

/-- Remembers a lookup that began at a time. -/
def store (c : Cache) (user : String) (fetched : Int) (groups : PrincipalSet) : Cache :=
  c.forget user ++ [⟨user, fetched, groups⟩]

/-- The users that are remembered, in the order of the entries. -/
def users (c : Cache) : List String :=
  c.map CacheEntry.user

end Cache

end DagAccess.Groups
