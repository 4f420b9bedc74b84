import DagAccess.Accounts
import DagAccess.Assoc
import DagAccess.Fault
import DagAccess.Text.Utf8
import DagAccess.Groups.Cache

/-!
# Group providers

A provider finds the groups of a user: in the account database, from the output of a command, in a
fixed table, by a script of prepared outcomes, or in a cache in front of another provider. Providers
are numbered, as a provider behind several caches is still one provider; a cache stands in front of
a provider with a smaller number.
-/

namespace DagAccess.Groups

/-- The number of a provider. -/
abbrev ProviderId := Nat

/-- How one call of a script ends, after the clock went on. -/
structure Outcome where
  advance : Int
  result : Except Fault PrincipalSet

/-- Prepared outcomes for users, and the users that were asked for. -/
structure Script where
  name : String
  outcomes : List (String × List Outcome)
  asked : List String := []

/-- Finds the groups of users. -/
inductive Provider
  | accounts
  | command (words : List String)
  | table (groups : List (String × PrincipalSet))
  | script (s : Script)
  | cached (inner : ProviderId) (lifetime : Int) (cache : Cache)

instance : Inhabited Provider := ⟨.accounts⟩

/-- How long lookups are remembered, if nothing is said, in seconds. -/
def usualLifetime : Int := 300

/-- The command that lists the groups of a user. -/
def usualCommand : List String := ["id", "-Gn", "--"]

/-- The name of a provider; a cache is named after what is behind it. -/
def describe (providers : Array Provider) : (id : ProviderId) → String
  | id =>
    match providers[id]? with
    | none => ""
    | some .accounts => "unix"
    | some (.command _) => "shell"
    | some (.table _) => "static"
    | some (.script s) => s.name
    | some (.cached inner _ _) =>
      if _h : inner < id then "cached(" ++ describe providers inner ++ ")" else "cached()"
termination_by id => id

/-! ## Accounts -/

/-- The groups of a user in the account database. -/
def fromAccounts (a : Accounts) (user : String) : Except Fault PrincipalSet :=
  match a.user? user with
  | none => .error (.lookup (.noAccount user))
  | some account => .ok (a.groupsOf account)

/-- The primary group of an account that has no name. -/
def namelessGroup? (a : Accounts) (user : String) : Option Int :=
  match a.user? user with
  | none => none
  | some account => if (a.group? account.gid).isSome then none else some account.gid

/-! ## Commands -/

/-- The words in the lines of an output. -/
def wordsOf (lines : List (List UInt8)) : PrincipalSet :=
  .ofList ((lines.flatMap fun line => Text.words (Utf8.decodeLossy line)).map String.ofList)

/-- The groups that a command lists for a user. -/
def fromCommand (os : Command.Outcomes) (words : List String) (user : String) :
    Except Fault PrincipalSet :=
  match Command.run os (words ++ [user]) 0 true with
  | .ok result => .ok (wordsOf result.out)
  | .error (.fault cause) => .error (.lookup (.command user cause))
  | .error .unspeakable => .error .unspeakable

/-! ## Tables -/

/-- The groups of a user as they are written in a table. -/
inductive Written
  /-- Names between commas. -/
  | text (s : String)
  | names (ns : List String)
  /-- A list with something else than names. -/
  | others
  /-- No list. -/
  | noList

/-- The names, trimmed and without blank ones. -/
def Written.read : Written → Except Fault PrincipalSet
  | .text s => .ok (trimmed (Text.split ',' s))
  | .names ns => .ok (trimmed ns)
  | .others => .error .groupNames
  | .noList => .error .groupList
where
  /-- The names that are not blank, trimmed. -/
  trimmed (ns : List String) : PrincipalSet :=
    .ofList ((ns.map Text.stripBlanks).filter (· ≠ ""))

/-- Reads the table of a static provider. -/
def readTable (entries : List (String × Written)) : Except Fault (List (String × PrincipalSet)) :=
  entries.mapM fun (user, written) => do return (user, ← written.read)

/-! ## Scripts -/

/-- The next outcome for a user and the script after it. The last outcome is used again and again; a
user without outcomes is in no group. -/
def Script.next (s : Script) (user : String) : Outcome × Script :=
  let asked := s.asked ++ [user]
  match s.outcomes.lookup user with
  | none | some [] => (⟨0, .ok ∅⟩, { s with asked })
  | some [o] => (o, { s with asked })
  | some (o :: rest) =>
    (o, { s with
      asked
      outcomes := Assoc.put user rest s.outcomes })

end DagAccess.Groups
