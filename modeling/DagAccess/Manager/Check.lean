import DagAccess.Groups.Lookup

/-!
# Checking access

Operations of managers in a world: they are made and derived, they check access, looking up groups
where their ruling depends on them, and one of them may be the manager of the process. A manager has
lists of its own: what a parser answers is merged into them, and a manager that is derived gets
copies.
-/

namespace DagAccess.Manager

/-- The name of the logger for managers. -/
def logger : String := "dagacl.authorization.manager"

/-! ## Managers of a world -/

/-- The manager with a number. -/
def find (id : ManagerId) : Act Stored := do
  match (← get).managers[id]? with
  | some m => return m
  | none => throw (.noObject "manager")

/-- What the manager with a number is by now. -/
def view (id : ManagerId) : Act Manager := do
  match (← get).manager? id with
  | some m => return m
  | none => throw (.noObject "manager")

/-- Adds a manager to the world. -/
def add (m : Stored) : Act ManagerId := do
  let id := (← get).managers.size
  modify fun w => { w with managers := w.managers.push m }
  return id

/-- Notes that a parser was asked for a scope. -/
def noteReading (id : Nat) (scope : Acl.Scope) : Act Unit :=
  modify fun w => { w with readings := w.readings.modify id (· ++ [scope]) }

/-- The known list at a place. -/
def known (i : Nat) : Act AllowList.Ref := do
  match (← get).lists.known[i]? with
  | some x => return x
  | none => throw (.noObject "list")

/-- The turn of a parser that is not the usual one. It answers the places of two known lists. -/
def turn (id : Nat) (behaviour : Parser.Behaviour) (scope : Acl.Scope) (conf : Options) :
    Act (Nat × Nat) := do
  let w ← get
  let turn := behaviour (w.readings.getD id []) scope conf w.lists
  noteReading id scope
  Act.onLists fun s => ((), turn.edits.foldl .edit s)
  Act.of turn.answer

/-- Two lists with the users and the groups that a parser finds in options. The usual parser makes
new ones. -/
def ask (scope : Acl.Scope) (conf : Options) : Parser → Act (AllowList.Ref × AllowList.Ref)
  | .standard => do
    let users ← Act.onLists (·.place (Acl.readGrants scope conf).users)
    let groups ← Act.onLists (·.place (Acl.readGrants scope conf).groups)
    return (users, groups)
  | .custom id behaviour => do
    let (users, groups) ← turn id behaviour scope conf
    return (← known users, ← known groups)

/-- Merges what the parser of a manager finds in options into the lists of the manager. -/
def absorb (m : Stored) (scope : Acl.Scope) (conf : Options) : Act Unit := do
  let (users, groups) ← ask scope conf m.parser
  Act.onLists fun s => ((), s.merge m.users users)
  Act.onLists fun s => ((), s.merge m.groups groups)

/-- Reads options for a manager if it is enabled and there are any. -/
def readOptions (m : Stored) (scope : Acl.Scope) (conf : Option Options) (level : Logging.Level)
    (message : String) : Act Unit :=
  match conf with
  | none => return
  | some conf =>
    if m.enabled then do
      absorb m scope conf
      Act.log level logger message
    else return

/-- Makes the manager of an AM. Its lists are empty before its options are read. -/
def create (parser : Parser) (provider : Option Groups.ProviderId) (amUser : String)
    (conf : Option Options) : Act ManagerId := do
  let m ← Act.of ((make (.finding {}) provider amUser conf).mapError .acl)
  let users ← Act.onLists (·.new)
  let groups ← Act.onLists (·.new)
  let m := m.stored parser users groups
  if !m.enabled then Act.log .info logger "ACLs are disabled, access is granted to all users"
  readOptions m .am conf .info s!"ACL manager initialized for AM user {amUser}"
  add m

/-- Derives the manager of a DAG. Its lists are copies of those of its parent before its options are
read. -/
def derive (parent : ManagerId) (dagUser : String) (conf : Option Options) : Act ManagerId := do
  let parent ← find parent
  let m ← Act.of (((parent.manager (← get).lists).forDag (.finding {}) dagUser none).mapError .acl)
  let users ← Act.onLists (·.copy parent.users)
  let groups ← Act.onLists (·.copy parent.groups)
  let m := m.stored parent.parser users groups
  readOptions m .dag conf .debug s!"ACL manager derived for DAG user {dagUser}"
  add m

/-! ## Decisions -/

/-- Denies access. -/
def deny (user : String) (t : AclType) : Act Bool := do
  Act.log .debug logger s!"Access denied: user={user}, acl_type={t.label}"
  return false

/-- Decides on an action of a user. -/
def check (m : Manager) (user : String) (t : AclType) : Act Bool := do
  match m.rule user t with
  | .granted => return true
  | .denied => deny user t
  | .members allowed =>
    let outcome ← Act.attempt (Groups.lookup m.provider user)
    if let .error fault := outcome then
      if fault.leavesNoGroups then
        Act.log .warning logger s!"Failed to retrieve groups for user, user={user}: {fault.message}"
    if ← Act.of (settle allowed outcome) then return true else deny user t

/-- Decides on a right of a user over the AM. -/
def checkAm (m : Manager) (user : String) (r : Right) : Act Bool :=
  m.check user (.ofAm r)

/-- Decides on a right of a user over the DAG, which the same right over the AM implies. -/
def checkDag (m : Manager) (user : String) (r : Right) : Act Bool := do
  if ← m.check user (.ofAm r) then return true
  m.check user (.ofDag r)

/-- Decides on an action, where a right over the AM implies the one over the DAG. -/
def checkAction (m : Manager) (user : String) : AclType → Act Bool
  | .amView => m.checkAm user .view
  | .amModify => m.checkAm user .modify
  | .dagView => m.checkDag user .view
  | .dagModify => m.checkDag user .modify

/-! ## The manager of the process -/

/-- The variables that may name the user running the process. -/
def userVariables : List String := ["LOGNAME", "USER", "LNAME", "USERNAME"]

/-- The user running a process: the first variable that is not empty, or else the account. -/
def userOf (host : Host) : Option String :=
  ((userVariables.filterMap fun v => host.environment.lookup v).find? (· ≠ "")).or host.login

/-- The user running the process. -/
def runningUser : Act String := do
  match userOf (← get).host with
  | some user => return user
  | none => throw (.noObject "user")

/-- The manager of the process. It is made from the settings of a component when it is first asked
for; later the arguments do not matter. -/
def ofProcess (amUser : String) (component : String) : Act ManagerId := do
  match (← get).current with
  | some id => return id
  | none =>
    let provider ← Groups.configured component
    let amUser ← if amUser = "" then runningUser else pure amUser
    let conf ← Settings.aclOptions component
    let id ← create .standard provider amUser conf
    modify fun w => { w with current := id }
    return id

/-- Forgets the manager of the process. -/
def forgetProcess : Act Unit :=
  modify fun w => { w with current := none }

end DagAccess.Manager
