import DagAccess.Settings.Lookup

/-!
# Looking up groups

A lookup asks one provider for the groups of one user. A cache answers from what it remembers, or
asks the provider behind it and remembers the answer; a lookup that fails is not remembered. Which
provider is used for a component is a matter of its settings.
-/

namespace DagAccess.Groups

/-- The name of the logger for groups. -/
def logger : String := "dagacl.authorization.groups"

/-- Adds a provider. -/
def add (p : Provider) : Act ProviderId := do
  let id := (← get).providers.size
  modify fun w => { w with providers := w.providers.push p }
  return id

/-- Replaces a provider. -/
def replace (id : ProviderId) (p : Provider) : Act Unit :=
  modify fun w => { w with providers := w.providers.setIfInBounds id p }

/-- The contents of a cache. -/
def cacheOf (id : ProviderId) : Act Cache := do
  match (← get).providers[id]? with
  | some (.cached _ _ c) => return c
  | _ => return []

/-- Changes the contents of a cache. -/
def modifyCache (id : ProviderId) (f : Cache → Cache) : Act Unit :=
  modify fun w => { w with providers := w.providers.modify id fun
    | .cached inner lifetime c => .cached inner lifetime (f c)
    | p => p }

/-- Looks up the groups of a user in the account database. -/
def lookupAccount (user : String) : Act PrincipalSet := do
  let a := (← get).host.accounts
  if let some gid := namelessGroup? a user then
    Act.log .debug logger s!"Primary group {gid} of user {user} has no name"
  Act.of (fromAccounts a user)

/-- Lets a script answer. -/
def lookupScript (id : ProviderId) (s : Script) (user : String) : Act PrincipalSet := do
  let (outcome, next) := s.next user
  replace id (.script next)
  modify fun w => { w with clock := w.clock + outcome.advance }
  Act.of outcome.result

/-- Looks up the groups of a user. -/
def lookup (id : ProviderId) (user : String) : Act PrincipalSet := do
  match (← get).providers[id]? with
  | none => throw (.noObject "")
  | some .accounts => lookupAccount user
  | some (.command words) => Act.of (fromCommand (← get).host.commands words user)
  | some (.table groups) => return (groups.lookup user).getD ∅
  | some (.script s) => lookupScript id s user
  | some (.cached inner lifetime _) =>
    let now := (← get).clock
    modifyCache id (·.expire lifetime now)
    match (← cacheOf id).find? user with
    | some groups => return groups
    | none =>
      if _h : inner < id then
        let groups ← lookup inner user
        modifyCache id (·.store user now groups)
        return groups
      else throw (.noObject "")
termination_by id

/-- Forgets the lookups of a user, or all of them. -/
def invalidate (id : ProviderId) (user : Option String) : Act Unit :=
  modifyCache id fun c => match user with
    | none => []
    | some user => c.forget user

/-- The name of a provider. -/
def name (id : ProviderId) : Act String := do
  return describe (← get).providers id

/-- The provider that the settings of a component ask for. -/
def configured (component : String) : Act ProviderId := do
  let kind ← Settings.get component "group_mapping" none "unix"
  let inner ←
    if kind = "unix" then add .accounts
    else if kind = "shell" then add (.command usualCommand)
    else if kind = "static" then do
      let options ← Settings.sectionOptions component "groups"
      add (.table (← Act.of (readTable (options.map fun e => (e.1, .text e.2)))))
    else do
      Act.log .error logger s!"Unknown group mapping provider: {kind}, falling back to unix"
      add .accounts
  let lifetime ← Settings.getInt component "group_cache_secs" none usualLifetime id
  let provider ← if 0 < lifetime then add (.cached inner lifetime []) else pure inner
  let kindName ← name provider
  Act.log .info logger s!"Group mapping provider {kindName} loaded"
  return provider

end DagAccess.Groups
