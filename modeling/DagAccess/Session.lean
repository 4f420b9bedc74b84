import DagAccess.Check

/-!
# Sessions

A session is a list of steps in one world. Providers and managers are given names when they are
made, and later steps refer to them by name. A step that fails leaves the names as they are; what it
did before it failed stays done. The allow-lists that a step hands out are known outside from then
on, and other steps change them there.
-/

namespace DagAccess

/-- What the names of a session stand for. -/
structure Names where
  providers : List (String × Groups.ProviderId) := []
  managers : List (String × ManagerId) := []
  /-- The scripts and the parsers whose calls can be asked for. -/
  scripts : List (String × Groups.ProviderId) := []
  parsers : List (String × Nat) := []

/-- A world and the names in it. -/
structure Session where
  world : World
  names : Names := {}

/-- A session in which nothing happened yet. -/
def Session.start (host : Host) (clock : Int) : Session where
  world := .start host clock

/-- How a provider is made. -/
inductive ProviderSpec
  | accounts
  | command (words : List String)
  | table (entries : List (String × Groups.Written))
  | cached (inner : String) (lifetime : Int)
  | configured (component : String)
  | script (name : String) (outcomes : List (String × List Groups.Outcome))

/-- Where the options of a DAG come from. -/
inductive DagOptions
  | none
  | given (conf : Options)
  | file (path : String)

/-- How the clock is set. -/
inductive ClockChange
  | advance (seconds : Int)
  | set (time : Int)

/-- Steps. -/
inductive Step
  | get (component option : String) (section_ : Option String) (fallback : String)
  | getInt (component option : String) (section_ : Option String) (fallback : Option Int)
  | hasOption (component option : String) (section_ : Option String)
  | sectionOptions (component section_ : String)
  | aclOptions (component : String)
  | document (component : String)
  | dagOptions (path : String)
  | setVariable (name : String) (value : Option String)
  | write (path : String) (entry : Files.Entry)
  | remove (path : String)
  | restart
  | setPaths (change : Settings.SearchPaths → Settings.SearchPaths)
  | provider (id : String) (spec : ProviderSpec)
  | groups (id user : String)
  | providerName (id : String)
  | invalidate (id : String) (user : Option String)
  | cachedUsers (id : String)
  | clock (change : ClockChange)
  | calls (id : String)
  | manager (id : String) (provider : Option String) (amUser : String) (conf : Option Options)
      (parser : Option Parser.Behaviour)
  | dag (id parent dagUser : String) (conf : DagOptions)
  | info (id : String)
  /-- The action, or the text that is given in place of one. -/
  | check (id user : String) (t : AclType ⊕ String)
  | action (id user : String) (t : AclType)
  | matrix (id : String) (users : List String)
  | render (id : String)
  /-- Asks for an allow-list and adds a name to what was handed out. -/
  | editReturned (id : String) (ofUsers : Bool) (t : AclType) (name : String)
  /-- Changes lists that are known outside. -/
  | edit (e : AllowList.Edit)
  | processManager (id amUser component : String)
  | forgetProcessManager
  | run (words : List String) (expected : Int) (strict : Bool)
  | handlerStream (args : String)
  | handlerNames (option : Option String)
  | configureLogging (text : String) (safe : Bool) (failure : Option String)
  | startLogging (name : String)
  | annotate (logger : String)
  | log (logger : String) (level : Logging.Level) (message : String)
  | enterDag (tag : String)
  | leaveDag
  | loggers (names : List String)
  | main (arguments : List String)

/-- What is known about a manager. -/
structure ManagerInfo where
  amUser : String
  dagUser : Option String
  enabled : Bool
  grants : Grants

/-- The settings of a logger, with the level that counts and its handlers. -/
structure LoggerInfo where
  level : Logging.Level
  effective : Logging.Level
  propagate : Bool
  handlers : List Logging.Handler

/-- What steps answer. -/
inductive Answer
  | nothing
  | text (s : String)
  | integer (n : Option Int)
  | truth (b : Bool)
  | texts (ss : List String)
  /-- Options in any order. -/
  | options (o : Options)
  /-- Pairs in their order. -/
  | pairs (o : Options)
  | document (d : Ini.Document)
  | scopes (ss : List Acl.Scope)
  | info (i : ManagerInfo)
  | matrix (rows : List (String × List Bool))
  | edited (returned : AllowList) (grants : Grants)
  | process (sameAs : List String) (amUser : String)
  | result (r : Command.Result)
  | stream (s : Logging.Stream)
  | loggers (ls : List (String × LoggerInfo))
  /-- The status of the command, or the fault that it ended with. -/
  | main (status : Except Fault Nat)

/-- Operations of a session. -/
abbrev Play := StateT Names Act

namespace Session

/-- The number under a name. -/
def find (ids : List (String × Nat)) (id : String) : Act Nat :=
  match ids.lookup id with
  | some n => return n
  | none => throw (.noObject id)

/-- The provider with a name. -/
def provider (id : String) : Play Groups.ProviderId := do
  find (← get).providers id

/-- The number of the manager with a name. -/
def managerId (id : String) : Play ManagerId := do
  find (← get).managers id

/-- What the manager with a name is by now. -/
def manager (id : String) : Play Manager := do
  (Manager.view (← managerId id) : Act Manager)

/-- Names a manager. -/
def nameManager (id : String) (n : ManagerId) : Play Unit :=
  modify fun ns => { ns with managers := Assoc.put id n ns.managers }

/-- Makes a provider and names it; the answer is the name of its kind. -/
def makeProvider (id : String) (spec : ProviderSpec) : Play String := do
  let n ← match spec with
    | .accounts => Groups.add .accounts
    | .command words => Groups.add (.command words)
    | .table entries => do
      let table ← (Act.of (Groups.readTable entries) : Act _)
      Groups.add (.table table)
    | .cached inner lifetime => do
      let inner ← provider inner
      Groups.add (.cached inner lifetime [])
    | .configured component => Groups.configured component
    | .script name outcomes => do
      let n ← Groups.add (.script { name, outcomes })
      modify fun ns => { ns with scripts := Assoc.put id n ns.scripts }
      pure n
  modify fun ns => { ns with providers := Assoc.put id n ns.providers }
  Groups.name n

/-- Makes the manager of an AM and names it. -/
def makeManager (id : String) (provider? : Option String) (amUser : String) (conf : Option Options)
    (parser? : Option Parser.Behaviour) : Play Unit := do
  let p ← match provider? with
    | none => pure none
    | some name => some <$> provider name
  let parser ← match parser? with
    | none => pure Parser.standard
    | some behaviour => do
      let n := (← (MonadState.get : Act World)).readings.size
      (modifyThe World fun w => { w with readings := w.readings.push [] } : Act Unit)
      modify fun ns => { ns with parsers := Assoc.put (id ++ ".parser") n ns.parsers }
      pure (.custom n behaviour)
  nameManager id (← (Manager.create parser p amUser conf : Act ManagerId))

/-- Derives the manager of a DAG and names it. -/
def makeDag (id parent dagUser : String) (conf : DagOptions) : Play Unit := do
  let parent ← managerId parent
  let conf ← match conf with
    | .none => pure none
    | .given conf => pure (some conf)
    | .file path => some <$> (Settings.dagOptions path : Act Options)
  nameManager id (← (Manager.derive parent dagUser conf : Act ManagerId))

/-- The users or the scopes that a script or a parser was asked for. -/
def calls (id : String) : Play Answer := do
  let ns ← get
  let w ← (MonadState.get : Act World)
  match ns.scripts.lookup id, ns.parsers.lookup id with
  | some n, _ =>
    match w.providers[n]? with
    | some (.script s) => return .texts s.asked
    | _ => throw (.noObject id)
  | none, some n => return .scopes (w.readings.getD n [])
  | none, none => throw (.noObject id)

/-- Every decision on some users: the four actions for themselves, then with the rights over the
AM. -/
def matrix (m : Manager) (users : List String) : Act (List (String × List Bool)) :=
  users.mapM fun user => do
    let plain ← AclType.all.mapM (m.check user)
    let implied ← AclType.all.mapM (m.checkAction user)
    return (user, plain ++ implied)

/-- What is known about the manager with a name. Its lists are handed out as copies. -/
def info (id : String) : Play ManagerInfo := do
  let m ← (Manager.find (← managerId id) : Act Manager.Stored)
  let users ← (Act.onLists (·.give m.users) : Act AllowList.Ref)
  let groups ← (Act.onLists (·.give m.groups) : Act AllowList.Ref)
  let s := (← (MonadState.get : Act World)).lists
  return ⟨m.amUser, m.dagUser, m.enabled, ⟨s.list users, s.list groups⟩⟩

/-- Adds a name to a list that a manager hands out. The answer is that list, and what the manager
grants then. -/
def editReturned (id : String) (ofUsers : Bool) (t : AclType) (name : String) : Play Answer := do
  let m ← (Manager.find (← managerId id) : Act Manager.Stored)
  let returned ← (Act.onLists fun s =>
    let (copy, s) := s.give (if ofUsers then m.users else m.groups)
    (copy, s.alter copy t (·.insert name)) : Act AllowList.Ref)
  let s := (← (MonadState.get : Act World)).lists
  return .edited (s.list returned) (m.manager s).grants

/-- The manager of the process, under a name; the answer tells the names that it had before. -/
def processManager (id amUser component : String) : Play Answer := do
  let n ← (Manager.ofProcess amUser component : Act ManagerId)
  let same := ((← get).managers.filter (·.2 = n)).map Prod.fst
  nameManager id n
  return .process (same.mergeSort (· ≤ ·)) (← manager id).amUser

/-- Configures logging by a text. The work may be made to fail at its end. -/
def configureLogging (text : String) (safe : Bool) (failure : Option String) : Act Unit := do
  let (d, fault) := ({} : Ini.Document).read (.ofText "<string>" text)
  if let some cause := fault then throw (.ini cause)
  let work : ExceptT Fault (StateM Logging.State) Unit := do
    (Logging.configure d).adapt .logging
    if let some message := failure then throw (.raised message)
  Act.onLogging (if safe then Logging.safely work else work)

/-- What is known about a logger, which exists from now on. -/
def loggerInfo (name : String) : Act (String × LoggerInfo) := do
  Act.modifyLogging (·.mention name)
  let s := (← get).logging
  let l := s.get name
  return (name, { level := l.level, effective := s.effective name, propagate := l.propagate,
                  handlers := l.handlers.filterMap fun (id : Nat) => s.handlers[id]? })

/-- Changes the files. -/
def changeFiles (change : Files → Except SystemError Files) : Act Unit := do
  let w ← get
  match change w.host.files with
  | .ok files => set { w with host := { w.host with files } }
  | .error cause => throw (.system cause)

/-- Sets or removes a variable of the environment. -/
def setVariable (name : String) (value : Option String) : Act Unit :=
  modify fun w =>
    let others := Assoc.erase name w.host.environment
    let environment := match value with
      | none => others
      | some text => (name, text) :: others
    { w with host := { w.host with environment } }

/-- One step. -/
def play : Step → Play Answer
  | .get component option section_ fallback =>
    .text <$> (Settings.get component option section_ fallback : Act String)
  | .getInt component option section_ fallback =>
    .integer <$> (Settings.getInt component option section_ fallback some : Act (Option Int))
  | .hasOption component option section_ =>
    .truth <$> (Settings.hasOption component option section_ : Act Bool)
  | .sectionOptions component section_ =>
    .options <$> (Settings.sectionOptions component section_ : Act Options)
  | .aclOptions component => .options <$> (Settings.aclOptions component : Act Options)
  | .document component => .document <$> (Settings.document component : Act Ini.Document)
  | .dagOptions path => .pairs <$> (Settings.dagOptions path : Act Options)
  | .setVariable name value => do
    setVariable name value
    return .nothing
  | .write path entry => do
    changeFiles fun files => match entry with
      | .file bytes => files.write path bytes
      | .directory => .ok (files.put path .directory)
    return .nothing
  | .remove path => do
    changeFiles (·.remove path)
    return .nothing
  | .restart => do
    Act.restart
    return .nothing
  | .setPaths change => do
    (modifyThe World fun w =>
      { w with settings := { w.settings with paths := change w.settings.paths } } : Act Unit)
    return .nothing
  | .provider id spec => .text <$> makeProvider id spec
  | .groups id user => do
    let groups ← (Groups.lookup (← provider id) user : Act PrincipalSet)
    return .texts (groups.toList.mergeSort (· ≤ ·))
  | .providerName id => do
    return .text (← (Groups.name (← provider id) : Act String))
  | .invalidate id user => do
    (Groups.invalidate (← provider id) user : Act Unit)
    return .nothing
  | .cachedUsers id => do
    return .texts (← (Groups.cacheOf (← provider id) : Act Groups.Cache)).users
  | .clock change => do
    (modifyThe World fun w => { w with clock := match change with
      | .advance seconds => w.clock + seconds
      | .set time => time } : Act Unit)
    return .nothing
  | .calls id => calls id
  | .manager id provider? amUser conf parser? => do
    makeManager id provider? amUser conf parser?
    return .nothing
  | .dag id parent dagUser conf => do
    makeDag id parent dagUser conf
    return .nothing
  | .info id => .info <$> info id
  | .check id user t => do
    let m ← manager id
    match t with
    | .inl t => .truth <$> (m.check user t : Act Bool)
    | .inr shown => throw (.unknownAclType shown)
  | .action id user t => do
    let m ← manager id
    .truth <$> (m.checkAction user t : Act Bool)
  | .matrix id users => do
    let m ← manager id
    .matrix <$> (matrix m users : Act _)
  | .render id => do
    let m ← manager id
    return .pairs ([Right.view, .modify].map fun r => (Manager.rightName r, m.render r))
  | .editReturned id ofUsers t name => editReturned id ofUsers t name
  | .edit e => do
    (Act.onLists fun s => ((), s.edit e) : Act Unit)
    return .nothing
  | .processManager id amUser component => processManager id amUser component
  | .forgetProcessManager => do
    Manager.forgetProcess
    return .nothing
  | .run words expected strict => do
    let commands := (← (MonadState.get : Act World)).host.commands
    .result <$> (Act.of ((Command.run commands words expected strict).mapError .ofRun) : Act _)
  | .handlerStream args =>
    .stream <$> (Act.of ((Logging.streamOf args).mapError .logging) : Act Logging.Stream)
  | .handlerNames option => return .texts (Logging.handlerNames option)
  | .configureLogging text safe failure => do
    (configureLogging text safe failure : Act Unit)
    return .nothing
  | .startLogging name => .text <$> (Logging.start name : Act String)
  | .annotate logger => do
    Act.modifyLogging fun s => Logging.annotate (s.mention logger) logger
    return .nothing
  | .log logger level message => do
    (Act.log level logger message : Act Unit)
    return .nothing
  | .enterDag tag => do
    Act.modifyLogging fun s => { s with tags := tag :: s.tags }
    return .nothing
  | .leaveDag => do
    if (← (MonadState.get : Act World)).logging.tags.isEmpty then throw (.noObject "context")
    Act.modifyLogging fun s => { s with tags := s.tags.drop 1 }
    return .nothing
  | .loggers names => .loggers <$> (names.mapM loggerInfo : Act _)
  | .main arguments => do
    return .main (← (Act.attempt (Check.main arguments) : Act (Except Fault Nat)))

/-- One step with its outcome; names given by a step that fails are not kept. -/
def step (s : Session) (x : Step) : Except Fault Answer × Session :=
  match (play x).run s.names |>.run s.world with
  | (.ok (answer, names), world) => (.ok answer, ⟨world, names⟩)
  | (.error fault, world) => (.error fault, { s with world })

/-- What a step has to show: its outcome, the records that it logged, and what it wrote to both
streams. -/
structure Report where
  outcome : Except Fault Answer
  records : List Logging.Record
  out : String
  err : String

/-- Forgets what was logged and written. -/
def clearOutput (s : Session) : Session :=
  { s with world := { s.world with
    logging := { s.world.logging with records := [], out := "", err := "" } } }

/-- Steps in their order with what each of them has to show. -/
def run (s : Session) : List Step → List Report
  | [] => []
  | x :: rest =>
    let (outcome, after) := step s.clearOutput x
    let l := after.world.logging
    { outcome, records := l.records, out := l.out, err := l.err } :: run after rest

end Session

end DagAccess
