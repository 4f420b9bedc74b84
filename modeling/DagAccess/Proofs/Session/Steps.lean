import DagAccess.Proofs.Manager.Growth
import DagAccess.Session

/-!
# Steps of a session

What a step does to the world is confined to every frame in which managers may be made and the
process may go on or start anew (`FreesPlays`), and of the names it changes those that it gives
itself. Both are followed through the building blocks of steps (`Steady`, `play_steady`). So the
world changes within the frame through all steps of a session (`after_rel`). One such frame says
that managers are only added (`growing_freesPlays`).
-/

namespace DagAccess

open Stateful (Confined)

/-- Names may become anything. -/
def Names.anything : Frame Names where
  rel _ _ := True
  refl _ := trivial
  trans _ _ := trivial

/-- The step ends the process and starts another one. -/
def Step.restarts : Step → Bool
  | .restart | .main _ => true
  | _ => false

/-- The name that a step gives to a manager, if it succeeds. -/
def Step.binds : Step → Option String
  | .manager id _ _ _ _ => some id
  | .dag id _ _ _ => some id
  | .processManager id _ _ => some id
  | _ => none

/-- What the options submitted with a DAG are in a world. -/
def DagOptions.Are (w : World) : DagOptions → Option Options → Prop
  | .none, options => options = Option.none
  | .given conf, options => options = some conf
  | .file path, options => ∃ conf, (Settings.dagOptions path w).1 = .ok conf ∧ options = some conf

/-- In the frame work may be done, managers made and derived, and lists worked on that are not
private. -/
structure Frame.FreesPlays (F : Frame World) : Prop extends freesWork : F.FreesWork where
  create : ∀ parser provider amUser conf, Confined F (Manager.create parser provider amUser conf)
  derive : ∀ parent dagUser conf, Confined F (Manager.derive parent dagUser conf)
  lists : ∀ {α : Type} {work : AllowList.Store → α × AllowList.Store},
    (∀ s, AllowList.Store.Spares [] s (work s).2) → Confined F (Act.onLists work)

namespace Session

variable {α β : Type} {F : Frame World} {G : Frame Names}

/-! ## Runs -/

/-- The second play runs with the names and in the world that the first one leaves. -/
theorem run_bind (p : Play α) (next : α → Play β) (names : Names) (w : World) :
    (p >>= next) names w = match p names w with
      | (.ok (a, given), after) => next a given after
      | (.error fault, after) => (.error fault, after) := by
  have step : (p >>= next) names w = (p names >>= fun (a, given) => next a given) w := rfl
  rw [step, Act.run_bind]
  rcases p names w with ⟨outcome, after⟩
  cases outcome <;> rfl

/-- A sequence answers only if both plays do. -/
theorem of_bind_ok {p : Play α} {next : α → Play β} {names given : Names} {w after : World} {b : β}
    (run : (p >>= next) names w = (.ok (b, given), after)) :
    ∃ a named middle, p names w = (.ok (a, named), middle) ∧
      next a named middle = (.ok (b, given), after) := by
  have step : (p names >>= fun (a, named) => next a named) w = (.ok (b, given), after) := run
  obtain ⟨⟨a, named⟩, middle, first, later⟩ := Stateful.of_bind_ok step
  exact ⟨a, named, middle, first, later⟩

theorem run_lift (act : Act α) (names : Names) (w : World) :
    (liftM act : Play α) names w = match act w with
      | (.ok a, after) => (.ok (a, names), after)
      | (.error fault, after) => (.error fault, after) :=
  Act.run_bind act (fun a => pure (a, names)) w

/-- An operation in the world leaves names as they are. -/
theorem of_lift_ok {act : Act α} {names given : Names} {w after : World} {a : α}
    (run : (liftM act : Play α) names w = (.ok (a, given), after)) :
    act w = (.ok a, after) ∧ given = names := by
  have step : (act >>= fun a => pure (a, names)) w = (.ok (a, given), after) := run
  obtain ⟨b, middle, ran, answered⟩ := Stateful.of_bind_ok step
  cases answered
  exact ⟨ran, rfl⟩

theorem run_get (names : Names) (w : World) :
    (get : Play Names) names w = (.ok (names, names), w) := rfl

/-- The number that a name of a manager stands for. -/
theorem run_managerId (id : String) (names : Names) (w : World) : managerId id names w =
    match names.managers.lookup id with
    | some n => (.ok (n, names), w)
    | none => (.error (.noObject id), w) := by
  unfold managerId find
  rw [run_bind, run_get]
  simp only [run_lift]
  cases names.managers.lookup id <;> rfl

theorem of_managerId_ok {id : String} {n : ManagerId} {names given : Names} {w after : World}
    (run : managerId id names w = (.ok (n, given), after)) :
    names.managers.lookup id = some n ∧ given = names ∧ after = w := by
  rw [run_managerId] at run
  cases named : names.managers.lookup id with
  | none =>
    rw [named] at run
    cases run
  | some k =>
    rw [named] at run
    cases run
    exact ⟨rfl, rfl, rfl⟩

/-! ## Steadiness -/

/-- The world and the names change within frames. -/
structure Steady (F : Frame World) (G : Frame Names) (p : Play α) : Prop where
  world : ∀ names, Confined F (p names)
  names : ∀ {names : Names} {w : World} {a : α} {given : Names} {after : World},
    p names w = (.ok (a, given), after) → G.rel names given

namespace Steady

theorem pure (a : α) : Steady F G (Pure.pure a : Play α) where
  world names := .pure (a, names)
  names run := by
    cases run
    exact G.refl _

theorem throw (fault : Fault) : Steady F G (MonadExcept.throw fault : Play α) where
  world names := .throw fault
  names run := by cases run

theorem lift {act : Act α} (confined : Confined F act) : Steady F G (liftM act : Play α) where
  world names := .bind confined fun a => .pure (a, names)
  names {names w a given after} run := by
    obtain ⟨-, rfl⟩ := of_lift_ok run
    exact G.refl _

theorem get : Steady F G (MonadState.get : Play Names) where
  world names := .pure (names, names)
  names run := by
    cases run
    exact G.refl _

theorem modify {f : Names → Names} (allowed : ∀ names, G.rel names (f names)) :
    Steady F G (modify f : Play Unit) where
  world names := .pure ((), f names)
  names run := by
    cases run
    exact allowed _

theorem bind {p : Play α} {next : α → Play β} (first : Steady F G p)
    (later : ∀ a, Steady F G (next a)) : Steady F G (p >>= next) where
  world names := .bind (first.world names) fun (a, given) => (later a).world given
  names {names w b given after} run := by
    obtain ⟨a, named, middle, ran, rest⟩ := of_bind_ok run
    exact G.trans (first.names ran) ((later a).names rest)

theorem map {f : α → β} {p : Play α} (steady : Steady F G p) : Steady F G (f <$> p) :=
  bind steady fun a => pure (f a)

end Steady

/-! ## Steps -/

theorem find_confined (ids : List (String × Nat)) (id : String) : Confined F (find ids id) := by
  unfold find
  cases ids.lookup id with
  | some n => exact .pure n
  | none => exact .throw _

theorem provider_steady (id : String) : Steady F G (provider id) := by
  unfold provider
  exact .bind .get fun names => .lift (find_confined _ _)

theorem managerId_steady (id : String) : Steady F G (managerId id) := by
  unfold managerId
  exact .bind .get fun names => .lift (find_confined _ _)

theorem manager_steady (id : String) : Steady F G (manager id) := by
  unfold manager
  exact .bind (managerId_steady id) fun n => .lift (Frame.FreesLookups.view n)

/-- Names of others than managers may be given. -/
def GivesOthers (G : Frame Names) : Prop :=
  ∀ {before after : Names}, after.managers = before.managers → G.rel before after

theorem makeProvider_steady (work : F.FreesWork) (others : GivesOthers G) (id : String)
    (spec : ProviderSpec) : Steady F G (makeProvider id spec) := by
  have lookups := work.freesLookups
  have named : ∀ n, Steady F G (do
      modify fun ns => { ns with providers := Assoc.put id n ns.providers }
      Groups.name n : Play String) :=
    fun n => .bind (.modify fun _ => others rfl) fun _ => .lift (Frame.FreesLookups.providerName n)
  unfold makeProvider
  cases spec with
  | accounts => exact .bind (.lift (lookups.addProvider _)) named
  | command words => exact .bind (.lift (lookups.addProvider _)) named
  | table entries =>
    exact .bind (.lift (Act.confined_of _)) fun _ => .bind (.lift (lookups.addProvider _)) named
  | cached inner lifetime =>
    exact .bind (provider_steady inner) fun _ => .bind (.lift (lookups.addProvider _)) named
  | configured component => exact .bind (.lift (lookups.configured component)) named
  | script name outcomes =>
    refine .bind (.lift (lookups.addProvider _)) fun n =>
      .bind (.modify fun _ => others rfl) fun _ => ?_
    exact .bind (.pure n) named

/-- The name may be given to a manager. -/
def Gives (G : Frame Names) (id : String) : Prop :=
  ∀ (names : Names) (n : ManagerId),
    G.rel names { names with managers := Assoc.put id n names.managers }

theorem nameManager_steady {id : String} (gives : Gives G id) (n : ManagerId) :
    Steady F G (nameManager id n) :=
  .modify fun names => gives names n

theorem makeManager_steady (plays : F.FreesPlays) (others : GivesOthers G) {id : String}
    (gives : Gives G id) (provider? : Option String) (amUser : String) (conf : Option Options)
    (parser? : Option Parser.Behaviour) :
    Steady F G (makeManager id provider? amUser conf parser?) := by
  have made : ∀ parser p, Steady F G
      ((liftM (Manager.create parser p amUser conf) : Play ManagerId) >>= nameManager id) :=
    fun parser p => .bind (.lift (plays.create _ _ _ _)) fun n => nameManager_steady gives n
  have noted :
      Steady F G (modifyThe World fun w => { w with readings := w.readings.push [] } : Act Unit) :=
    .lift (plays.freesWork.modify (fun _ => rfl) (fun _ => rfl) fun _ => rfl)
  unfold makeManager
  cases provider? with
  | none =>
    refine .bind (.pure none) fun p => ?_
    cases parser? with
    | none => exact .bind (.pure _) fun parser => made parser p
    | some behaviour =>
      refine .bind (.lift .get) fun w => .bind noted fun _ => ?_
      exact .bind (.modify fun _ => others rfl) fun _ => .bind (.pure _) fun parser => made parser p
  | some name =>
    refine .bind (.map (provider_steady name)) fun p => ?_
    cases parser? with
    | none => exact .bind (.pure _) fun parser => made parser p
    | some behaviour =>
      refine .bind (.lift .get) fun w => .bind noted fun _ => ?_
      exact .bind (.modify fun _ => others rfl) fun _ => .bind (.pure _) fun parser => made parser p

theorem processManager_steady (plays : F.FreesPlays) {id : String} (gives : Gives G id)
    (amUser component : String) : Steady F G (processManager id amUser component) := by
  unfold processManager
  refine .bind (.lift (plays.freesWork.ofProcess plays.create _ _)) fun n =>
    .bind .get fun names => ?_
  exact .bind (nameManager_steady gives n) fun _ => .bind (manager_steady id) fun m => .pure _

theorem calls_steady (id : String) : Steady F G (calls id) := by
  unfold calls
  refine .bind .get fun names => .bind (.lift .get) fun w => ?_
  split
  · split
    · exact .pure _
    · exact .throw _
  · exact .pure _
  · exact .throw _

theorem matrix_confined (work : F.FreesWork) (m : Manager) (users : List String) :
    Confined F (matrix m users) := by
  have lookups := work.freesLookups
  refine .mapM (fun user => .bind (.mapM (fun t => lookups.check m user t) _) fun plain => ?_) _
  exact .bind (.mapM (fun t => lookups.checkAction m user t) _) fun implied => .pure _

theorem configureLogging_confined (work : F.FreesWork) (text : String) (safe : Bool)
    (failure : Option String) : Confined F (configureLogging text safe failure) := by
  unfold configureLogging
  dsimp only
  split
  · exact .throw_bind _ _
  · exact work.onLogging _

theorem loggerInfo_confined (work : F.FreesWork) (name : String) :
    Confined F (loggerInfo name) := by
  unfold loggerInfo
  exact .bind (work.modifyLogging _) fun _ => .bind .get fun w => .pure _

theorem changeFiles_confined (work : F.FreesWork) (change : Files → Except SystemError Files) :
    Confined F (changeFiles change) := by
  unfold changeFiles
  intro w
  rw [Act.run_bind, Act.run_get]
  simp only
  cases change w.host.files with
  | ok files => exact work.free rfl rfl rfl
  | error cause => exact F.refl _

theorem setVariable_confined (work : F.FreesWork) (name : String) (value : Option String) :
    Confined F (setVariable name value) :=
  work.modify (fun _ => rfl) (fun _ => rfl) fun _ => rfl

theorem info_steady (plays : F.FreesPlays) (id : String) : Steady F G (info id) := by
  have given : ∀ x, Confined F (Act.onLists (·.give x)) := fun x =>
    plays.lists fun s => AllowList.Store.give_spares s x
  unfold info
  refine .bind (managerId_steady id) fun n => .bind (.lift (Frame.FreesLookups.find n)) fun m => ?_
  exact .bind (.lift (given _)) fun _ => .bind (.lift (given _)) fun _ =>
    .bind (.lift .get) fun _ => .pure _

theorem editReturned_steady (plays : F.FreesPlays) (id : String) (ofUsers : Bool) (t : AclType)
    (name : String) : Steady F G (editReturned id ofUsers t name) := by
  unfold editReturned
  refine .bind (managerId_steady id) fun n => .bind (.lift (Frame.FreesLookups.find n)) fun m => ?_
  refine .bind (.lift (plays.lists fun s => ?_)) fun _ => .bind (.lift .get) fun _ => .pure _
  exact AllowList.Store.spares_of_given (AllowList.Store.alter_spares _ _ t _)

theorem edit_confined (plays : F.FreesPlays) (e : AllowList.Edit) :
    Confined F (Act.onLists fun s => ((), s.edit e)) :=
  plays.lists fun s => AllowList.Store.edit_spares s e

/-! ## Deriving -/

theorem makeDag_steady (plays : F.FreesPlays) {id : String} (gives : Gives G id)
    (parent dagUser : String) (conf : DagOptions) :
    Steady F G (makeDag id parent dagUser conf) := by
  have derived : ∀ n options, Steady F G
      ((liftM (Manager.derive n dagUser options) : Play ManagerId) >>= nameManager id) :=
    fun n options => .bind (.lift (plays.derive n dagUser options)) fun k =>
      nameManager_steady gives k
  unfold makeDag
  refine .bind (managerId_steady parent) fun n => ?_
  cases conf with
  | none => exact .bind (.pure none) (derived n)
  | given conf => exact .bind (.pure (some conf)) (derived n)
  | file path => exact .bind (.map (.lift (Frame.FreesLookups.dagOptions path))) (derived n)

theorem growing_freesPlays : World.growing.FreesPlays where
  freesWork := World.growing_freesWork
  create := Manager.create_grows
  derive := Manager.derive_grows
  lists spares := fun w => World.growing_of_sparing ⟨rfl, spares w.lists⟩

theorem run_dagOptions (path : String) (w : World) :
    Settings.dagOptions path w = ((Settings.dagOptions path w).1, w) := by
  unfold Settings.dagOptions
  rw [Act.run_bind, Act.run_get]
  simp only
  cases w.host.files.read path with
  | error cause => rfl
  | ok bytes => simp only [Act.run_of]

/-- The manager of a DAG is derived from the one that its parent's name stands for, and is named. -/
theorem makeDag_ok {id parent dagUser : String} {conf : DagOptions} {names given : Names}
    {w after : World} (run : makeDag id parent dagUser conf names w = (.ok ((), given), after)) :
    ∃ n options k, names.managers.lookup parent = some n ∧ conf.Are w options ∧
      Manager.derive n dagUser options w = (.ok k, after) ∧
      given = { names with managers := Assoc.put id k names.managers } := by
  obtain ⟨n, names', w', asked, rest⟩ := of_bind_ok run
  obtain ⟨found, rfl, rfl⟩ := of_managerId_ok asked
  obtain ⟨options, are, derives⟩ : ∃ options, conf.Are w' options ∧
      (liftM (Manager.derive n dagUser options) >>= nameManager id : Play Unit) names' w' =
        (.ok ((), given), after) := by
    cases conf with
    | none => exact ⟨none, rfl, rest⟩
    | given conf => exact ⟨some conf, rfl, rest⟩
    | file path =>
      obtain ⟨options, named, middle, read, derives⟩ := of_bind_ok rest
      have mapped :
        ((liftM (Settings.dagOptions path) : Play Options) >>= fun conf => pure (some conf))
          names' w' = (.ok (options, named), middle) := read
      obtain ⟨conf, given, last, lifted, answered⟩ := of_bind_ok mapped
      cases answered
      obtain ⟨submitted, rfl⟩ := of_lift_ok lifted
      -- reading the file changes nothing, so the parent is still looked at in the same world
      rw [run_dagOptions] at submitted
      obtain ⟨answer, rfl⟩ := Prod.mk.inj submitted
      exact ⟨some conf, ⟨conf, answer, rfl⟩, derives⟩
  obtain ⟨k, named, middle, lifted, naming⟩ := of_bind_ok derives
  obtain ⟨ran, rfl⟩ := of_lift_ok lifted
  cases naming
  exact ⟨n, options, k, found, are, ran, rfl⟩

/-! ## Any step -/

/-- Whatever a step does, the world changes within a frame in which it may, and of the names of
managers the step changes the one that it gives itself. -/
theorem play_steady (plays : F.FreesPlays) (others : GivesOthers G) {x : Step}
    (gives : ∀ id, x.binds = some id → Gives G id)
    (anew : x.restarts = true → Confined F Act.restart ∧
      ∀ arguments, Confined F (Check.main arguments)) :
    Steady F G (play x) := by
  have work := plays.freesWork
  have lookups := work.freesLookups
  have settings := lookups.freesSettings
  cases x with
  | get component option section_ fallback => exact .map (.lift (settings.get _ _ _ _))
  | getInt component option section_ fallback => exact .map (.lift (settings.getInt _ _ _ _ _))
  | hasOption component option section_ => exact .map (.lift (settings.hasOption _ _ _))
  | sectionOptions component section_ => exact .map (.lift (settings.sectionOptions _ _))
  | aclOptions component => exact .map (.lift (settings.aclOptions _))
  | document component => exact .map (.lift (settings.document _))
  | dagOptions path => exact .map (.lift (Frame.FreesLookups.dagOptions _))
  | setVariable name value => exact .bind (.lift (setVariable_confined work _ _)) fun _ => .pure _
  | write path entry => exact .bind (.lift (changeFiles_confined work _)) fun _ => .pure _
  | remove path => exact .bind (.lift (changeFiles_confined work _)) fun _ => .pure _
  | restart => exact .bind (.lift (anew rfl).1) fun _ => .pure _
  | setPaths change =>
    exact .bind (.lift (work.modify (fun _ => rfl) (fun _ => rfl) fun _ => rfl)) fun _ => .pure _
  | provider id spec => exact .map (makeProvider_steady work others id spec)
  | groups id user =>
    exact .bind (provider_steady id) fun _ => .bind (.lift (lookups.lookup _ _)) fun _ => .pure _
  | providerName id =>
    exact .bind (provider_steady id) fun _ =>
      .bind (.lift (Frame.FreesLookups.providerName _)) fun _ => .pure _
  | invalidate id user =>
    exact .bind (provider_steady id) fun _ =>
      .bind (.lift (lookups.invalidate _ _)) fun _ => .pure _
  | cachedUsers id =>
    exact .bind (provider_steady id) fun _ =>
      .bind (.lift (Frame.FreesLookups.cacheOf _)) fun _ => .pure _
  | clock change =>
    exact .bind (.lift (work.modify (fun _ => rfl) (fun _ => rfl) fun _ => rfl)) fun _ => .pure _
  | calls id => exact calls_steady id
  | manager id provider? amUser conf parser? =>
    exact .bind (makeManager_steady plays others (gives id rfl) _ _ _ _) fun _ => .pure _
  | dag id parent dagUser conf =>
    exact .bind (makeDag_steady plays (gives id rfl) _ _ _) fun _ => .pure _
  | info id => exact .map (info_steady plays id)
  | check id user t =>
    refine .bind (manager_steady id) fun m => ?_
    cases t with
    | inl t => exact .map (.lift (lookups.check m user t))
    | inr shown => exact .throw _
  | action id user t =>
    exact .bind (manager_steady id) fun m => .map (.lift (lookups.checkAction m user t))
  | matrix id users =>
    exact .bind (manager_steady id) fun m => .map (.lift (matrix_confined work m users))
  | render id => exact .bind (manager_steady id) fun _ => .pure _
  | editReturned id ofUsers t name => exact editReturned_steady plays id ofUsers t name
  | edit e => exact .bind (.lift (edit_confined plays e)) fun _ => .pure _
  | processManager id amUser component => exact processManager_steady plays (gives id rfl) _ _
  | forgetProcessManager => exact .bind (.lift work.forgetProcess) fun _ => .pure _
  | run words expected strict =>
    exact .bind (.lift .get) fun _ => .map (.lift (Act.confined_of _))
  | handlerStream args => exact .map (.lift (Act.confined_of _))
  | handlerNames option => exact .pure _
  | configureLogging text safe failure =>
    exact .bind (.lift (configureLogging_confined work _ _ _)) fun _ => .pure _
  | startLogging name => exact .map (.lift (work.startLogging _))
  | annotate logger => exact .bind (.lift (work.modifyLogging _)) fun _ => .pure _
  | log logger level message => exact .bind (.lift (work.log _ _ _)) fun _ => .pure _
  | enterDag tag => exact .bind (.lift (work.modifyLogging _)) fun _ => .pure _
  | leaveDag =>
    refine .bind (.lift .get) fun w => ?_
    split
    · exact .bind (.throw _) fun _ => .bind (.lift (work.modifyLogging _)) fun _ => .pure _
    · exact .bind (.lift (work.modifyLogging _)) fun _ => .pure _
  | loggers names => exact .map (.lift (.mapM (loggerInfo_confined work) _))
  | main arguments =>
    exact .bind (.lift (Act.confined_attempt ((anew rfl).2 _))) fun _ => .pure _

/-! ## Outcomes of steps -/

theorem step_run (s : Session) (x : Step) : step s x =
    match play x s.names s.world with
    | (.ok (answer, names), world) => (.ok answer, ⟨world, names⟩)
    | (.error fault, world) => (.error fault, { s with world }) := rfl

theorem of_step_ok {s next : Session} {x : Step} {answer : Answer}
    (run : step s x = (.ok answer, next)) :
    ∃ names world, play x s.names s.world = (.ok (answer, names), world) ∧
      next = ⟨world, names⟩ := by
  rw [step_run] at run
  rcases played : play x s.names s.world with ⟨outcome, world⟩
  rw [played] at run
  cases outcome with
  | ok pair =>
    cases run
    exact ⟨pair.2, world, rfl, rfl⟩
  | error fault => cases run

/-- The world changes within the frame in each step, whether it fails or not. -/
theorem step_rel (plays : F.FreesPlays) (s : Session) {x : Step}
    (anew : x.restarts = true → Confined F Act.restart ∧
      ∀ arguments, Confined F (Check.main arguments)) :
    F.rel s.world (step s x).2.world := by
  have steady : Steady F Names.anything (play x) :=
    play_steady plays (fun _ => trivial) (fun _ _ _ _ => trivial) anew
  have changed := steady.world s.names s.world
  rw [step_run]
  rcases run : play x s.names s.world with ⟨outcome, world⟩
  rw [run] at changed
  cases outcome with
  | ok pair => exact changed
  | error fault => exact changed

/-- The session after steps. -/
def after (s : Session) (xs : List Step) : Session :=
  xs.foldl (fun s x => (step s.clearOutput x).2) s

/-- What later steps have to show is what they show in the session after the first ones. -/
theorem run_append (s : Session) (xs ys : List Step) :
    s.run (xs ++ ys) = s.run xs ++ (s.after xs).run ys := by
  induction xs generalizing s with
  | nil => rfl
  | cons x rest ih =>
    rw [List.cons_append, run, run, List.cons_append]
    exact congrArg _ (ih _)

/-- The world changes within the frame through all steps. -/
theorem after_rel (plays : F.FreesPlays) (s : Session) {xs : List Step}
    (anew : ∀ x ∈ xs, x.restarts = true →
      Confined F Act.restart ∧ ∀ arguments, Confined F (Check.main arguments)) :
    F.rel s.world (s.after xs).world := by
  induction xs generalizing s with
  | nil => exact F.refl _
  | cons x rest ih =>
    obtain ⟨first, later⟩ := List.forall_mem_cons.mp anew
    have cleared : F.rel s.world s.clearOutput.world := plays.free rfl rfl rfl
    exact F.trans cleared (F.trans (step_rel plays s.clearOutput first) (ih _ later))

end Session

end DagAccess
