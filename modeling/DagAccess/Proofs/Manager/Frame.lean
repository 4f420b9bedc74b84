import DagAccess.Check
import DagAccess.Proofs.Logging.Output
import DagAccess.Proofs.Logging.Records

/-!
# What operations leave of managers

Looking up groups and checking access log messages and change settings and providers, but neither
managers nor their lists nor the machine. They are confined to every frame in which that is allowed
(`FreesLookups`). Configuring logging changes loggers in other ways; it is confined to every frame
that speaks of managers, of lists and of loaded settings only (`FreesWork`). Where a frame speaks of
neither managers nor lists, the making of managers is confined to it as well (`FreesMaking`), and
where it speaks of messages only, so is the decision of the command (`FreesOthers`).
-/

namespace DagAccess

open Stateful (Confined)

/-- In the frame messages may be logged and settings remembered, and everything but loggers,
settings, lists, managers and the machine may become anything. -/
structure Frame.FreesLookups (F : Frame World) : Prop extends freesSettings : F.FreesSettings where
  free : ∀ {v w : World}, w.host = v.host → w.logging = v.logging → w.settings = v.settings →
    w.lists = v.lists → w.managers = v.managers → w.current = v.current → F.rel v w

/-- The frame speaks of managers, of lists and of loaded settings only: what leaves these alone is
allowed, and settings may be remembered of a component that had none. -/
structure Frame.FreesWork (F : Frame World) : Prop where
  free : ∀ {v w : World}, w.settings.loaded = v.settings.loaded → w.lists = v.lists →
    w.managers = v.managers → F.rel v w
  remembered : ∀ {w : World} {component : String}, w.settings.loaded.lookup component = none →
    ∀ d, F.rel w
      { w with settings := { w.settings with loaded := (component, d) :: w.settings.loaded } }

/-- In the frame lists and managers may become anything as well. -/
structure Frame.FreesMaking (F : Frame World) : Prop extends freesLookups : F.FreesLookups where
  lists : ∀ w lists, F.rel w { w with lists }
  managers : ∀ w managers, F.rel w { w with managers }

/-- In the frame messages may be logged, and everything but the loggers and the machine may become
anything. -/
structure Frame.FreesOthers (F : Frame World) : Prop where
  logged : ∀ w n, F.rel w (w.logged n)
  free : ∀ {v w : World}, w.host = v.host → w.logging = v.logging → F.rel v w

/-- In the frame loggers may change as long as nothing is recorded. -/
structure Frame.FreesQuiet (F : Frame World) : Prop where
  quiet : ∀ w logging, w.logging.Quiet logging → F.rel w { w with logging }

namespace Frame.FreesLookups

variable {F : Frame World} {α : Type} (free : F.FreesLookups)
include free

theorem log (level : Logging.Level) (logger message : String) :
    Confined F (Act.log level logger message) :=
  fun w => free.logged w _

/-- Everything but the clock, the providers and what was noted of parsers stays the same. -/
theorem modify {f : World → World} (same : ∀ w, f w =
    { w with clock := (f w).clock, providers := (f w).providers, readings := (f w).readings }) :
    Confined F (modify f : Act Unit) := by
  intro w
  rw [Act.run_modify, same]
  exact free.free rfl rfl rfl rfl rfl rfl

/-! ## Groups -/

theorem addProvider (p : Groups.Provider) : Confined F (Groups.add p) := by
  unfold Groups.add
  exact .bind .get fun _ => .bind (free.modify fun _ => rfl) fun _ => .pure _

theorem modifyCache (id : Groups.ProviderId) (f : Groups.Cache → Groups.Cache) :
    Confined F (Groups.modifyCache id f) :=
  free.modify fun _ => rfl

omit free in
theorem cacheOf (id : Groups.ProviderId) : Confined F (Groups.cacheOf id) := by
  unfold Groups.cacheOf
  refine .bind .get fun w => ?_
  split
  · exact .pure _
  · exact .pure _

theorem lookupAccount (user : String) : Confined F (Groups.lookupAccount user) := by
  unfold Groups.lookupAccount
  refine .bind .get fun w => ?_
  dsimp only
  cases Groups.namelessGroup? w.host.accounts user with
  | none => exact Act.confined_of _
  | some gid => exact .bind (free.log _ _ _) fun _ => Act.confined_of _

theorem lookupScript (id : Groups.ProviderId) (s : Groups.Script) (user : String) :
    Confined F (Groups.lookupScript id s user) := by
  unfold Groups.lookupScript
  refine .bind (free.modify fun _ => rfl) fun _ => ?_
  exact .bind (free.modify fun _ => rfl) fun _ => Act.confined_of _

theorem lookup (id : Groups.ProviderId) (user : String) : Confined F (Groups.lookup id user) := by
  -- by strong induction on the number: a cache asks a provider with a smaller one
  induction id using Nat.strongRecOn with
  | _ id ih =>
    rw [Groups.lookup]
    refine .bind .get fun w => ?_
    cases w.providers[id]? with
    | none => exact .throw _
    | some p =>
      cases p with
      | accounts => exact free.lookupAccount user
      | command words => exact .bind .get fun _ => Act.confined_of _
      | table groups => exact .pure _
      | script s => exact free.lookupScript id s user
      | cached inner lifetime c =>
        refine .bind .get fun w => .bind (free.modifyCache id _) fun _ =>
          .bind (cacheOf id) fun c => ?_
        cases c.find? user with
        | some groups => exact .pure _
        | none =>
          by_cases behind : inner < id
          · simp only [dif_pos behind]
            exact .bind (ih inner behind) fun _ => .bind (free.modifyCache id _) fun _ => .pure _
          · simp only [dif_neg behind]
            exact .throw _

theorem invalidate (id : Groups.ProviderId) (user : Option String) :
    Confined F (Groups.invalidate id user) :=
  free.modifyCache id _

omit free in
theorem providerName (id : Groups.ProviderId) : Confined F (Groups.name id) := by
  unfold Groups.name
  exact .bind .get fun _ => .pure _

theorem configured (component : String) : Confined F (Groups.configured component) := by
  have settings := free.freesSettings
  unfold Groups.configured
  refine .bind (settings.get _ _ _ _) fun kind =>
    .ite (fun _ => .bind (free.addProvider _) fun inner => ?_)
    fun _ => .ite (fun _ => .bind (free.addProvider _) fun inner => ?_)
    fun _ => .ite
      (fun _ => .bind (settings.sectionOptions _ _) fun _ => .bind (Act.confined_of _) fun _ =>
        .bind (free.addProvider _) fun inner => ?_)
    fun _ => .bind (free.log _ _ _) fun _ => .bind (free.addProvider _) fun inner => ?_
  -- whichever provider it is, a cache may be put in front
  all_goals
    refine .bind (settings.getInt _ _ _ _ _) fun lifetime =>
      .ite (fun _ => .bind (free.addProvider _) fun p => ?_) fun _ =>
        .bind (.pure inner) fun p => ?_
    all_goals exact .bind (providerName p) fun _ => .bind (free.log _ _ _) fun _ => .pure p

/-! ## Checks -/

theorem deny (user : String) (t : AclType) : Confined F (Manager.deny user t) :=
  .bind (free.log _ _ _) fun _ => .pure _

theorem check (m : Manager) (user : String) (t : AclType) : Confined F (m.check user t) := by
  unfold Manager.check
  cases m.rule user t with
  | granted => exact .pure _
  | denied => exact free.deny user t
  | members allowed =>
    -- whether the lookup failed only matters for what is logged
    refine .bind (Act.confined_attempt (free.lookup _ _)) fun outcome => ?_
    cases outcome with
    | ok groups =>
      exact .bind (Act.confined_of _) fun _ => .ite (fun _ => .pure _) fun _ => free.deny user t
    | error fault =>
      refine .ite (fun _ => .bind (free.log _ _ _) fun _ => ?_) fun _ => ?_
      all_goals exact .bind (Act.confined_of _) fun _ => .ite (fun _ => .pure _) fun _ =>
        free.deny user t

theorem checkAm (m : Manager) (user : String) (r : Right) : Confined F (m.checkAm user r) :=
  free.check m user _

theorem checkDag (m : Manager) (user : String) (r : Right) : Confined F (m.checkDag user r) := by
  unfold Manager.checkDag
  exact .bind (free.check m user _) fun _ => .ite (fun _ => .pure _) fun _ => free.check m user _

theorem checkAction (m : Manager) (user : String) (t : AclType) :
    Confined F (m.checkAction user t) := by
  cases t with
  | amView => exact free.checkAm m user .view
  | amModify => exact free.checkAm m user .modify
  | dagView => exact free.checkDag m user .view
  | dagModify => exact free.checkDag m user .modify

theorem checkLost (m : Manager) (t : AclType) : Confined F (Check.checkLost m t) := by
  unfold Check.checkLost
  exact .ite (fun _ => .pure _) fun _ => .ite (fun _ => free.deny _ t) fun _ => .throw _

theorem commandCheck (m : Manager) (user : Option String) (t : AclType) :
    Confined F (Check.check m user t) := by
  have implied : ∀ am dag, Confined F (do
      if ← Check.checkLost m am then return true else Check.checkLost m dag) :=
    fun am dag => .bind (free.checkLost m am) fun _ => .ite (fun _ => .pure _) fun _ =>
      free.checkLost m dag
  cases user with
  | some user => exact free.checkAction m user t
  | none =>
    cases t with
    | amView => exact free.checkLost m .amView
    | amModify => exact free.checkLost m .amModify
    | dagView => exact implied .amView .dagView
    | dagModify => exact implied .amModify .dagModify

omit free in
theorem runningUser : Confined F Manager.runningUser := by
  unfold Manager.runningUser
  refine .bind .get fun w => ?_
  split
  · exact .pure _
  · exact .throw _

omit free in
theorem dagOptions (path : String) : Confined F (Settings.dagOptions path) := by
  unfold Settings.dagOptions
  refine .bind .get fun w => ?_
  split
  · exact .throw _
  · exact Act.confined_of _

theorem noteReading (id : Nat) (scope : Acl.Scope) : Confined F (Manager.noteReading id scope) :=
  free.modify fun _ => rfl

omit free in
theorem find (id : ManagerId) : Confined F (Manager.find id) := by
  unfold Manager.find
  refine .bind .get fun w => ?_
  split
  · exact .pure _
  · exact .throw _

omit free in
theorem view (id : ManagerId) : Confined F (Manager.view id) := by
  unfold Manager.view
  refine .bind .get fun w => ?_
  split
  · exact .pure _
  · exact .throw _

omit free in
theorem known (i : Nat) : Confined F (Manager.known i) := by
  unfold Manager.known
  refine .bind .get fun w => ?_
  split
  · exact .pure _
  · exact .throw _

/-- Options are read where lists may be worked on as parsers do it. -/
theorem ask (placed : ∀ a, Confined F (Act.onLists (·.place a)))
    (edited : ∀ edits : List AllowList.Edit,
      Confined F (Act.onLists fun s => ((), edits.foldl .edit s)))
    (scope : Acl.Scope) (conf : Options) (parser : Parser) :
    Confined F (Manager.ask scope conf parser) := by
  unfold Manager.ask
  cases parser with
  | standard => exact .bind (placed _) fun _ => .bind (placed _) fun _ => .pure _
  | custom id behaviour =>
    refine .bind ?_ fun _ => .bind (known _) fun _ => .bind (known _) fun _ => .pure _
    exact .bind .get fun w => .bind (free.noteReading id scope) fun _ => .bind (edited _) fun _ =>
      Act.confined_of _

/-- The manager of the process is made and published as far as that is allowed. -/
theorem ofProcess
    (creates : ∀ parser provider user conf, Confined F (Manager.create parser provider user conf))
    (published : ∀ (w : World) (id : ManagerId), F.rel w { w with current := some id })
    (amUser component : String) : Confined F (Manager.ofProcess amUser component) := by
  unfold Manager.ofProcess
  refine .bind .get fun w => ?_
  cases w.current with
  | some id => exact .pure id
  | none =>
    refine .bind (free.configured component) fun provider =>
      .ite (fun _ => .bind runningUser fun user => ?_) fun _ => .bind (.pure amUser) fun user => ?_
    all_goals
      refine .bind (free.freesSettings.aclOptions component) fun conf =>
        .bind (creates _ _ _ _) fun id => ?_
      exact .bind (.modify fun w => published w id) fun _ => .pure id

omit free in
/-- The command gets its manager. -/
theorem manager {q : Check.Request} (process : Confined F (Manager.ofProcess q.amUser "acl"))
    (derives : ∀ parent dagUser conf, Confined F (Manager.derive parent dagUser conf)) :
    Confined F (Check.manager q) := by
  have derived : ∀ am conf, Confined F (do Manager.view (← Manager.derive am q.dagUser conf)) :=
    fun am conf => .bind (derives am _ conf) view
  unfold Check.manager
  refine .bind process fun am => .ite (fun _ => view am) fun _ => .ite (fun _ => ?_) fun _ => ?_
  · exact .bind (.pure none) fun conf => derived am conf
  · exact .bind (.map (dagOptions _)) fun conf => derived am conf

end Frame.FreesLookups

namespace Frame.FreesWork

variable {F : Frame World} {α : Type} (work : F.FreesWork)
include work

theorem freesLookups : F.FreesLookups where
  logged _ _ := work.free rfl rfl rfl
  remembered := work.remembered
  free _ _ settings lists managers _ :=
    work.free (congrArg SettingsStore.loaded settings) lists managers

theorem modify {f : World → World} (settings : ∀ w, (f w).settings.loaded = w.settings.loaded)
    (lists : ∀ w, (f w).lists = w.lists) (managers : ∀ w, (f w).managers = w.managers) :
    Confined F (modify f : Act Unit) :=
  fun w => work.free (settings w) (lists w) (managers w)

theorem freesQuiet : F.FreesQuiet where
  quiet _ _ _ := work.free rfl rfl rfl

theorem modifyLogging (f : Logging.State → Logging.State) : Confined F (Act.modifyLogging f) :=
  work.modify (fun _ => rfl) (fun _ => rfl) fun _ => rfl

theorem log (level : Logging.Level) (logger message : String) :
    Confined F (Act.log level logger message) :=
  work.modifyLogging _

theorem onLogging (task : ExceptT Fault (StateM Logging.State) Unit) :
    Confined F (Act.onLogging task) := by
  intro w
  rw [Act.run_onLogging]
  exact work.free rfl rfl rfl

theorem tagged (tag : String) {act : Act α} (confined : Confined F act) :
    Confined F (Act.tagged tag act) := by
  unfold Act.tagged
  refine .bind (work.modifyLogging _) fun _ => .bind (Act.confined_attempt confined) fun _ => ?_
  exact .bind (work.modifyLogging _) fun _ => Act.confined_of _

theorem forgetProcess : Confined F Manager.forgetProcess :=
  work.modify (fun _ => rfl) (fun _ => rfl) fun _ => rfl

theorem startLogging (name : String) : Confined F (Logging.start name) :=
  FreesLoggers.start ⟨fun _ _ => work.free rfl rfl rfl, fun _ _ _ => work.free rfl rfl rfl⟩
    (work.freesLookups.freesSettings.document _) name

theorem ofProcess
    (creates : ∀ parser provider user conf, Confined F (Manager.create parser provider user conf))
    (amUser component : String) : Confined F (Manager.ofProcess amUser component) :=
  work.freesLookups.ofProcess creates (fun _ _ => work.free rfl rfl rfl) amUser component

end Frame.FreesWork

namespace Frame.FreesMaking

variable {F : Frame World} (making : F.FreesMaking)
include making

theorem onLists {β : Type} (work : AllowList.Store → β × AllowList.Store) :
    Confined F (Act.onLists work) :=
  fun w => making.lists w _

theorem add (m : Manager.Stored) : Confined F (Manager.add m) := by
  unfold Manager.add
  exact .bind .get fun _ => .bind (.modify fun w => making.managers w _) fun _ => .pure _

theorem readOptions (m : Manager.Stored) (scope : Acl.Scope) (conf : Option Options)
    (level : Logging.Level) (message : String) :
    Confined F (Manager.readOptions m scope conf level message) := by
  unfold Manager.readOptions
  cases conf with
  | none => exact .pure _
  | some conf =>
    refine .ite (fun _ => .bind ?_ fun _ => making.freesLookups.log _ _ _) fun _ => .pure _
    exact .bind (making.ask (fun _ => making.onLists _) (fun _ => making.onLists _) _ _ _) fun _ =>
      .bind (making.onLists _) fun _ => making.onLists _

theorem create (parser : Parser) (provider : Option Groups.ProviderId) (amUser : String)
    (conf : Option Options) : Confined F (Manager.create parser provider amUser conf) := by
  unfold Manager.create
  refine .bind (Act.confined_of _) fun m => .bind (making.onLists _) fun _ =>
    .bind (making.onLists _) fun _ => ?_
  dsimp only
  refine .ite (fun _ => .bind (making.freesLookups.log _ _ _) fun _ => ?_) fun _ => ?_
  all_goals exact .bind (making.readOptions _ _ _ _ _) fun _ => making.add _

theorem derive (parent : ManagerId) (dagUser : String) (conf : Option Options) :
    Confined F (Manager.derive parent dagUser conf) := by
  unfold Manager.derive
  refine .bind (FreesLookups.find parent) fun _ => .bind .get fun _ =>
    .bind (Act.confined_of _) fun _ => ?_
  refine .bind (making.onLists _) fun _ => .bind (making.onLists _) fun _ => ?_
  exact .bind (making.readOptions _ _ _ _ _) fun _ => making.add _

end Frame.FreesMaking

namespace Frame.FreesOthers

variable {F : Frame World} (others : F.FreesOthers)
include others

theorem freesMaking : F.FreesMaking where
  logged := others.logged
  remembered _ _ := others.free rfl rfl
  free host logging _ _ _ _ := others.free host logging
  lists _ _ := others.free rfl rfl
  managers _ _ := others.free rfl rfl

theorem ofProcess (amUser component : String) : Confined F (Manager.ofProcess amUser component) :=
  others.freesMaking.ofProcess others.freesMaking.create
    (fun _ _ => others.free rfl rfl) amUser component

/-- The command decides. -/
theorem decide (q : Check.Request) : Confined F (Check.decide q) := by
  have lookups := others.freesMaking.freesLookups
  unfold Check.decide
  have manager := FreesLookups.manager (others.ofProcess q.amUser "acl") others.freesMaking.derive
  refine .bind (Act.confined_attempt manager) fun outcome => ?_
  split
  · exact .bind (lookups.log _ _ _) fun _ => .pure _
  · exact .throw _
  · split
    · exact .bind (lookups.commandCheck _ _ _) fun _ => .pure _
    · exact .throw _

end Frame.FreesOthers

namespace Frame.FreesQuiet

open Check (Request Decision)

variable {F : Frame World} (free : F.FreesQuiet)
include free

theorem print (stream : Logging.Stream) (text : String) :
    Confined F (Act.modifyLogging (·.print stream text)) :=
  fun w => free.quiet w _ (w.logging.quiet_print stream text)

theorem refuse (message : String) : Confined F (Check.refuse message) :=
  .bind (free.print _ _) fun _ => .pure _

theorem tell (q : Request) (outcome : Nat ⊕ Decision) : Confined F (Check.tell q outcome) := by
  cases outcome with
  | inl status => exact .pure status
  | inr d =>
    refine .bind (free.print _ _) fun _ => .ite (fun _ => ?_) fun _ => .pure _
    exact .bind (.forM (fun _ => free.print _ _) _) fun _ => .pure _

/-- Besides deciding, a call tells what it has come to, and may change a level. -/
theorem answer {q : Request}
    (decides : Confined F
      (if q.dagUser = "" then Check.decide q else Act.tagged q.dagUser (Check.decide q))) :
    Confined F (Check.answer q) := by
  have told : Confined F
      (if q.dagUser = "" then Check.decide q >>= Check.tell q
        else Act.tagged q.dagUser (Check.decide q) >>= Check.tell q) := by
    split at decides
    all_goals
      next owner =>
      simp only [owner, if_true, if_false]
      exact .bind decides (free.tell q)
  unfold Check.answer
  refine .ite (fun _ => .bind (free.refuse _) fun _ => .pure _) fun _ =>
    .ite (fun _ => ?_) fun _ => told
  exact .bind (fun w => free.quiet w _ (w.logging.quiet_update _ _)) fun _ => told

theorem run (arguments : List String) (answers : ∀ r, Check.grammar.read arguments = .ok (.read r) →
    Confined F (Check.answer (.ofReading r))) : Confined F (Check.run arguments) := by
  unfold Check.run
  split
  · exact free.refuse _
  · exact .bind (free.print _ _) fun _ => .pure _
  · next r read => exact answers r read

end Frame.FreesQuiet

end DagAccess
