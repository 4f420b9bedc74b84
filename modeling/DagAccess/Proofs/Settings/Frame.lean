import DagAccess.Proofs.Settings.Lookup

/-!
# What lookups of settings leave alone

A lookup of settings logs messages and remembers what was loaded, and changes nothing else, however
it ends. So every lookup is confined to a frame in which that is allowed.
-/

namespace DagAccess

open Stateful (Confined)

/-- In the frame messages may be logged, and settings remembered of a component that had none. -/
structure Frame.FreesSettings (F : Frame World) : Prop where
  logged : ∀ w n, F.rel w (w.logged n)
  remembered : ∀ {w : World} {component : String}, w.settings.loaded.lookup component = none →
    ∀ d, F.rel w
      { w with settings := { w.settings with loaded := (component, d) :: w.settings.loaded } }

/-- The machine stays the same. -/
def World.sameHost : Frame World where
  rel before after := after.host = before.host
  refl _ := rfl
  trans first second := second.trans first

theorem World.sameHost_freesSettings : World.sameHost.FreesSettings :=
  ⟨fun _ _ => rfl, fun _ _ => rfl⟩

/-- Only the loggers and the settings change. -/
def World.withinSettings : Frame World where
  rel v w := w = { v with logging := w.logging, settings := w.settings }
  refl _ := rfl
  trans := by
    intro u v w first second
    rw [second, first]

theorem World.withinSettings_freesSettings : World.withinSettings.FreesSettings :=
  ⟨fun _ _ => rfl, fun _ _ => rfl⟩

variable {F : Frame World} {α : Type}

theorem Act.providers_of_confined {act : Act α} (within : Confined World.withinSettings act)
    {w after : World} {outcome : Except Fault α} (run : act w = (outcome, after)) :
    after.providers = w.providers := by
  have changed : World.withinSettings.rel w (act w).2 := within w
  rw [run] at changed
  have same : after = { w with logging := after.logging, settings := after.settings } := changed
  rw [same]

theorem Act.confined_of (outcome : Except Fault α) : Confined F (Act.of outcome) := by
  intro w
  rw [Act.run_of]
  exact F.refl w

theorem Act.confined_attempt {act : Act α} (confined : Confined F act) :
    Confined F (Act.attempt act) := by
  intro w
  rw [Act.run_attempt]
  exact confined w

namespace Frame.FreesSettings

variable (free : F.FreesSettings)
include free

theorem log (level : Logging.Level) (logger message : String) :
    Confined F (Act.log level logger message) :=
  fun w => free.logged w _

theorem logAll (notices : List Logging.Notice) (w : World) :
    F.rel w { w with logging := notices.foldl Logging.State.log w.logging } := by
  induction notices generalizing w with
  | nil => exact F.refl w
  | cons n rest ih => exact F.trans (free.logged w n) (ih (w.logged n))

theorem document (component : String) : Confined F (Settings.document component) := by
  intro w
  by_cases unnamed : component = ""
  · subst unnamed
    exact F.refl w
  · cases stored : w.settings.loaded.lookup component with
    | some d =>
      rw [Settings.document_loaded unnamed stored]
      exact F.refl w
    | none =>
      rw [Settings.document_new unnamed stored]
      exact F.trans (free.remembered stored _) (free.logAll _ _)

theorem override? (component option : String) (section_ : Option String) :
    Confined F (Settings.override? component option section_) := by
  unfold Settings.override?
  refine .bind .get fun w => ?_
  cases w.host.environment.lookup (Settings.variableName component option section_) with
  | none => exact .pure none
  | some text => exact .bind (free.log _ _ _) fun _ => .pure _

theorem get (component option : String) (section_ : Option String) (fallback : String) :
    Confined F (Settings.get component option section_ fallback) := by
  unfold Settings.get
  refine .bind (free.override? component option section_) fun text => ?_
  cases text with
  | some text => exact .pure _
  | none =>
    refine .bind (free.document component) fun d => ?_
    cases d.find? (Settings.sectionOr component section_) option with
    | none => exact .pure _
    | some v => exact .bind (Act.confined_of _) fun _ => .pure _

theorem getInt (component option : String) (section_ : Option String) (fallback : α)
    (make : Int → α) : Confined F (Settings.getInt component option section_ fallback make) := by
  unfold Settings.getInt
  refine .bind (free.override? component option section_) fun text => ?_
  cases text with
  | some text => exact .bind (Act.confined_of _) fun _ => .pure _
  | none =>
    refine .bind (free.document component) fun d => ?_
    cases d.find? (Settings.sectionOr component section_) option with
    | none => exact .pure _
    | some v => exact .bind (Act.confined_of _) fun _ => .bind (Act.confined_of _) fun _ => .pure _

theorem hasOption (component option : String) (section_ : Option String) :
    Confined F (Settings.hasOption component option section_) := by
  unfold Settings.hasOption
  refine .bind (free.override? component option section_) fun text => ?_
  cases text with
  | some text => exact .pure _
  | none => exact .bind (free.document component) fun d => .pure _

theorem sectionOptions (component section_ : String) :
    Confined F (Settings.sectionOptions component section_) := by
  unfold Settings.sectionOptions
  refine .bind (free.document component) fun d => .ite (fun _ => .pure _) fun _ =>
    .mapM (fun e => ?_) _
  exact .bind (Act.confined_of _) fun _ => .pure _

theorem aclOption (component option : String) :
    Confined F (Settings.aclOption component option) := by
  refine .bind (free.hasOption component option none) fun isSet =>
    .ite (fun _ => ?_) fun _ => .pure _
  exact .bind (free.get component option none "") fun _ => .pure _

theorem aclOptions (component : String) : Confined F (Settings.aclOptions component) := by
  rw [Settings.aclOptions_eq]
  exact .filterMapM (free.aclOption component) _

end Frame.FreesSettings

end DagAccess
