import DagAccess.Proofs.Ini.Overlay
import DagAccess.Proofs.Stateful
import DagAccess.Settings

/-!
# What loading leaves

Loading is followed through its parts, each of which is `Sound`: it keeps documents finished, and if
it ends at a fault of a file, what is left was read up to that fault. So settings that were loaded
are finished (`load_isFinished`), those of a file with a fault are what stands above it
(`load_broken`), and a component that is refused has none (`load_refused`).
-/

namespace DagAccess

namespace Settings

/-- The component or the tables of paths are refused, before anything is read. -/
def LoadFault.isRefusal : LoadFault → Bool
  | .noComponent | .invalidChosen | .unknownComponent _ | .invalidFiles | .noFiles _ => true
  | .ini _ | .system _ | .unusablePaths | .unusableSnippets => false

namespace Load

variable {α β : Type}

/-- How a part of loading ends. -/
structure Ends (before : Loading) (outcome : Except LoadFault α) (after : Loading) : Prop where
  finished : ∀ a, outcome = .ok a → before.document.IsFinished → after.document.IsFinished
  broken : ∀ cause, outcome = .error (.ini cause) →
    ∃ (d : Ini.Document) (source : Ini.Source), d.read source = (after.document, some cause)
  late : ∀ cause, outcome = .error cause → cause.isRefusal = false

theorem Ends.fault {l : Loading} {cause : LoadFault} (file : ∀ c, cause ≠ .ini c)
    (late : cause.isRefusal = false) : Ends l (.error cause : Except LoadFault α) l :=
  ⟨nofun, fun c same => absurd (Except.error.inj same) (file c),
    fun _ same => Except.error.inj same ▸ late⟩

/-- What follows a fault does not run. -/
theorem Ends.of_error {before after : Loading} {cause : LoadFault}
    (ends : Ends before (.error cause : Except LoadFault α) after) :
    Ends before (.error cause : Except LoadFault β) after := by
  refine ⟨nofun, fun c same => ends.broken c ?_, fun e same => ends.late e ?_⟩
  · rw [Except.error.inj same]
  · rw [Except.error.inj same]

theorem Ends.trans {before middle after : Loading} {a : α} {outcome : Except LoadFault β}
    (first : Ends before (.ok a) middle) (rest : Ends middle outcome after) :
    Ends before outcome after :=
  ⟨fun b answered finished => rest.finished b answered (first.finished a rfl finished),
    rest.broken, rest.late⟩

/-- Every run of a part ends so. -/
def Sound (act : Load α) : Prop := ∀ l, Ends l (act l).1 (act l).2

namespace Sound

theorem pure (a : α) : Sound (pure a : Load α) :=
  fun _ => ⟨fun _ _ finished => finished, nofun, nofun⟩

theorem throw {cause : LoadFault} (file : ∀ c, cause ≠ .ini c) (late : cause.isRefusal = false) :
    Sound (throw cause : Load α) :=
  fun _ => .fault file late

theorem notify (level : Logging.Level) (message : String) : Sound (notify level message) :=
  fun _ => ⟨fun _ _ finished => finished, nofun, nofun⟩

theorem lift {outcome : Except LoadFault α} (file : ∀ c, outcome ≠ .error (.ini c))
    (late : ∀ cause, outcome = .error cause → cause.isRefusal = false) :
    Sound (liftM outcome : Load α) :=
  fun _ => ⟨fun _ _ finished => finished, fun c h => absurd h (file c), late⟩

theorem bind {act : Load α} {next : α → Load β} (first : Sound act) (later : ∀ a, Sound (next a)) :
    Sound (act >>= next) := by
  intro l
  have step := first l
  rw [Stateful.bind_apply]
  rcases run : act l with ⟨outcome, after⟩
  rw [run] at step
  cases outcome with
  | ok a => exact step.trans (later a after)
  | error e => exact step.of_error

theorem ite {c : Prop} [Decidable c] {act other : Load α} (yes : Sound act) (no : Sound other) :
    Sound (if c then act else other) := by
  split
  · exact yes
  · exact no

theorem forM {act : α → Load PUnit} (each : ∀ a, Sound (act a)) : ∀ as : List α, Sound (as.forM act)
  | [] => pure PUnit.unit
  | a :: as => bind (each a) fun _ => forM each as

theorem readFiles (files : Files) : ∀ paths, Sound (readFiles files paths)
  | [] => pure []
  | path :: rest => by
    intro l
    unfold Load.readFiles
    cases files.read path with
    | error _ => exact readFiles files rest l
    | ok bytes =>
      have whole : (l.document.read (.ofBytes path bytes)).2 = none →
          (l.document.read (.ofBytes path bytes)).1.IsFinished := Ini.Document.read_isFinished
      simp only [Stateful.bind_apply, Stateful.get_apply, Stateful.modify_apply]
      rcases run : l.document.read (.ofBytes path bytes) with ⟨document, fault⟩
      rw [run] at whole
      cases fault with
      | some cause =>
        refine ⟨nofun, fun c same => ?_, fun c same => ?_⟩
        · obtain rfl : cause = c := LoadFault.ini.inj (Except.error.inj same)
          exact ⟨_, _, run⟩
        · rw [← Except.error.inj same]
          rfl
      | none =>
        have rest :=
          bind (readFiles files rest) (fun paths => pure (path :: paths)) { l with document }
        exact ⟨fun a answered _ => rest.finished a answered (whole rfl), rest.broken, rest.late⟩

theorem reportUnread (files : Files) (component : String) (paths read : List String) :
    Sound (reportUnread files component paths read) := by
  refine forM (fun path => ?_) paths
  refine ite (pure _) (ite (notify _ _) (ite (notify _ _) (pure _)))

theorem readReported (files : Files) (component : String) (paths : List String) :
    Sound (readReported files component paths) :=
  bind (readFiles files paths) fun read =>
    bind (reportUnread files component paths read) fun _ => pure read

theorem readSnippets (files : Files) (component directory : String) :
    Sound (readSnippets files component directory) := by
  unfold Load.readSnippets
  cases files.list directory with
  | error cause => exact throw nofun rfl
  | ok names => exact bind (readReported _ _ _) fun read => ite (notify _ _) (pure _)

theorem toList (list : PathList) : Sound (liftM list.toList : Load (List String)) := by
  cases list with
  | paths ps => exact lift nofun nofun
  | characters s => exact lift nofun nofun
  | unusable => exact throw nofun rfl

theorem readBase (files : Files) (component : String)
    (snippets : Option (List (String × PathList))) :
    ∀ paths, Sound (readBase files component snippets paths)
  | [] => pure ()
  | path :: rest => by
    unfold Load.readBase
    refine bind (readReported files component [path]) fun read => ?_
    refine ite (readBase files component snippets rest) (bind (notify _ _) fun _ => ?_)
    cases snippets with
    | none => exact throw nofun rfl
    | some table =>
      refine bind (toList _) fun directories => forM (fun d => ?_) directories
      exact ite (readSnippets files component d) (pure _)

theorem readChosen (files : Files) (component path : String) :
    Sound (readChosen files component path) := by
  unfold Load.readChosen
  refine ite (pure _) (ite ?_ ?_)
  · exact bind (readFiles files [path]) fun read => bind (notify _ _) fun _ => pure true
  · exact bind (notify _ _) fun _ => pure false

end Sound

variable {files : Files} {name path : String}

/-- Nothing is read where the environment names no file that is there. -/
theorem readChosen_eq_false {l after : Loading}
    (none : readChosen files name path l = (.ok false, after)) : after.document = l.document := by
  unfold readChosen at none
  split at none
  · cases none
    rfl
  · split at none
    · obtain ⟨read, middle, -, rest⟩ := Stateful.of_bind_ok none
      obtain ⟨_, _, -, answered⟩ := Stateful.of_bind_ok rest
      cases answered
    · cases none
      rfl

/-- A component is refused before anything is read, or never. -/
theorem component_cases (files : Files) (paths : SearchPaths) (name : String) (l : Loading) :
    Ends l (component files paths name l).1 (component files paths name l).2 ∨
      ∃ cause after, component files paths name l = (.error cause, after) ∧ cause.isRefusal = true ∧
        after.document = l.document := by
  unfold component
  cases paths.chosen.isEmpty with
  | true => exact .inr ⟨.invalidChosen, l, rfl, rfl, rfl⟩
  | false =>
    cases paths.chosen.lookup name with
    | none => exact .inr ⟨.unknownComponent name, l, rfl, rfl, rfl⟩
    | some path =>
      cases path with
      | none => exact .inl (.fault nofun rfl)
      | some path =>
        have step := Sound.readChosen files name path l
        simp only [Bool.false_eq_true, if_false, Stateful.bind_apply]
        rcases run : readChosen files name path l with ⟨outcome, next⟩
        rw [run] at step
        cases outcome with
        | error cause => exact .inl step.of_error
        | ok there =>
          cases there with
          | true => exact .inl (step.trans (Sound.pure () next))
          | false =>
            have unread := readChosen_eq_false run
            cases paths.files.isEmpty with
            | true => exact .inr ⟨.invalidFiles, next, rfl, rfl, unread⟩
            | false =>
              cases paths.files.lookup name with
              | none => exact .inr ⟨.noFiles name, next, rfl, rfl, unread⟩
              | some list =>
                refine .inl (step.trans (Sound.bind (Sound.toList list) (fun base => ?_) next))
                exact Sound.ite (Sound.readBase files name paths.snippets base) (Sound.notify _ _)

end Load

variable {files : Files} {paths : SearchPaths} {component : String} {partly : Loading}

/-- Values that were loaded without a fault are texts. -/
theorem load_isFinished (whole : load files paths component = (.ok (), partly)) :
    partly.document.IsFinished := by
  have run : Load.component files paths component {} = (.ok (), partly) := whole
  rcases Load.component_cases files paths component {} with ends | ⟨cause, after, ended, -⟩
  · rw [run] at ends
    exact ends.finished () rfl Ini.Document.empty_isFinished
  · rw [run] at ended
    cases ended

/-- What is read before a file with a fault, and from that file up to the fault, is left. -/
theorem load_broken {cause : Ini.Fault}
    (broken : load files paths component = (.error (.ini cause), partly)) :
    ∃ (d : Ini.Document) (source : Ini.Source), d.read source = (partly.document, some cause) := by
  have run : Load.component files paths component {} = (.error (.ini cause), partly) := broken
  rcases Load.component_cases files paths component {} with ends | ⟨other, after, ended, refusal, -⟩
  · rw [run] at ends
    exact ends.broken cause rfl
  · rw [run] at ended
    cases ended
    cases refusal

/-- Nothing is read for a component that is refused. -/
theorem load_refused {cause : LoadFault}
    (refused : load files paths component = (.error cause, partly))
    (refusal : cause.isRefusal = true) : partly.document = {} := by
  have run : Load.component files paths component {} = (.error cause, partly) := refused
  rcases Load.component_cases files paths component {} with ends | ⟨other, after, ended, -, nothing⟩
  · rw [run] at ends
    exact Bool.noConfusion (refusal.symm.trans (ends.late cause rfl))
  · rw [run] at ended
    cases ended
    exact nothing

end Settings

end DagAccess
