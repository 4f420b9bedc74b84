import DagAccess.Proofs.Act
import DagAccess.Proofs.Settings.Load
import DagAccess.Settings.Lookup

/-!
# What lookups of settings answer

A lookup asks the environment first and the settings of the component then, which are loaded once.
Where the settings can be had (`Offers`) every lookup has a pure answer, which depends on the
environment and the document only: `isSetIn`, `textIn`, `intIn`, `sectionOptionsIn` and
`aclOptionsIn`. Lookups change nothing but the loggers and what was loaded, so the answers stay the
same from one lookup to the next.
-/

namespace DagAccess

/-- The world in which settings were loaded, be it up to a fault. -/
def World.remember (w : World) (component : String) (l : Settings.Loading) : World :=
  { w with
    settings := { w.settings with loaded := (component, l.document) :: w.settings.loaded }
    logging := l.notices.foldl Logging.State.log w.logging }

theorem Act.run_logAll (notices : List Logging.Notice) (w : World) :
    (notices.forM fun n => Act.modifyLogging (·.log n)) w =
      (.ok (), { w with logging := notices.foldl Logging.State.log w.logging }) := by
  induction notices generalizing w with
  | nil => rfl
  | cons n rest ih =>
    rw [List.forM, Act.run_bind, Act.run_modifyLogging]
    exact ih { w with logging := w.logging.log n }

namespace Settings

variable {component : String} {w : World} {d : Ini.Document}

theorem document_unnamed (w : World) : document "" w = (.error (.settings .noComponent), w) := rfl

theorem document_loaded (named : component ≠ "")
    (loaded : w.settings.loaded.lookup component = some d) : document component w = (.ok d, w) := by
  unfold document
  rw [if_neg named]
  simp only [Act.run_bind, Act.run_get, loaded, Act.run_pure]

theorem document_new (named : component ≠ "") (new : w.settings.loaded.lookup component = none) :
    document component w =
      let (outcome, loading) := load w.host.files w.settings.paths component
      ((outcome.mapError Fault.settings).map fun _ => loading.document,
          w.remember component loading) := by
  unfold document
  rw [if_neg named]
  simp only [Act.run_bind, Act.run_get, new, Act.run_modify, Act.run_logAll, Act.run_of]
  rcases load w.host.files w.settings.paths component with ⟨outcome, loading⟩
  cases outcome <;> rfl

/-- Settings that cannot be loaded cannot be had. -/
theorem document_failed {cause : LoadFault} (named : component ≠ "")
    (new : w.settings.loaded.lookup component = none)
    (failed : (load w.host.files w.settings.paths component).1 = .error cause) :
    (document component w).1 = .error (.settings cause) := by
  rw [document_new named new]
  rcases run : load w.host.files w.settings.paths component with ⟨outcome, partly⟩
  rw [run] at failed
  obtain rfl : outcome = .error cause := failed
  rfl

/-- A lookup that fails found no settings before, and keeps what was read up to the fault. -/
theorem document_eq_error {after : World} {fault : Fault} (named : component ≠ "")
    (failed : document component w = (.error fault, after)) :
    ∃ cause partly, load w.host.files w.settings.paths component = (.error cause, partly) ∧
      fault = .settings cause ∧ after = w.remember component partly := by
  cases new : w.settings.loaded.lookup component with
  | some d =>
    rw [document_loaded named new] at failed
    cases failed
  | none =>
    rw [document_new named new] at failed
    rcases run : load w.host.files w.settings.paths component with ⟨outcome, partly⟩
    rw [run] at failed
    cases outcome with
    | ok _ => cases failed
    | error cause =>
      cases failed
      exact ⟨cause, partly, rfl, rfl, rfl⟩

theorem lookup_remember (w : World) (component : String) (l : Loading) :
    (w.remember component l).settings.loaded.lookup component = some l.document := by
  simp [World.remember]

/-! ## Lookups with settings at hand -/

/-- The settings of a component can be had, and are this document. -/
def Offers (component : String) (d : Ini.Document) (w : World) : Prop :=
  (document component w).1 = .ok d

/-- Settings can be had if they were loaded before, be it in part, or can be loaded now without a
fault. -/
theorem offers_iff : Offers component d w ↔ component ≠ "" ∧
    (w.settings.loaded.lookup component = some d ∨
      w.settings.loaded.lookup component = none ∧
        ∃ l, load w.host.files w.settings.paths component = (.ok (), l) ∧ l.document = d) := by
  by_cases unnamed : component = ""
  · rw [Offers, unnamed, document_unnamed]
    exact ⟨nofun, fun offers => absurd rfl offers.1⟩
  · cases stored : w.settings.loaded.lookup component with
    | some other =>
      rw [Offers, document_loaded unnamed stored]
      simp [unnamed]
    | none =>
      rw [Offers, document_new unnamed stored]
      rcases load w.host.files w.settings.paths component with ⟨outcome, l⟩
      cases outcome with
      | ok _ =>
        constructor
        · intro same
          exact ⟨unnamed, .inr ⟨rfl, l, rfl, Except.ok.inj same⟩⟩
        · rintro ⟨-, absent | ⟨-, other, same, rfl⟩⟩
          · cases absent
          · cases same
            rfl
      | error cause =>
        constructor
        · intro same
          cases same
        · rintro ⟨-, absent | ⟨-, other, same, -⟩⟩
          · cases absent
          · cases same

theorem Offers.named (offers : Offers component d w) : component ≠ "" :=
  (offers_iff.mp offers).1

theorem offers_of_loaded (named : component ≠ "")
    (loaded : w.settings.loaded.lookup component = some d) : Offers component d w :=
  offers_iff.mpr ⟨named, .inl loaded⟩

/-- Settings that were had once stay at hand. -/
theorem Offers.document (offers : Offers component d w) : ∃ after,
    Settings.document component w = (.ok d, after) ∧ Offers component d after ∧
    after.host = w.host := by
  obtain ⟨named, stored | ⟨new, l, loading, rfl⟩⟩ := offers_iff.mp offers
  · exact ⟨w, document_loaded named stored, offers, rfl⟩
  · have run := document_new named new
    rw [loading] at run
    exact ⟨_, run, offers_of_loaded named (lookup_remember w component l), rfl⟩

/-- Whether settings can be had depends on the machine and on what was loaded. -/
theorem Offers.congr {v : World} (offers : Offers component d w) (host : v.host = w.host)
    (settings : v.settings = w.settings) : Offers component d v := by
  rw [offers_iff, host, settings]
  exact offers_iff.mp offers

theorem Offers.logged (offers : Offers component d w) (n : Logging.Notice) :
    Offers component d (w.logged n) :=
  offers.congr (w.host_logged n) (w.settings_logged n)

/-- The settings that are had are finished, unless others were remembered before. -/
theorem Offers.isFinished (offers : Offers component d w)
    (kept : w.settings.loaded.lookup component = some d → d.IsFinished) : d.IsFinished := by
  obtain ⟨-, stored | ⟨-, l, loading, rfl⟩⟩ := offers_iff.mp offers
  · exact kept stored
  · exact load_isFinished loading

/-- An option is set by a variable of the environment or else in a document. -/
def isSetIn (environment : List (String × String)) (d : Ini.Document) (component option : String)
    (section_ : Option String) : Bool :=
  (environment.lookup (variableName component option section_)).isSome ||
    d.hasOption (sectionOr component section_) option

/-- The text that a variable of the environment or else a document gives an option. -/
def textIn (environment : List (String × String)) (d : Ini.Document) (component option : String)
    (section_ : Option String) (fallback : String) : Except Fault String :=
  match environment.lookup (variableName component option section_) with
  | some text => .ok (Text.unquote text)
  | none =>
    match d.find? (sectionOr component section_) option with
    | none => .ok (Text.unquote fallback)
    | some v => ((v.asText (.operation "strip")).mapError Fault.misuse).map Text.unquote

/-- The integer that a variable of the environment or else a document gives an option. -/
def intIn (environment : List (String × String)) (d : Ini.Document) (component option : String)
    (section_ : Option String) (fallback : Int) : Except Fault Int :=
  match environment.lookup (variableName component option section_) with
  | some text => readInt text
  | none =>
    match d.find? (sectionOr component section_) option with
    | none => .ok fallback
    | some v => ((v.asText .number).mapError Fault.misuse).bind readInt

/-- The options that count in a section of a document. -/
def sectionOptionsIn (d : Ini.Document) (section_ : String) : Except Fault Options :=
  if d.hasSection section_ then
    (d.items section_).mapM fun (option, v) =>
      ((v.asText (.operation "strip")).mapError Fault.misuse).map fun text =>
      (option, Text.unquote text)
  else .ok []

theorem run_override (component option : String) (section_ : Option String) (w : World) :
    override? component option section_ w =
      match w.host.environment.lookup (variableName component option section_) with
      | none => (.ok none, w)
      | some text => (.ok (some text),
          w.logged ⟨.info, Load.logger, overrideMessage component option section_⟩) := by
  unfold override?
  rw [Act.run_bind, Act.run_get]
  simp only
  cases w.host.environment.lookup (variableName component option section_) <;> rfl

section Options

variable (offers : Offers component d w) (option : String) (section_ : Option String)
include offers

theorem Offers.hasOption : ∃ after,
    Settings.hasOption component option section_ w =
      (.ok (isSetIn w.host.environment d component option section_), after) ∧
    Offers component d after ∧ after.host = w.host := by
  unfold Settings.hasOption isSetIn
  rw [Act.run_bind, run_override]
  cases w.host.environment.lookup (variableName component option section_) with
  | some text =>
    rw [Option.isSome_some, Bool.true_or]
    exact ⟨_, rfl, offers.logged _, w.host_logged _⟩
  | none =>
    obtain ⟨after, run, still, host⟩ := offers.document
    refine ⟨after, ?_, still, host⟩
    simp only [Act.run_bind, run]
    rfl

theorem Offers.get (fallback : String) : ∃ after,
    Settings.get component option section_ fallback w =
      (textIn w.host.environment d component option section_ fallback, after) ∧
    Offers component d after ∧ after.host = w.host := by
  unfold Settings.get textIn
  rw [Act.run_bind, run_override]
  cases w.host.environment.lookup (variableName component option section_) with
  | some text => exact ⟨_, rfl, offers.logged _, w.host_logged _⟩
  | none =>
    obtain ⟨after, run, still, host⟩ := offers.document
    refine ⟨after, ?_, still, host⟩
    simp only [Act.run_bind, run]
    cases d.find? (sectionOr component section_) option with
    | none => rfl
    | some v =>
      simp only [Act.run_bind, Act.run_of]
      cases v <;> rfl

theorem Offers.getInt (fallback : Int) : ∃ after,
    Settings.getInt component option section_ fallback id w =
      (intIn w.host.environment d component option section_ fallback, after) ∧
    Offers component d after ∧ after.host = w.host := by
  unfold Settings.getInt intIn
  rw [Act.run_bind, run_override]
  cases w.host.environment.lookup (variableName component option section_) with
  | some text =>
    let told : Logging.Notice := ⟨.info, Load.logger, overrideMessage component option section_⟩
    refine ⟨w.logged told, ?_, offers.logged told, w.host_logged told⟩
    simp only [Act.run_bind, Act.run_of]
    cases readInt text <;> rfl
  | none =>
    obtain ⟨after, run, still, host⟩ := offers.document
    refine ⟨after, ?_, still, host⟩
    simp only [Act.run_bind, run]
    cases d.find? (sectionOr component section_) option with
    | none => rfl
    | some v =>
      simp only [Act.run_bind, Act.run_of]
      cases v with
      | lines ls => rfl
      | text s =>
        simp only [Ini.Value.asText, Except.mapError, Except.bind]
        cases readInt s <;> rfl

end Options

theorem Offers.sectionOptions (offers : Offers component d w) (section_ : String) : ∃ after,
    Settings.sectionOptions component section_ w = (sectionOptionsIn d section_, after) ∧
    Offers component d after ∧ after.host = w.host := by
  obtain ⟨after, run, still, host⟩ := offers.document
  refine ⟨after, ?_, still, host⟩
  unfold Settings.sectionOptions sectionOptionsIn
  simp only [Act.run_bind, run]
  cases d.hasSection section_ with
  | false => rfl
  | true =>
    refine Stateful.mapM_apply (fun e => ?_) (d.items section_)
    simp only [Act.run_bind, Act.run_of]
    cases e.2 <;> rfl

/-! ## Options about access -/

/-- An option about access with its text, if it is set. -/
def aclOption (component option : String) : Act (Option (String × String)) := do
  if ← Settings.hasOption component option none then
    return some (option, ← Settings.get component option none "")
  else return none

theorem aclOptions_eq (component : String) :
    aclOptions component = aclOptionNames.filterMapM (aclOption component) := rfl

/-- The entry that a variable of the environment or else a document gives an option about access. -/
def aclOptionIn (environment : List (String × String)) (d : Ini.Document)
    (component option : String) : Except Fault (Option (String × String)) :=
  if isSetIn environment d component option none then
    (textIn environment d component option none "").map fun text => some (option, text)
  else .ok none

/-- The options about access that the environment and a document give. -/
def aclOptionsIn (environment : List (String × String)) (d : Ini.Document) (component : String) :
    Except Fault Options :=
  aclOptionNames.filterMapM (aclOptionIn environment d component)

theorem Offers.aclOption (offers : Offers component d w) (option : String) : ∃ after,
    Settings.aclOption component option w =
      (aclOptionIn w.host.environment d component option, after) ∧
    Offers component d after ∧ after.host = w.host := by
  obtain ⟨asked, asking, still, host⟩ := offers.hasOption option none
  obtain ⟨after, getting, kept, same⟩ := still.get option none ""
  rw [host] at getting same
  unfold Settings.aclOption aclOptionIn
  rw [Act.run_bind, asking]
  cases isSetIn w.host.environment d component option none with
  | false => exact ⟨asked, rfl, still, host⟩
  | true =>
    refine ⟨after, ?_, kept, same⟩
    simp only [if_true, Act.run_bind, getting]
    cases textIn w.host.environment d component option none "" <;> rfl

theorem Offers.aclOptions (offers : Offers component d w) : ∃ after,
    Settings.aclOptions component w = (aclOptionsIn w.host.environment d component, after) ∧
    Offers component d after ∧ after.host = w.host := by
  rw [aclOptions_eq]
  have start : Offers component d w ∧ w.host = w.host := ⟨offers, rfl⟩
  refine Stateful.filterMapM_answers
    (I := fun v => Offers component d v ∧ v.host = w.host) ?_ _ start
  rintro option v ⟨still, host⟩
  obtain ⟨after, run, kept, same⟩ := still.aclOption option
  rw [host] at run same
  exact ⟨after, run, kept, same⟩

end Settings

end DagAccess
