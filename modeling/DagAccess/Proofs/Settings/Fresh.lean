import DagAccess.Proofs.Settings.Lookup

/-!
# Settings in a new process

In a new process the settings of a component are loaded at most once and are whole, or the fault of
loading them ends the first operation that needs them. So lookups fail in few ways: settings cannot
be loaded (`Refused`), or a text that should be an integer is none (`NoInt`). `Fresh` is what
lookups of settings preserve, and all that they change.
-/

namespace DagAccess

open Stateful (Yields)

namespace Settings

/-- The settings of a component are loaded in a new process on this machine, and are this
document. -/
def Loads (component : String) (host : Host) (d : Ini.Document) : Prop :=
  ∃ l, load host.files (.ofEnvironment host.environment) component = (.ok (), l) ∧ l.document = d

/-- This fault ends the loading of the settings of a component. -/
def Refused (component : String) (host : Host) (fault : DagAccess.Fault) : Prop :=
  ∃ cause, fault = .settings cause ∧
    (load host.files (.ofEnvironment host.environment) component).1 = .error cause

/-- The text of an option, from a variable of the environment or from the settings. -/
def Gives (component option : String) (host : Host) (text : String) : Prop :=
  host.environment.lookup (variableName component option none) = some text ∨
    ∃ d, Loads component host d ∧ d.find? component option = some (.text text)

/-- A world that differs from another one by lookups of settings in a new process. -/
structure Fresh (component : String) (v w : World) : Prop where
  same : w = { v with logging := w.logging, settings := w.settings }
  paths : w.settings.paths = .ofEnvironment v.host.environment
  whole : ∀ d, w.settings.loaded.lookup component = some d → Loads component v.host d

/-- A world of a new process on this machine, as far as the settings of a component go. -/
def New (component : String) (host : Host) (w : World) : Prop :=
  ∃ v, v.host = host ∧ Fresh component v w

variable {component : String} {v w : World}

theorem Fresh.host (fresh : Fresh component v w) : w.host = v.host := by
  rw [fresh.same]

theorem Fresh.logged (fresh : Fresh component v w) (n : Logging.Notice) :
    Fresh component v (w.logged n) where
  same := by
    rw [fresh.same]
    rfl
  paths := fresh.paths
  whole := fresh.whole

theorem Loads.isFinished {d : Ini.Document} (loads : Loads component v.host d) : d.IsFinished := by
  obtain ⟨l, loading, rfl⟩ := loads
  exact load_isFinished loading

/-- This fault ends the reading of an integer: its settings cannot be loaded, or its text is
none. -/
inductive NoInt (component option : String) (host : Host) : DagAccess.Fault → Prop
  | refused {fault} (refused : Refused component host fault) : NoInt component option host fault
  | malformed {text why} (given : Gives component option host text)
      (unread : Number.readInt 10 text.toList = .error why) :
        NoInt component option host (.integer text why)

end Settings

end DagAccess
