import DagAccess.Proofs.Stateful
import DagAccess.World

/-!
# Runs of operations

An operation takes a world to an outcome and the world after it. Each building block of operations
has an equation for its run (`Act.run_bind` for sequences), so that proofs about operations need not
look into the layers of the monad. `World.unlogged` forgets what was logged: two worlds that agree
up to it differ in their loggers only.
-/

namespace DagAccess

namespace World

/-- The world after a message was logged. -/
def logged (w : World) (n : Logging.Notice) : World :=
  { w with logging := w.logging.log n }

/-- The world without a trace of logging. -/
def unlogged (w : World) : World :=
  { w with logging := .initial }

@[simp]
theorem unlogged_logged (w : World) (n : Logging.Notice) : (w.logged n).unlogged = w.unlogged := rfl

@[simp]
theorem providers_unlogged (w : World) : w.unlogged.providers = w.providers := rfl

@[simp]
theorem host_unlogged (w : World) : w.unlogged.host = w.host := rfl

theorem eq_host_of_unlogged {w v : World} (same : w.unlogged = v.unlogged) : w.host = v.host := by
  rw [← w.host_unlogged, same, host_unlogged]

theorem eq_providers_of_unlogged {w v : World} (same : w.unlogged = v.unlogged) :
    w.providers = v.providers := by
  rw [← w.providers_unlogged, same, providers_unlogged]

@[simp]
theorem providers_logged (w : World) (n : Logging.Notice) :
    (w.logged n).providers = w.providers := rfl

@[simp]
theorem host_logged (w : World) (n : Logging.Notice) : (w.logged n).host = w.host := rfl

@[simp]
theorem settings_logged (w : World) (n : Logging.Notice) : (w.logged n).settings = w.settings := rfl

end World

namespace Act

variable {α β : Type}

@[simp]
theorem run_pure (a : α) (w : World) : (pure a : Act α) w = (.ok a, w) := rfl

@[simp]
theorem run_throw (fault : Fault) (w : World) : (throw fault : Act α) w = (.error fault, w) := rfl

@[simp]
theorem run_get (w : World) : (get : Act World) w = (.ok w, w) := rfl

@[simp]
theorem run_modify (f : World → World) (w : World) : (modify f : Act Unit) w = (.ok (), f w) := rfl

/-- The second operation runs in the world that the first one leaves, unless that one ends in a
fault. -/
theorem run_bind (act : Act α) (next : α → Act β) (w : World) :
    (act >>= next) w = match act w with
      | (.ok a, after) => next a after
      | (.error fault, after) => (.error fault, after) := by
  rw [Stateful.bind_apply]
  rcases act w with ⟨outcome, after⟩
  cases outcome <;> rfl

theorem run_ite (c : Prop) [Decidable c] (act other : Act α) (w : World) :
    (if c then act else other) w = if c then act w else other w :=
  Stateful.ite_apply c act other w

@[simp]
theorem run_of (outcome : Except Fault α) (w : World) : of outcome w = (outcome, w) := by
  cases outcome <;> rfl

@[simp]
theorem run_attempt (act : Act α) (w : World) : attempt act w = (.ok (act w).1, (act w).2) := rfl

@[simp]
theorem run_modifyLogging (f : Logging.State → Logging.State) (w : World) :
    modifyLogging f w = (.ok (), { w with logging := f w.logging }) := rfl

@[simp]
theorem run_onLogging (work : ExceptT Fault (StateM Logging.State) Unit) (w : World) :
    onLogging work w = ((work w.logging).1, { w with logging := (work w.logging).2 }) := rfl

@[simp]
theorem run_log (level : Logging.Level) (logger message : String) (w : World) :
    log level logger message w = (.ok (), w.logged ⟨level, logger, message⟩) := rfl

/-- The tag is in force while the operation runs. -/
theorem run_tagged (tag : String) (act : Act α) (w : World) :
    tagged tag act w =
      let run := act { w with logging := { w.logging with tags := tag :: w.logging.tags } }
      (run.1,
          { run.2 with logging := { run.2.logging with tags := run.2.logging.tags.drop 1 } }) := by
  simp only [tagged, run_bind, run_modifyLogging, run_attempt, run_of]

end Act

end DagAccess
