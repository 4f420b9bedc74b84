import DagAccess.Proofs.Logging.Transaction
import DagAccess.Proofs.Settings.Frame

/-!
# What is written

What stands on the streams of a process are messages that were logged, and what the command prints.
`Talks` is how loggers may get on as long as only messages are written. Configuring logging is
confined to that (`start_talks`), as it is to every frame in which messages may be logged and
loggers may be changed silently (`FreesLoggers.start`).
-/

namespace DagAccess

open Stateful (Confined)

namespace Logging

namespace State

variable {s t u : State}

/-- Nothing was written. -/
def Silent (s t : State) : Prop := t.out = s.out ∧ t.err = s.err

theorem Silent.trans (first : Silent s t) (second : Silent t u) : Silent s u :=
  ⟨second.1.trans first.1, second.2.trans first.2⟩

theorem silent_mention (s : State) (name : String) : Silent s (s.mention name) := by
  unfold mention
  split <;> exact ⟨rfl, rfl⟩

theorem silent_update (s : State) (name : String) (f : Logger → Logger) :
    Silent s (s.update name f) := by
  cases root : isRoot name with
  | true =>
    rw [update_root root]
    exact ⟨rfl, rfl⟩
  | false =>
    rw [update_other root]
    exact silent_mention s name

theorem silent_applied (s : State) (handlers : List (String × HandlerId))
    (es : List (String × Ini.Entries)) : Silent s (s.applied handlers es) := by
  induction es generalizing s with
  | nil => exact ⟨rfl, rfl⟩
  | cons e rest ih => exact (silent_update s e.1 _).trans (ih _)

theorem silent_safely (d : Ini.Document) (s : State) :
    Silent s (safely ((configure d).adapt DagAccess.Fault.logging) s).2 := by
  have configured : Silent s (configure d s).2 := by
    rw [configure_run]
    exact silent_applied { s with handlers := s.handlers ++ (handlersOf d).toArray } _ _
  rw [safely_run, Stateful.adapt_apply]
  rcases run : configure d s with ⟨outcome, after⟩
  rw [run] at configured
  cases outcome with
  | ok _ => exact configured
  | error fault => exact configured

/-- How loggers get on if only messages are written. -/
inductive Talks : State → State → Prop
  | refl (s : State) : Talks s s
  | log {s t : State} (before : Talks s t) (n : Notice) : Talks s (t.log n)
  | silent {s t u : State} (before : Talks s t) (silent : Silent t u) : Talks s u

theorem Talks.trans (first : Talks s t) (second : Talks t u) : Talks s u := by
  induction second with
  | refl => exact first
  | log _ n ih => exact .log ih n
  | silent _ silent ih => exact .silent ih silent

end State

end Logging

variable {F : Frame World}

/-- In the frame messages may be logged, and loggers may become anything as long as nothing is
written. -/
structure Frame.FreesLoggers (F : Frame World) : Prop where
  logged : ∀ w n, F.rel w (w.logged n)
  silent : ∀ w logging, w.logging.Silent logging → F.rel w { w with logging }

theorem Frame.FreesLoggers.start (free : F.FreesLoggers)
    (settings : Confined F (Settings.document "logging")) (name : String) :
    Confined F (Logging.start name) := by
  have annotated : Confined F (Act.modifyLogging (Logging.annotate · Logging.rootName)) :=
    fun w => free.silent w _ ⟨rfl, rfl⟩
  unfold Logging.start
  refine .bind (fun w => free.silent w _ (w.logging.silent_mention _)) fun _ => ?_
  refine .bind (Act.confined_attempt settings) fun outcome => ?_
  cases outcome with
  | error fault => exact .bind annotated fun _ => .pure _
  | ok d =>
    have configured :
        Confined F (Act.onLogging
          (Logging.safely ((Logging.configure d).adapt DagAccess.Fault.logging))) :=
      fun w => free.silent w _ (Logging.State.silent_safely d w.logging)
    refine .ite (fun _ => .bind (Act.confined_attempt configured) fun outcome => ?_) fun _ => ?_
    · cases outcome with
      | ok _ => exact .bind annotated fun _ => .pure _
      | error fault =>
        exact .bind (fun w => free.logged w _) fun _ => .bind annotated fun _ => .pure _
    · exact .bind annotated fun _ => .pure _

end DagAccess
