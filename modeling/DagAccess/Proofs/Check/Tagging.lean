import DagAccess.Proofs.Manager.Frame

/-!
# Tags in the command

While the command works for a DAG, the owner of the DAG is the tag of all records, and the tag from
before is in force again when it ends, whatever it comes to. All the work that a decision takes is
told under the tag in force (`World.telling`), so work for a DAG is told under the tag of the DAG
(`tagged_tells`), and each call of the command under one tag (`run_tells`). Calls in one process
therefore never see each other's tags (`calls_tagged`).
-/

namespace DagAccess

open Logging.State (Tells)
open Stateful (Confined)

/-! ## Work under one tag -/

/-- Messages are logged under the tag in force, which stays in force. -/
def World.telling : Frame World where
  rel v w := Tells v.logging.tag v.logging w.logging
  refl w := (Logging.State.Quiet.refl w.logging).tells
  trans first second := first.trans (first.tag_eq ▸ second)

/-- Messages are logged under this tag only, and the tags in force stay in force. -/
def World.tellingUnder (tag : String) : Frame World where
  rel v w := Tells tag v.logging w.logging
  refl w := (Logging.State.Quiet.refl w.logging).tells
  trans := Tells.trans

theorem World.telling_freesOthers : World.telling.FreesOthers where
  logged w n := w.logging.tells_log n
  free {v w} _ same := by
    have quiet : v.logging.Quiet w.logging :=
      ⟨congrArg Logging.State.tags same, congrArg Logging.State.records same⟩
    exact quiet.tells

theorem World.telling_freesQuiet : World.telling.FreesQuiet where
  quiet _ _ quiet := quiet.tells

theorem World.tellingUnder_freesQuiet (tag : String) : (World.tellingUnder tag).FreesQuiet where
  quiet _ _ quiet := quiet.tells

/-- Work for a DAG is told under its tag, and the tags from before are in force again, whatever the
work comes to. -/
theorem tagged_tells {α : Type} {act : Act α} (told : Confined World.telling act) (tag : String) :
    Confined (World.tellingUnder tag) (Act.tagged tag act) := by
  intro w
  rw [Act.run_tagged]
  obtain ⟨tags, recorded⟩ :=
    told { w with logging := { w.logging with tags := tag :: w.logging.tags } }
  exact ⟨congrArg (List.drop 1) tags, recorded⟩

/-! ## The command -/

namespace Check

/-- The tag of the records of a call: the owner of the DAG if one is named, or else the tag from
before. -/
def callTag (arguments : List String) (before : String) : String :=
  match grammar.read arguments with
  | .ok (.read r) =>
    if (r.value? "dag-user").getD "" = "" then before else (r.value? "dag-user").getD ""
  | _ => before

/-- A call is told under one tag. -/
theorem run_tells (arguments : List String) (w : World) :
    Tells (callTag arguments w.logging.tag) w.logging (run arguments w).2.logging := by
  have telling := World.telling_freesOthers
  by_cases owned : ∃ r, grammar.read arguments = .ok (.read r) ∧ (Request.ofReading r).dagUser ≠ ""
  · obtain ⟨r, read, owned⟩ := owned
    have tag : callTag arguments w.logging.tag = (Request.ofReading r).dagUser := by
      simp only [callTag, read]
      exact if_neg owned
    rw [tag]
    have free := World.tellingUnder_freesQuiet (Request.ofReading r).dagUser
    refine free.run arguments (fun other again => ?_) w
    obtain rfl : r = other := by
      rw [read] at again
      injection again with same
      injection same
    refine free.answer ?_
    rw [if_neg owned]
    exact tagged_tells (telling.decide _) _
  · have tag : callTag arguments w.logging.tag = w.logging.tag := by
      unfold callTag
      split
      · next r read => exact if_pos (Classical.not_not.mp fun named => owned ⟨r, read, named⟩)
      · rfl
    rw [tag]
    refine World.telling_freesQuiet.run arguments (fun r read => ?_) w
    refine World.telling_freesQuiet.answer ?_
    rw [if_pos (Classical.not_not.mp fun named => owned ⟨r, read, named⟩)]
    exact telling.decide _

/-- The world after calls of the command in one process. -/
def calls (w : World) : List (List String) → World
  | [] => w
  | arguments :: rest => calls (run arguments w).2 rest

theorem tags_calls (all : List (List String)) (w : World) :
    (calls w all).logging.tags = w.logging.tags := by
  induction all generalizing w with
  | nil => rfl
  | cons arguments rest ih => exact (ih _).trans (run_tells arguments w).1

/-- **Tags neither leak nor go missing.** After any calls in one process, and whatever a further
call comes to, all that it records bears the owner of its own DAG, or without one the tag from
before all calls; and the tags in force when it ends are those from before all calls. -/
theorem calls_tagged (w : World) (before : List (List String)) (arguments : List String) :
    ∃ outcome after new, run arguments (calls w before) = (outcome, after) ∧
      after.logging.records = (calls w before).logging.records ++ new ∧
      (∀ r ∈ new, r.tag = callTag arguments w.logging.tag) ∧
      after.logging.tags = w.logging.tags := by
  have tags := tags_calls before w
  have tag : (calls w before).logging.tag = w.logging.tag :=
    congrArg (fun tags => tags.head?.getD "") tags
  obtain ⟨same, new, recorded, tagged⟩ := run_tells arguments (calls w before)
  rw [tag] at tagged
  exact ⟨_, _, new, rfl, recorded, tagged, same.trans tags⟩

end Check

end DagAccess
