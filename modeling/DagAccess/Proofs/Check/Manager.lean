import DagAccess.Proofs.Manager.Failure
import DagAccess.Proofs.Manager.Frame
import DagAccess.Proofs.Manager.Process

/-!
# The manager of the command

In a new process the command decides by a manager that was made from the settings of the machine, or
by one that was derived from it for a DAG (`Built`). Its checks answer unless the name of the user
is lost or holds a NUL (`check_yields`). If there is no manager, then access is not configured, or
one of a few other faults ended the search for one (`Escapes`). On the way only messages are written
(`World.talking_freesOthers`).
-/

namespace DagAccess

open Groups (Served)
open Manager (Stands)
open Settings (Fresh NoInt)
open Stateful (Confined Yields)

namespace Check

variable {v w : World} {m : Manager} {P : Fault → Prop}

/-! ## How the manager comes about -/

/-- The options that are submitted with the DAG, if there are any. -/
def Submits (q : Request) (host : Host) (conf : Option Options) : Prop :=
  if q.dagConf = "" then conf = none
  else ∃ bytes options, host.files.read q.dagConf = .ok bytes ∧
    Settings.readDagOptions q.dagConf bytes = .ok options ∧ conf = some options

/-- The manager was made for a request from what there is on the machine. -/
inductive Built (q : Request) (host : Host) : Manager → Prop
  | am {am} (noDag : q.dagUser = "") (made : Manager.MadeBy "acl" q.amUser host am) :
      Built q host am
  | dag {am conf derived} (named : q.dagUser ≠ "") (made : Manager.MadeBy "acl" q.amUser host am)
      (submitted : Submits q host conf) (step : am.forDag .standard q.dagUser conf = .ok derived) :
      Built q host derived

/-- This fault ends the command though it is not one that the command foresees. -/
inductive Escapes (q : Request) (host : Host) : Fault → Prop
  /-- The settings of access cannot be loaded, or a lifetime in them is no integer. -/
  | settings {fault} (failed : NoInt "acl" "group_cache_secs" host fault) : Escapes q host fault
  /-- Nobody is named as the owner of the AM, and nobody is known to run the process. -/
  | nobody (unnamed : q.amUser = "") (nobody : Manager.userOf host = none) :
      Escapes q host (.noObject "user")
  /-- The file with the options of the DAG can be read, but something in it is none of the faults
  that are expected there. -/
  | file {bytes fault} (named : q.dagUser ≠ "") (given : q.dagConf ≠ "")
      (there : host.files.read q.dagConf = .ok bytes)
      (failed : Settings.readDagOptions q.dagConf bytes = .error fault)
      (unexpected : ∀ cause, fault ≠ .acl cause) : Escapes q host fault

section Steps

variable {host : Host}

end Steps

theorem checkLost_yields (m : Manager) (t : AclType) :
    Yields (Served · m.provider) (checkLost m t) (fun _ => (Served · m.provider))
      (· = .missingArgument) := by
  unfold checkLost
  dsimp only
  split
  · exact .pure fun w served => served
  · split
    · exact fun w served => served.congr fun _ _ => rfl
    · exact .throw rfl

/-- This fault ends the check of a user with this name, if the name was not lost. -/
inductive Unanswered (user : Option String) : Fault → Prop
  | lost (lost : user = none) : Unanswered user .missingArgument
  | unspeakable {name} (named : user = some name) (nul : Command.holdsNul name = true) :
      Unanswered user .unspeakable

/-- A check answers unless the name of the user was lost or holds a NUL. -/
theorem check_yields (m : Manager) (user : Option String) (t : AclType) :
    Yields (Served · m.provider) (check m user t) (fun _ _ => True) (Unanswered user) := by
  cases user with
  | some user =>
    refine .of_exists fun base => .of_exists fun caches => .of_and fun usual => ?_
    exact (m.checkAction_yields user t base caches).weaken (fun _ stack => stack)
      (fun _ _ _ => trivial)
      fun fault ⟨same, cannot⟩ =>
        same ▸ .unspeakable rfl (Groups.holdsNul_of_not_canAsk usual cannot)
  | none =>
    have lost := fun t => checkLost_yields m t
    have implied : ∀ am dag, Yields (Served · m.provider)
        (do if ← checkLost m am then return true else checkLost m dag)
        (fun _ => (Served · m.provider)) (· = .missingArgument) := by
      intro am dag
      refine .bind (lost am) fun granted => ?_
      cases granted with
      | true => exact .pure fun w served => served
      | false => exact lost dag
    have answered : ∀ {act : Act Bool}, Yields (Served · m.provider) act
        (fun _ => (Served · m.provider)) (· = .missingArgument) →
        Yields (Served · m.provider) act (fun _ _ => True) (Unanswered none) :=
      fun yields => yields.weaken (fun _ served => served) (fun _ _ _ => trivial)
        fun _ same => same ▸ .lost rfl
    cases t with
    | amView => exact answered (lost .amView)
    | amModify => exact answered (lost .amModify)
    | dagView => exact answered (implied .amView .dagView)
    | dagModify => exact answered (implied .amModify .dagModify)

end Check

end DagAccess
