import DagAccess.Fault.Wording
import DagAccess.Proofs.Groups.Failure
import DagAccess.Proofs.Manager.Decision

/-!
# Checks whose lookups fail

A lookup through a stack of caches fails only with faults that leave the user without groups, if the
system can be asked for that user at all, so a check that relies on one always answers, and the
caches lose nothing but expired entries (`check_never_fails`). A backend that reports a failed
lookup is treated that way as well if it gives a message. Without one it causes another fault than
it means, and that ends every check that needs groups (`check_reported`).
-/

namespace DagAccess.Manager

open Groups (Provider ProviderId Stack Run)
open Stateful (Yields)

variable {m : Manager} {user : String} {t : AclType} {w : World} {base : Provider}

theorem check_providers (needs : m.NeedsGroups user t) (w : World) :
    (m.check user t w).2.providers = (Groups.lookup m.provider user w).2.providers :=
  World.eq_providers_of_unlogged (check_needed needs w).2

theorem check_providers_of_needless (needless : ¬ m.NeedsGroups user t) (w : World) :
    (m.check user t w).2.providers = w.providers :=
  World.eq_providers_of_unlogged (check_unlogged needless w)

/-- Any groups, also none, lead to an answer. -/
theorem exists_decide (m : Manager) (user : String) (t : AclType) (groups : PrincipalSet) :
    ∃ granted, m.decide user t (.ok groups) = .ok granted := by
  unfold decide
  cases m.rule user t with
  | granted => exact ⟨true, rfl⟩
  | denied => exact ⟨false, rfl⟩
  | members allowed => exact ⟨meets allowed groups, rfl⟩

theorem check_of_noGroups {fault : Fault}
    (failed : (Groups.lookup m.provider user w).1 = .error fault)
    (noGroups : fault.leavesNoGroups = true) : (m.check user t w).1 = m.decide user t (.ok ∅) := by
  rw [check_answer, failed]
  exact decide_noGroups m user t noGroups

/-! ## Providers of the process -/

/-- A check answers unless the system cannot be asked for the user. -/
theorem stack_check_answers {caches : List ProviderId} (stack : Stack w m.provider base caches)
    (user : String) (t : AclType) :
    (∃ granted, (m.check user t w).1 = .ok granted) ∨
      (m.check user t w).1 = .error .unspeakable ∧ ¬ base.CanAsk user := by
  cases outcome : (m.check user t w).1 with
  | ok granted => exact .inl ⟨granted, rfl⟩
  | error fault =>
    rw [check_answer, decide_fault_iff] at outcome
    obtain ⟨-, failed, ends⟩ := outcome
    rcases (stack.of_fault (Prod.ext failed rfl)).1 with noGroups | ⟨rfl, cannot⟩
    · rw [noGroups] at ends
      cases ends
    · exact .inr ⟨rfl, cannot⟩

/-- Checks answer, and go on to do so, unless the system cannot be asked for the user. -/
theorem check_yields (m : Manager) (user : String) (t : AclType) (base : Provider)
    (caches : List ProviderId) :
    Yields (Stack · m.provider base caches) (m.check user t)
      (fun _ => (Stack · m.provider base caches))
      (fun fault => fault = .unspeakable ∧ ¬ base.CanAsk user) := by
  intro w stack
  have answers := stack_check_answers stack user t
  have still : Stack (m.check user t w).2 m.provider base caches := by
    by_cases needs : m.NeedsGroups user t
    · exact (stack.after_lookup user).congr fun j _ => by rw [check_providers needs]
    · exact stack.congr fun j _ => by rw [check_providers_of_needless needs]
  rcases run : m.check user t w with ⟨outcome, after⟩
  rw [run] at answers still
  cases outcome with
  | ok granted => exact still
  | error fault =>
    obtain ⟨same, cannot⟩ := answers.resolve_left fun answered => nomatch answered.choose_spec
    exact ⟨Except.error.inj same, cannot⟩

theorem checkDag_yields (m : Manager) (user : String) (r : Right) (base : Provider)
    (caches : List ProviderId) :
    Yields (Stack · m.provider base caches) (m.checkDag user r)
      (fun _ => (Stack · m.provider base caches))
      (fun fault => fault = .unspeakable ∧ ¬ base.CanAsk user) := by
  unfold checkDag
  refine .bind (check_yields m user (.ofAm r) base caches) fun granted => ?_
  cases granted with
  | true => exact .pure fun w stack => stack
  | false => exact check_yields m user (.ofDag r) base caches

theorem checkAction_yields (m : Manager) (user : String) (t : AclType) (base : Provider)
    (caches : List ProviderId) :
    Yields (Stack · m.provider base caches) (m.checkAction user t)
      (fun _ => (Stack · m.provider base caches))
      (fun fault => fault = .unspeakable ∧ ¬ base.CanAsk user) := by
  cases t with
  | amView => exact check_yields m user .amView base caches
  | amModify => exact check_yields m user .amModify base caches
  | dagView => exact checkDag_yields m user .view base caches
  | dagModify => exact checkDag_yields m user .modify base caches

/-- **A broken backend never breaks a check.** It is assumed that a process that cannot be started
is a fault of the system, with a number, so a command is one that the system can be given. -/
theorem check_never_fails {caches : List ProviderId} (stack : Stack w m.provider base caches)
    {user : String} (asks : base.CanAsk user) (t : AclType) :
    ∃ granted after, m.check user t w = (.ok granted, after) ∧
      ∀ fault, (Groups.lookup m.provider user w).1 = .error fault →
        -- the answer is the one for a user without groups
        m.decide user t (.ok ∅) = .ok granted ∧
        -- caches hold what they held, less entries that had expired
        ∀ id inner lifetime c, w.providers[id]? = some (.cached inner lifetime c) →
          ∃ kept, after.providers[id]? = some (.cached inner lifetime kept) ∧ kept.Sublist c ∧
            (∀ e ∈ c, e ∉ kept → lifetime ≤ w.clock - e.fetched) ∧
            (¬ (m.NeedsGroups user t ∧ id ∈ caches) → kept = c) ∧
            -- which are all of them where the clock never went back
            (m.NeedsGroups user t → id ∈ caches → ∀ h, Run id inner lifetime w h →
              kept = c.unexpired lifetime w.clock) := by
  obtain ⟨granted, answer⟩ :=
    (stack_check_answers stack user t).resolve_right fun ends => ends.2 asks
  refine ⟨granted, (m.check user t w).2, Prod.ext answer rfl, ?_⟩
  intro fault failed
  obtain ⟨why, providers⟩ := stack.of_fault (Prod.ext failed rfl)
  have noGroups := why.resolve_right fun cannot => cannot.2 asks
  refine ⟨by rw [← check_of_noGroups failed noGroups, answer], ?_⟩
  intro id inner lifetime c kind
  by_cases asked : m.NeedsGroups user t ∧ id ∈ caches
  · refine ⟨c.expire lifetime w.clock, ?_,
      Groups.Cache.expire_sublist c lifetime w.clock, ?_, ?_, ?_⟩
    · rw [check_providers asked.1, providers id, if_pos asked.2, kind]
      rfl
    · exact fun e there dropped => Groups.Cache.expired_of_dropped there dropped
    · exact fun unasked => absurd asked unasked
    · exact fun _ _ h run => run.expire_eq kind w.clock
  · refine ⟨c, ?_, List.Sublist.refl c, fun e there gone => absurd there gone, fun _ => rfl, ?_⟩
    · by_cases needs : m.NeedsGroups user t
      · have outside : id ∉ caches := fun there => asked ⟨needs, there⟩
        rw [check_providers needs, providers id, if_neg outside, kind]
      · rw [check_providers_of_needless needs, kind]
    · exact fun needs there => absurd ⟨needs, there⟩ asked

/-- A command that cannot be started, behind two caches. -/
def brokenWorld : World where
  host := { commands := [("bob", .unstartable 2 "No such file or directory")] }
  clock := 20
  settings := { paths := .ofEnvironment [] }
  providers := #[.command Groups.usualCommand,
    .cached 0 10 [⟨"old", 0, .ofList ["eng"]⟩, ⟨"new", 15, .ofList ["eng"]⟩], .cached 1 300 []]

def brokenManager : Manager where
  provider := 2
  amUser := "am"
  grants := Acl.readGrants .am [("view_acls", " eng")]

/-- The user is denied access, and the inner cache still has what it had that is not too old. -/
theorem check_never_fails_command :
    ∃ after kept, brokenManager.check "bob" .amView brokenWorld = (.ok false, after) ∧
      after.providers[1]? = some (.cached 0 10 kept) ∧ ⟨"new", 15, .ofList ["eng"]⟩ ∈ kept := by
  have stack : Stack brokenWorld brokenManager.provider (.command Groups.usualCommand) [2, 1] :=
    .cache rfl (by decide) (.cache rfl (by decide) (.command rfl))
  have asks : Provider.CanAsk "bob" (.command Groups.usualCommand) := by
    unfold Provider.CanAsk
    decide
  have fails : (Groups.lookup brokenManager.provider "bob" brokenWorld).1.isOk = false := by
    decide +kernel
  obtain ⟨fault, failed⟩ := Stateful.exists_error fails
  obtain ⟨granted, after, run, rest⟩ := check_never_fails stack asks .amView
  obtain ⟨decided, contents⟩ := rest fault failed
  obtain ⟨kept, here, -, onlyOld, -⟩ := contents 1 0 10 _ rfl
  obtain rfl : false = granted := Except.ok.inj decided
  refine ⟨after, kept, run, here, ?_⟩
  by_contra gone
  have old := onlyOld ⟨"new", 15, .ofList ["eng"]⟩ (by decide) gone
  exact absurd old (by decide)

/-! ## Backends that report failures -/

theorem reported_eq (given : Option String) :
    Fault.reported given =
      if given.getD "" = "" then .lookupUnnamed else .lookup (.reported (given.getD "")) := by
  cases given with
  | none => rfl
  | some message =>
    by_cases empty : message = ""
    · rw [empty]
      rfl
    · simp [Fault.reported, ErrorKind.message, empty]

/-- A backend that reports a failed lookup leaves the user without groups if it gives a message. If
it gives none, or an empty one, a check that needs groups ends with a fault. -/
theorem check_reported {given : Option String}
    (raised : (Groups.lookup m.provider user w).1 = .error (.reported given)) :
    ((m.check user t w).1 = .error .lookupUnnamed ↔ m.NeedsGroups user t ∧ given.getD "" = "") ∧
    (¬ (m.NeedsGroups user t ∧ given.getD "" = "") →
      (m.check user t w).1 = m.decide user t (.ok ∅) ∧
        ∃ granted, (m.check user t w).1 = .ok granted) := by
  rw [reported_eq] at raised
  by_cases wordless : given.getD "" = ""
  · rw [if_pos wordless] at raised
    have ends : (m.check user t w).1 = .error .lookupUnnamed ↔ m.NeedsGroups user t := by
      rw [check_answer, decide_fault_iff, raised]
      exact ⟨And.left, fun needs => ⟨needs, rfl, rfl⟩⟩
    refine ⟨ends.trans ⟨fun needs => ⟨needs, wordless⟩, And.left⟩, fun harmless => ?_⟩
    have needless : ¬ m.NeedsGroups user t := fun needs => harmless ⟨needs, wordless⟩
    -- the outcome of the lookup does not matter
    have same : (m.check user t w).1 = m.decide user t (.ok ∅) := by
      rw [check_answer, decide, decide]
      rcases rule_cases m user t with ⟨-, ruling⟩ | ⟨needs, -⟩ | ⟨-, -, ruling⟩
      · rw [ruling]
      · exact absurd needs needless
      · rw [ruling]
    exact ⟨same, same ▸ exists_decide m user t ∅⟩
  · rw [if_neg wordless] at raised
    have same : (m.check user t w).1 = m.decide user t (.ok ∅) := check_of_noGroups raised rfl
    obtain ⟨granted, decided⟩ := exists_decide m user t ∅
    refine ⟨?_, fun _ => ⟨same, granted, same.trans decided⟩⟩
    rw [same, decided]
    simp [wordless]

/-- A backend that reports that it cannot look up anybody. -/
def reportingWorld (given : Option String) : World :=
  { World.start {} 0 with
    providers := #[.script { name := "", outcomes := [("bob", [⟨0, .error (.reported given)⟩])] }] }

def reliantManager : Manager where
  provider := 0
  amUser := "am"
  grants := Acl.readGrants .am [("view_acls", "alice eng")]

/-- With a message the user is denied access. -/
theorem check_reported_worded :
    (reliantManager.check "bob" .amView (reportingWorld (some "timeout"))).1 = .ok false := by
  have raised : (Groups.lookup reliantManager.provider "bob" (reportingWorld (some "timeout"))).1 =
      .error (.reported (some "timeout")) := by
    rw [Groups.lookup_script rfl]
    rfl
  rw [((check_reported raised).2 (by simp)).1]
  decide

/-- Without a message, or with an empty one, the check does not answer. -/
theorem check_reported_wordless :
    (Groups.lookup 0 "bob" (reportingWorld none)).1 = .error (.reported none) ∧
    (reliantManager.check "bob" .amView (reportingWorld none)).1 = .error .lookupUnnamed ∧
    (Groups.lookup 0 "bob" (reportingWorld (some ""))).1 = .error (.reported (some "")) ∧
    (reliantManager.check "bob" .amView (reportingWorld (some ""))).1 = .error .lookupUnnamed := by
  refine ⟨?_, ?_, ?_, ?_⟩
  all_goals decide +kernel

end DagAccess.Manager
