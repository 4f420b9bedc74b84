import DagAccess.Manager.Check
import DagAccess.Proofs.Groups.Lookup

/-!
# Decisions of managers

`GrantsOutright` lists the rules that need no groups, and `NeedsGroups` says when all of them are
silent and some group is allowed; `rule_cases` reads the ruling of a manager this way. A check is
the ruling completed by one lookup of groups: `check_answer` gives its answer, and `check_unlogged`
the world that it leaves, up to logging. `check_exact` puts both together: who is granted access,
which faults come through, and when the provider is asked.
-/

namespace DagAccess.Manager

variable {m : Manager} {user : String} {t : AclType}

/-! ## Rules and rulings -/

/-- An action is granted whatever the groups of the user: checks are off, the user owns the AM, or
owns the DAG and the action is about a DAG, or everyone is listed for the action, or the user is. -/
def GrantsOutright (m : Manager) (user : String) (t : AclType) : Prop :=
  m.enabled = false ∨ user = m.amUser ∨ (t.isDag = true ∧ m.dagUser = some user) ∨
    wildcard ∈ m.grants.users.principals t ∨ user ∈ m.grants.users.principals t

/-- No other rule grants the action, and members of some groups may do it. -/
def NeedsGroups (m : Manager) (user : String) (t : AclType) : Prop :=
  ¬ m.GrantsOutright user t ∧ ∃ group, group ∈ m.grants.groups.principals t

/-- The ruling by cases of the two conditions. -/
theorem rule_cases (m : Manager) (user : String) (t : AclType) :
    (m.GrantsOutright user t ∧ m.rule user t = .granted) ∨
    (m.NeedsGroups user t ∧ m.rule user t = .members (m.grants.groups.principals t)) ∨
    (¬ m.GrantsOutright user t ∧ ¬ m.NeedsGroups user t ∧ m.rule user t = .denied) := by
  by_cases outright : m.GrantsOutright user t
  · left
    refine ⟨outright, ?_⟩
    unfold rule
    rcases outright with off | am | dag | everyone | listed
    · simp [off]
    · simp [am]
    · simp [dag]
    · simp [everyone]
    · simp [listed]
  · right
    have silent := outright
    simp only [GrantsOutright, not_or] at silent
    obtain ⟨on, notAm, notDag, notEveryone, notListed⟩ := silent
    have ruling : m.rule user t =
        if (m.grants.groups.principals t).isEmpty then .denied
        else .members (m.grants.groups.principals t) := by
      simp [rule, on, notAm, notDag, notEveryone, notListed]
    by_cases empty : (m.grants.groups.principals t).isEmpty = true
    · right
      rw [if_pos empty] at ruling
      refine ⟨outright, ?_, ruling⟩
      rintro ⟨-, group, allowed⟩
      exact PrincipalSet.isEmpty_iff.mp empty group allowed
    · left
      rw [if_neg empty] at ruling
      refine ⟨⟨outright, ?_⟩, ruling⟩
      simpa [PrincipalSet.isEmpty_iff] using empty

theorem rule_eq_granted (outright : m.GrantsOutright user t) : m.rule user t = .granted := by
  rcases rule_cases m user t with ⟨-, ruling⟩ | ⟨needs, -⟩ | ⟨silent, -⟩
  · exact ruling
  · exact absurd outright needs.1
  · exact absurd outright silent

theorem rule_eq_members (needs : m.NeedsGroups user t) :
    m.rule user t = .members (m.grants.groups.principals t) := by
  rcases rule_cases m user t with ⟨outright, -⟩ | ⟨-, ruling⟩ | ⟨-, needless, -⟩
  · exact absurd outright needs.1
  · exact ruling
  · exact absurd needs needless

theorem rule_eq_denied (silent : ¬ m.GrantsOutright user t) (needless : ¬ m.NeedsGroups user t) :
    m.rule user t = .denied := by
  rcases rule_cases m user t with ⟨outright, -⟩ | ⟨needs, -⟩ | ⟨-, -, ruling⟩
  · exact absurd outright silent
  · exact absurd needs needless
  · exact ruling

/-- Managers rule alike if they grant the same outright, and allow the same groups otherwise. -/
theorem rule_eq_of_grantsOutright {m' : Manager}
    (outright : m'.GrantsOutright user t ↔ m.GrantsOutright user t)
    (groups : ¬ m.GrantsOutright user t →
      m'.grants.groups.principals t = m.grants.groups.principals t) :
    m'.rule user t = m.rule user t := by
  by_cases granted : m.GrantsOutright user t
  · rw [rule_eq_granted granted, rule_eq_granted (outright.mpr granted)]
  · have needs : m'.NeedsGroups user t ↔ m.NeedsGroups user t := by
      rw [NeedsGroups, NeedsGroups, outright, groups granted]
    by_cases needed : m.NeedsGroups user t
    · rw [rule_eq_members needed, rule_eq_members (needs.mpr needed), groups granted]
    · rw [rule_eq_denied granted needed,
        rule_eq_denied (mt outright.mp granted) (mt needs.mp needed)]

/-! ## Decisions on an outcome -/

@[simp]
theorem meets_iff {allowed groups : PrincipalSet} :
    meets allowed groups = true ↔ ∃ group ∈ groups, group ∈ allowed := by
  simp [meets]

theorem settle_granted_iff {allowed : PrincipalSet} {outcome : Except Fault PrincipalSet} :
    settle allowed outcome = .ok true ↔
      ∃ groups, outcome = .ok groups ∧ ∃ group ∈ groups, group ∈ allowed := by
  cases outcome with
  | ok groups => simp [settle]
  | error fault => cases h : fault.leavesNoGroups <;> simp [settle, h]

theorem settle_fault_iff {allowed : PrincipalSet} {outcome : Except Fault PrincipalSet}
    {fault : Fault} :
    settle allowed outcome = .error fault ↔ outcome = .error fault ∧
    fault.leavesNoGroups = false := by
  cases outcome with
  | ok groups => simp [settle]
  | error cause =>
    cases h : cause.leavesNoGroups
    · simp only [settle, h, Bool.false_eq_true, if_false, Except.error.injEq]
      exact ⟨fun same => ⟨same, same ▸ h⟩, And.left⟩
    · simp only [settle, h, if_true, reduceCtorEq, Except.error.injEq, false_iff, not_and]
      rintro rfl
      simp [h]

/-- The faults after which a user counts as a member of no group decide as an empty set of
groups. -/
theorem settle_noGroups (allowed : PrincipalSet) {fault : Fault} (h : fault.leavesNoGroups = true) :
    settle allowed (.error fault) = settle allowed (.ok ∅) := by
  simp [settle, h, meets]

/-- Access is granted outright, or because a lookup finds the user in an allowed group. -/
theorem decide_granted_iff {outcome : Except Fault PrincipalSet} :
    m.decide user t outcome = .ok true ↔ m.GrantsOutright user t ∨
      ∃ groups, outcome = .ok groups ∧ ∃ group ∈ groups, group ∈ m.grants.groups.principals t := by
  rcases rule_cases m user t with ⟨outright, ruling⟩ | ⟨needs, ruling⟩ | ⟨silent, needless, ruling⟩
  · simp [decide, ruling, outright]
  · simp [decide, ruling, needs.1, settle_granted_iff]
  · simp only [decide, ruling, silent, false_or, Except.ok.injEq, Bool.false_eq_true, false_iff]
    rintro ⟨-, -, group, -, allowed⟩
    exact needless ⟨silent, group, allowed⟩

/-- A fault comes through exactly if groups are needed and it is of a kind that is passed on. -/
theorem decide_fault_iff {outcome : Except Fault PrincipalSet} {fault : Fault} :
    m.decide user t outcome = .error fault ↔
      m.NeedsGroups user t ∧ outcome = .error fault ∧ fault.leavesNoGroups = false := by
  rcases rule_cases m user t with ⟨outright, ruling⟩ | ⟨needs, ruling⟩ | ⟨-, needless, ruling⟩
  · simp [decide, ruling, NeedsGroups, outright]
  · simp [decide, ruling, needs, settle_fault_iff]
  · simp [decide, ruling, needless]

theorem decide_noGroups (m : Manager) (user : String) (t : AclType) {fault : Fault}
    (h : fault.leavesNoGroups = true) :
    m.decide user t (.error fault) = m.decide user t (.ok ∅) := by
  unfold decide
  cases m.rule user t with
  | granted => rfl
  | denied => rfl
  | members allowed => exact settle_noGroups allowed h

/-! ## One check -/

theorem run_deny (user : String) (t : AclType) (w : World) :
    deny user t w = (.ok false,
      w.logged ⟨.debug, logger, s!"Access denied: user={user}, acl_type={t.label}"⟩) := rfl

/-- The last step of a check passes the decision on; a denial is logged. -/
theorem run_conclude (outcome : Except Fault Bool) (user : String) (t : AclType) (w : World) :
    let run := (Act.of outcome >>= fun b => if b then return true else deny user t) w
    run.1 = outcome ∧ run.2.unlogged = w.unlogged := by
  cases outcome with
  | error fault => exact ⟨rfl, rfl⟩
  | ok granted => cases granted <;> simp [Act.run_bind, run_deny]

/-- A check whose ruling is left to the members of some groups asks the provider once, and goes by
its answer. All else that it does is logging. -/
theorem check_members {allowed : PrincipalSet} (ruling : m.rule user t = .members allowed)
    (w : World) :
    (m.check user t w).1 = settle allowed (Groups.lookup m.provider user w).1 ∧
      (m.check user t w).2.unlogged = (Groups.lookup m.provider user w).2.unlogged := by
  simp only [check, ruling, Act.run_bind, Act.run_attempt]
  rcases Groups.lookup m.provider user w with ⟨outcome, after⟩
  cases outcome with
  | ok groups => exact run_conclude (settle allowed (.ok groups)) user t after
  | error fault =>
    simp only [Act.run_ite]
    split
    · rw [Act.run_bind, Act.run_log]
      exact run_conclude (settle allowed (.error fault)) user t (after.logged _)
    · exact run_conclude (settle allowed (.error fault)) user t after

/-- A check that needs groups asks the provider once. -/
theorem check_needed (needs : m.NeedsGroups user t) (w : World) :
    (m.check user t w).1 =
      settle (m.grants.groups.principals t) (Groups.lookup m.provider user w).1 ∧
      (m.check user t w).2.unlogged = (Groups.lookup m.provider user w).2.unlogged :=
  check_members (rule_eq_members needs) w

/-- A check answers as the manager decides on the outcome of the lookup. -/
theorem check_answer (m : Manager) (user : String) (t : AclType) (w : World) :
    (m.check user t w).1 = m.decide user t (Groups.lookup m.provider user w).1 := by
  unfold decide
  cases ruling : m.rule user t with
  | granted => simp only [check, ruling, Act.run_pure]
  | denied => simp only [check, ruling, run_deny]
  | members allowed => exact (check_members ruling w).1

/-- The provider is not asked, and nothing but logging happens, unless the ruling is left to the
members of some groups. -/
theorem check_unlogged (needless : ¬ m.NeedsGroups user t) (w : World) :
    (m.check user t w).2.unlogged = w.unlogged := by
  rcases rule_cases m user t with ⟨-, ruling⟩ | ⟨needs, -⟩ | ⟨-, -, ruling⟩
  · simp only [check, ruling, Act.run_pure]
  · exact absurd needs needless
  · simp only [check, ruling, run_deny, World.unlogged_logged]

/-- Groups are needed exactly if some outcomes of the lookup have access granted and others
denied. -/
theorem needsGroups_iff : m.NeedsGroups user t ↔
    ∃ yes no, (m.check user t yes).1 = .ok true ∧ (m.check user t no).1 = .ok false := by
  simp only [check_answer]
  constructor
  · intro needs
    obtain ⟨yes, member⟩ :=
      Groups.exists_lookup_eq m.provider user (.ok (m.grants.groups.principals t))
    obtain ⟨no, stranger⟩ := Groups.exists_lookup_eq m.provider user (.ok ∅)
    refine ⟨yes, no, ?_, ?_⟩
    · obtain ⟨group, allowed⟩ := needs.2
      rw [member, decide_granted_iff]
      exact .inr ⟨_, rfl, group, allowed, allowed⟩
    · rw [stranger, decide, rule_eq_members needs]
      simp [settle, meets]
  · rintro ⟨yes, no, granted, denied⟩
    rcases rule_cases m user t with ⟨-, ruling⟩ | ⟨needs, -⟩ | ⟨-, -, ruling⟩
    · simp [decide, ruling] at denied
    · exact needs
    · simp [decide, ruling] at granted

/-- A script behind a manager notes the user if the check needs groups, and notices nothing
otherwise. -/
theorem check_script {w : World} {s : Groups.Script}
    (kind : w.providers[m.provider]? = some (.script s)) :
    ∃ s', (m.check user t w).2.providers[m.provider]? = some (.script s') ∧
      (m.NeedsGroups user t → s'.asked = s.asked ++ [user]) ∧
      (¬ m.NeedsGroups user t → s' = s) := by
  by_cases needs : m.NeedsGroups user t
  · have run := check_needed needs w
    have providers := congrArg World.providers run.2
    rw [World.providers_unlogged, World.providers_unlogged, Groups.lookup_script kind] at providers
    have bound : m.provider < w.providers.size := (Array.getElem?_eq_some_iff.mp kind).1
    refine ⟨(s.next user).2, ?_, fun _ => Groups.asked_next s user, fun h => absurd needs h⟩
    rw [providers, Array.getElem?_setIfInBounds_self_of_lt bound]
  · have providers := congrArg World.providers (check_unlogged needs w)
    rw [World.providers_unlogged, World.providers_unlogged] at providers
    exact ⟨s, by rw [providers, kind], fun h => absurd h needs, fun _ => rfl⟩

/-- **Access decisions are exact.** -/
theorem check_exact (m : Manager) (user : String) (t : AclType) (w : World) :
    -- who is granted access
    ((m.check user t w).1 = .ok true ↔ m.GrantsOutright user t ∨
      ∃ groups, (Groups.lookup m.provider user w).1 = .ok groups ∧
        ∃ group ∈ groups, group ∈ m.grants.groups.principals t) ∧
    -- which faults of the provider come through, and what the others stand for
    (∀ fault, (m.check user t w).1 = .error fault ↔ m.NeedsGroups user t ∧
      (Groups.lookup m.provider user w).1 = .error fault ∧ fault.leavesNoGroups = false) ∧
    (∀ fault other, (Groups.lookup m.provider user w).1 = .error fault →
      fault.leavesNoGroups = true → (Groups.lookup m.provider user other).1 = .ok ∅ →
      (m.check user t w).1 = (m.check user t other).1) ∧
    -- when the provider is asked
    (m.NeedsGroups user t →
      (m.check user t w).2.unlogged = (Groups.lookup m.provider user w).2.unlogged) ∧
    (¬ m.NeedsGroups user t → (m.check user t w).2.unlogged = w.unlogged) ∧
    (∀ s, w.providers[m.provider]? = some (.script s) →
      ∃ s', (m.check user t w).2.providers[m.provider]? = some (.script s') ∧
        (m.NeedsGroups user t → s'.asked = s.asked ++ [user]) ∧ (¬ m.NeedsGroups user t → s' = s)) ∧
    -- which is when its answer can change the decision
    (m.NeedsGroups user t ↔
      ∃ yes no, (m.check user t yes).1 = .ok true ∧ (m.check user t no).1 = .ok false) := by
  refine ⟨?_, ?_, ?_, ?_, ?_, ?_, ?_⟩
  · rw [check_answer]
    exact decide_granted_iff
  · intro fault
    rw [check_answer]
    exact decide_fault_iff
  · intro fault other failed noGroups empty
    rw [check_answer, check_answer, failed, empty]
    exact decide_noGroups m user t noGroups
  · exact fun needs => (check_needed needs w).2
  · exact fun needless => check_unlogged needless w
  · exact fun s kind => check_script kind
  · exact needsGroups_iff

end DagAccess.Manager
