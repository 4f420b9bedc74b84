import DagAccess.Proofs.Session.Steps

/-!
# Isolation of managers

Whatever steps a session takes, also steps that fail, and whatever is done to lists that are known
outside, managers are only added and none is changed (`after_grows`), and a name goes on to stand
for its manager until a step gives it anew (`after_lookup`). So a manager is found as it was made,
its lists in their order, and a manager that is derived from it has what it had when it was made and
what is read for it in its own options, whatever was derived in between (`managers_isolated`).
-/

namespace DagAccess

/-- The number under one name of a manager stays the same. -/
def Names.sameNumber (id : String) : Frame Names where
  rel before after := after.managers.lookup id = before.managers.lookup id
  refl _ := rfl
  trans first second := second.trans first

namespace Session

open AllowList (Store)
open Manager (Grows Issued Stored)

/-! ## One step -/

/-- A step that would give a name to another manager fails. -/
def Leaves (s : Session) (id : String) (x : Step) : Prop :=
  x.binds = some id → (step s x).1.isOk = false

/-- A step changes no name but the one that it gives itself, and that only if it succeeds. -/
theorem step_lookup {s : Session} {id : String} {x : Step} (leaves : s.Leaves id x) :
    (step s x).2.names.managers.lookup id = s.names.managers.lookup id := by
  have outcome := leaves
  unfold Leaves at outcome
  rw [step_run] at outcome ⊢
  rcases run : play x s.names s.world with ⟨result, world⟩
  rw [run] at outcome
  cases result with
  | error fault => rfl
  | ok pair =>
    -- a step that succeeds gives its name, so it gives another one
    have other : x.binds ≠ some id := fun binds => Bool.noConfusion (outcome binds)
    have steady : Steady World.growing (Names.sameNumber id) (play x) := by
      refine play_steady growing_freesPlays (fun same => congrArg (List.lookup id) same)
        (fun given binds names n => ?_) fun _ => ⟨Act.restart_grows, Check.main_grows⟩
      have different : (id == given) = false := beq_false_of_ne fun same => other (same ▸ binds)
      exact (Assoc.lookup_put given id n names.managers).trans (by rw [different]; rfl)
    exact steady.names run

/-! ## All steps -/

/-- Managers are only added where all have lists of their own. -/
theorem after_grows (s : Session) (xs : List Step) : World.growing.rel s.world (s.after xs).world :=
  after_rel growing_freesPlays s fun _ _ _ => ⟨Act.restart_grows, Check.main_grows⟩

theorem start_apart (host : Host) (clock : Int) : (start host clock).world.Apart :=
  ⟨fun found => nomatch found⟩

/-- No step gives the name anew: each one that would, fails. -/
def LeavesAll (id : String) : Session → List Step → Prop
  | _, [] => True
  | s, x :: rest => s.clearOutput.Leaves id x ∧ LeavesAll id (step s.clearOutput x).2 rest

theorem after_lookup {s : Session} {id : String} {xs : List Step} (leaves : LeavesAll id s xs) :
    (s.after xs).names.managers.lookup id = s.names.managers.lookup id := by
  induction xs generalizing s with
  | nil => rfl
  | cons x rest ih => exact (ih leaves.2).trans (step_lookup leaves.1)

/-! ## What a manager says -/

/-- The manager that a name stands for. -/
def stored? (s : Session) (id : String) : Option Stored :=
  (s.names.managers.lookup id).bind fun n => s.world.managers[n]?

theorem run_stored {s : Session} {id : String} {p : Stored} {α : Type}
    (found : s.stored? id = some p) (next : Stored → Play α) :
    (managerId id >>= fun n => (liftM (Manager.find n) : Play Stored) >>= next) s.names s.world =
      next p s.names s.world := by
  obtain ⟨n, named, there⟩ := Option.bind_eq_some_iff.mp found
  simp only [run_bind, run_managerId, named, run_lift, Manager.find, Act.run_bind,
    Act.run_get, there, Act.run_pure]

/-- A manager tells what it is. -/
theorem step_info {s : Session} {id : String} {p : Stored} (found : s.stored? id = some p)
    (owns : p.Owns s.world.lists) :
    let m := p.manager s.world.lists
    (step s (.info id)).1 = .ok (.info ⟨m.amUser, m.dagUser, m.enabled, m.grants⟩) := by
  intro m
  have asks : play (.info id) = (info id >>= fun i => pure (.info i)) := rfl
  have users :
      ((s.world.lists.give p.users).2.give p.groups).2.list (s.world.lists.give p.users).1 =
        m.grants.users :=
    (Store.list_give_other _ _ (Store.give_there _ _)).trans (Store.list_give _ _)
  have groups : ((s.world.lists.give p.users).2.give p.groups).2.list
      ((s.world.lists.give p.users).2.give p.groups).1 = m.grants.groups :=
    (Store.list_give _ _).trans (Store.list_give_other _ _ owns.groups.there)
  rw [step_run, asks, run_bind, info, run_stored found]
  simp only [run_bind, run_lift, Act.run_onLists, Act.run_get]
  exact congrArg Except.ok (by rw [users, groups]; rfl)

/-- A caller that adds a name to a list that it was given changes that list only. -/
theorem step_editReturned {s : Session} {id : String} {p : Stored} (found : s.stored? id = some p)
    (owns : p.Owns s.world.lists) (ofUsers : Bool) (t : AclType) (name : String) :
    let m := p.manager s.world.lists
    (step s (.editReturned id ofUsers t name)).1 =
      .ok (.edited
        ((if ofUsers then m.grants.users else m.grants.groups).add t name) m.grants) := by
  intro m
  let x := if ofUsers then p.users else p.groups
  let given := s.world.lists.give x
  let edited := given.2.alter given.1 t (·.insert name)
  have spares : Store.Spares [] s.world.lists edited :=
    Store.spares_of_given (Store.alter_spares _ _ t _)
  have returned : edited.list given.1 = (s.world.lists.list x).add t name :=
    Store.list_alter_give _ x t _
  have same : p.manager edited = m := (owns.spared spares).2
  have chosen : s.world.lists.list x = if ofUsers then m.grants.users else m.grants.groups := by
    cases ofUsers <;> rfl
  have asks : play (.editReturned id ofUsers t name) = editReturned id ofUsers t name := rfl
  rw [step_run, asks, editReturned, run_stored found]
  simp only [run_bind, run_lift, Act.run_onLists, Act.run_get]
  rw [← chosen, ← returned, ← same]
  rfl

/-- A manager that is derived in a step has what its parent has and what its parser answers, asked
for its own options when the lists of the parent are copied. -/
theorem step_dag {s next : Session} {child id dagUser : String} {conf : DagOptions}
    {answer : Answer} {p : Stored} (found : s.stored? id = some p) (owns : p.Owns s.world.lists)
    (run : step s (.dag child id dagUser conf) = (.ok answer, next)) :
    ∃ options c, conf.Are s.world options ∧ next.stored? child = some c ∧ c.parser = p.parser ∧
      (p.manager s.world.lists).forDag
          (p.parser.reader { s.world with lists := p.copied s.world.lists }) dagUser options =
        .ok (c.manager next.world.lists) := by
  have asks : play (.dag child id dagUser conf) =
    (makeDag child id dagUser conf >>= fun _ => pure .nothing) := rfl
  obtain ⟨names, world, played, rfl⟩ := of_step_ok run
  rw [asks] at played
  obtain ⟨_, names, world, made, answered⟩ := of_bind_ok played
  obtain ⟨n, options, k, named, are, derived, given⟩ := makeDag_ok made
  cases answered
  have there : s.world.managers[n]? = some p := by
    rw [stored?, named] at found
    exact found
  have makes := Manager.derive_makes there owns dagUser options
  rw [derived] at makes
  cases makes with
  | made same value added =>
    refine ⟨options, _, are, ?_, same, value⟩
    have number : names.managers.lookup child = some s.world.managers.size := by
      rw [given]
      exact (Assoc.lookup_put child child _ _).trans (by rw [beq_self_eq_true]; rfl)
    rw [stored?, number, Option.bind_some]
    exact added.found

/-! ## Isolation -/

/-- **Managers are isolated.** A manager stays as it was made through all steps that do not give its
name anew: its owners, its switch and its lists are the same, entries and order, whatever callers do
to lists that they were given and parsers to lists that they know. So do all others, under whatever
names. All managers that come to exist are made from options or derived from earlier ones, and one
that is derived from this one has what this one had when it was made and what its parser answers
when it is asked for its own options. The usual parser answers what they say, whatever happened
before. -/
theorem managers_isolated (host : Host) (clock : Int) (before later : List Step) {id : String}
    {p : Stored} (found : ((start host clock).after before).stored? id = some p)
    (leaves : LeavesAll id ((start host clock).after before) later) :
    let s := (start host clock).after before
    let final := s.after later
    let m := p.manager s.world.lists
    -- what it is, and what it says that it is
    final.stored? id = some p ∧ p.manager final.world.lists = m ∧
    (step final (.info id)).1 = .ok (.info ⟨m.amUser, m.dagUser, m.enabled, m.grants⟩) ∧
    (∀ ofUsers t name, (step final (.editReturned id ofUsers t name)).1 =
      .ok (.edited ((if ofUsers then m.grants.users else m.grants.groups).add t name) m.grants)) ∧
    -- all managers
    (∀ n k, s.world.manager? n = some k → final.world.manager? n = some k) ∧
    (∀ n k, final.world.managers[n]? = some k → Issued final.world n k) ∧
    -- what is derived from it
    ∀ child dagUser conf answer next, step final (.dag child id dagUser conf) = (.ok answer, next) →
      ∃ options c, conf.Are final.world options ∧ next.stored? child = some c ∧
        let derived := c.manager next.world.lists
        derived = { m with dagUser := some dagUser, grants := derived.grants } ∧
        let reader := p.parser.reader { final.world with lists := p.copied final.world.lists }
        (p.parser = .standard → reader = .standard) ∧
        ∀ t, derived.grants.listing t = (m.grants.listing t).union
          (if m.enabled then options.elim ∅ fun own =>
              (reader.read .dag own).listing t else ∅) := by
  intro s final m
  have start := start_apart host clock
  have apart : s.world.Apart := (after_grows _ before start).apart
  have grows : Grows s.world final.world := after_grows s later apart
  obtain ⟨n, named, there⟩ := Option.bind_eq_some_iff.mp found
  obtain ⟨kept, same⟩ := grows.kept there
  have still : final.stored? id = some p := by
    rw [stored?, after_lookup leaves, named]
    exact kept
  have owns : p.Owns final.world.lists := grows.apart.owns kept
  refine ⟨still, same, ?_, ?_, ?_, ?_, ?_⟩
  · rw [step_info still owns, same]
  · intro ofUsers t name
    rw [step_editReturned still owns, same]
  · intro k other there
    obtain ⟨q, listed, value⟩ := Option.map_eq_some_iff.mp there
    obtain ⟨kept, same⟩ := grows.kept listed
    rw [World.manager?, kept, Option.map_some, same, value]
  · intro k q there
    have all := (after_grows _ before start).trans grows
    exact all.issued (Nat.zero_le k) there
  · intro child dagUser conf answer next run
    obtain ⟨options, c, are, named, -, derived⟩ := step_dag still owns run
    rw [same] at derived
    obtain ⟨-, whole⟩ := Manager.forDag_eq_ok derived
    refine ⟨options, c, are, named, ?_, fun standard => ?_, fun t => ?_⟩
    · rw [whole]
    · rw [standard]
      exact Parser.reader_standard _
    · rw [whole]
      cases m.enabled with
      | false => exact (Acl.Listing.union_empty _).symm
      | true =>
        cases options with
        | none => exact (Acl.Listing.union_empty _).symm
        | some own => exact Grants.listing_merge _ _ t

/-- A parser that goes on to use the lists that it answered, and adds to them each time. -/
def hoarder : Parser.Behaviour := fun asked _ _ _ =>
  { edits := match asked with
      | [] => [.new, .new, .alter 0 .amView (·.insert "alice")]
      | _ =>
        [.alter 0 .amView (·.insert "mallory"), .alter 0 .dagView (·.insert "bob"),
          .share 1 .dagView 0 .dagView]
    answer := .ok (0, 1) }

/-- A manager with this parser is made. -/
def hoardingSteps : List Step :=
  [.provider "groups" .accounts, .manager "am" (some "groups") "am" (some []) (some hoarder)]

/-- The parser is asked again for a DAG, a caller changes a list that it was given and one that the
parser knows, and a step that would take the name fails. -/
def siblingSteps : List Step :=
  [.dag "first" "am" "u1" (.given []), .editReturned "am" true .amView "mallory",
    .edit (.alter 0 .amModify (·.insert "mallory")), .manager "am" none "other" none none]

/-- Only who was listed at first is listed. -/
theorem managers_isolated_hoarded :
    let final := ((start {} 0).after hoardingSteps).after siblingSteps
    (step final (.info "am")).1 =
        .ok (.info ⟨"am", none, true, ⟨.ofEntries [(.amView, .ofList ["alice"])], ∅⟩⟩) ∧
      ∃ n, final.names.managers.lookup "first" = some n ∧
        (final.world.manager? n).map (·.grants.users.principals .amView) =
          some (.ofList ["alice", "mallory"]) := by
  let made : Stored :=
    { provider := 0, amUser := "am", parser := .custom 0 hoarder, users := 0, groups := 1 }
  have found : ((start {} 0).after hoardingSteps).stored? "am" = some made := rfl
  have grants : (made.manager ((start {} 0).after hoardingSteps).world.lists).grants =
      ⟨.ofEntries [(.amView, .ofList ["alice"])], ∅⟩ := by decide +kernel
  have leaves : LeavesAll "am" ((start {} 0).after hoardingSteps) siblingSteps :=
    ⟨fun binds => absurd binds (by decide), fun binds => absurd binds (by decide),
      fun binds => absurd binds (by decide), fun _ => by decide +kernel, trivial⟩
  obtain ⟨-, -, info, -⟩ := managers_isolated {} 0 hoardingSteps siblingSteps found leaves
  refine ⟨info.trans ?_, 1, by decide +kernel, by decide +kernel⟩
  exact congrArg (fun g => Except.ok (Answer.info ⟨"am", none, true, g⟩)) grants

end Session

end DagAccess
