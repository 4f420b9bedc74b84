import DagAccess.Proofs.AllowList.Store
import DagAccess.Proofs.Manager.Derivation
import DagAccess.Proofs.Settings.Frame

/-!
# Making managers from lists in a store

A manager that is made gets lists of its own, and so does one that is derived: the parent's lists
are copied, and what a parser answers is merged into them. What that is, `Parser.reader` says for
the world in which the parser is asked. Both operations are summed up by `Makes`: they end with the
fault that making the value would end with, or with a fault of a parser, or they add a manager whose
value is the one that was to be made, of what was read for it (`create_makes`, `derive_makes`). In
any case all private lists that there were stay private and as they were.
-/

namespace DagAccess

open AllowList (Ref Store)
open AllowList.Store (Spares)
open Stateful (Confined Yields)

theorem Act.run_onLists {α : Type} (work : Store → α × Store) (w : World) :
    Act.onLists work w = (.ok (work w.lists).1, { w with lists := (work w.lists).2 }) := rfl

/-- Only lists, loggers and what was noted of parsers change, and of private lists only these. -/
def World.sparing (but : List Ref) : Frame World where
  rel v w := w = { v with lists := w.lists, logging := w.logging, readings := w.readings } ∧
    Spares but v.lists w.lists
  refl _ := ⟨rfl, .refl _ _⟩
  trans := by
    rintro u v w ⟨first, spares⟩ ⟨second, later⟩
    refine ⟨?_, spares.trans later⟩
    rw [second, first]

theorem World.sparing_mono {but more : List Ref} {v w : World} (included : but ⊆ more)
    (sparing : (World.sparing but).rel v w) : (World.sparing more).rel v w :=
  ⟨sparing.1, sparing.2.mono included⟩

namespace Manager

variable {but : List Ref} {scope : Acl.Scope} {conf : Options} {parser : Parser}
  {m : Stored} {w : World}

/-! ## Asking parsers -/

theorem onLists_sparing {α : Type} {work : Store → α × Store}
    (spares : ∀ s, Spares but s (work s).2) : Confined (World.sparing but) (Act.onLists work) :=
  fun w => ⟨rfl, spares w.lists⟩

theorem log_sparing (level : Logging.Level) (logger message : String) :
    Confined (World.sparing but) (Act.log level logger message) :=
  fun _ => ⟨rfl, .refl _ _⟩

theorem known_sparing (i : Nat) : Confined (World.sparing but) (known i) := by
  unfold known
  refine .bind .get fun w => ?_
  split
  · exact .pure _
  · exact .throw _

theorem turn_sparing (id : Nat) (behaviour : Parser.Behaviour) (scope : Acl.Scope)
    (conf : Options) : Confined (World.sparing []) (turn id behaviour scope conf) := by
  have noted : Confined (World.sparing []) (noteReading id scope) := fun _ => ⟨rfl, .refl _ _⟩
  have edited : ∀ edits : List AllowList.Edit,
      Confined (World.sparing []) (Act.onLists fun s => ((), edits.foldl .edit s)) := fun edits =>
    onLists_sparing fun s => .foldl AllowList.Store.edit_spares edits s
  exact .bind .get fun w => .bind noted fun _ => .bind (edited _) fun _ => Act.confined_of _

/-- Whatever a parser does, private lists stay as they are. -/
theorem ask_sparing (scope : Acl.Scope) (conf : Options) (parser : Parser) :
    Confined (World.sparing []) (ask scope conf parser) := by
  cases parser with
  | standard =>
    have placed : ∀ a, Confined (World.sparing []) (Act.onLists (·.place a)) := fun a =>
      onLists_sparing fun s => (AllowList.Store.place_gains s a).spares
    exact .bind (placed _) fun _ => .bind (placed _) fun _ => .pure _
  | custom id behaviour =>
    exact .bind (turn_sparing id behaviour scope conf) fun _ =>
      .bind (known_sparing _) fun _ => .bind (known_sparing _) fun _ => .pure _

/-- What two lists allow, as one. -/
def grantsIn (s : Store) (users groups : Ref) : Grants :=
  ⟨s.list users, s.list groups⟩

/-- Two private lists were made, with this in them. -/
structure Paired (s : Store) (g : Grants) (x y : Ref) (s' : Store) : Prop where
  users : s'.Private x
  groups : s'.Private y
  apart : x ≠ y
  value : grantsIn s' x y = g
  new : s.lists.size ≤ x ∧ s.lists.size ≤ y
  spares : Spares [] s s'

theorem pair_gained {s : Store} {users groups : AllowList} {first second : Ref × Store}
    (one : s.Gains users first) (other : first.2.Gains groups second) :
    Paired s ⟨users, groups⟩ first.1 second.1 second.2 := by
  obtain ⟨still, same⟩ := other.spares.spared one.own List.not_mem_nil
  refine ⟨still, other.own, Nat.ne_of_lt (Nat.lt_of_lt_of_le one.own.there other.new), ?_,
    ⟨one.new, Nat.le_trans one.spares.grows other.new⟩, one.spares.trans other.spares⟩
  rw [grantsIn, same, one.value, other.value]

/-- The usual parser answers two lists that it made, with what is listed. -/
theorem ask_standard (scope : Acl.Scope) (conf : Options) (w : World) :
    ∃ x y after, ask scope conf .standard w = (.ok (x, y), after) ∧
      Paired w.lists (Acl.readGrants scope conf) x y after.lists :=
  ⟨_, _, _, rfl,
    pair_gained (AllowList.Store.place_gains w.lists _) (AllowList.Store.place_gains _ _)⟩

/-- A parser answers lists that were not private before, and the usual one always answers. -/
theorem ask_yields (scope : Acl.Scope) (conf : Options) (parser : Parser) (w : World) :
    Yields (· = w) (ask scope conf parser)
      (fun answer _ => ∀ x, w.lists.Private x → answer.1 ≠ x ∧ answer.2 ≠ x)
      (fun _ => parser ≠ .standard) := by
  cases parser with
  | standard =>
    rintro w rfl
    obtain ⟨x, y, after, run, paired⟩ := ask_standard scope conf w
    rw [run]
    refine fun z own => ⟨?_, ?_⟩
    · exact (Nat.ne_of_lt (Nat.lt_of_lt_of_le own.there paired.new.1)).symm
    · exact (Nat.ne_of_lt (Nat.lt_of_lt_of_le own.there paired.new.2)).symm
  | custom id behaviour =>
    have unusual : Parser.custom id behaviour ≠ .standard := by
      intro same
      cases same
    -- lists that are known at the end are none that were private at first
    have answers : ∀ i, Yields ((World.sparing []).rel w) (known i)
        (fun x after => (World.sparing []).rel w after ∧ ∀ y, w.lists.Private y → x ≠ y)
        (fun _ => Parser.custom id behaviour ≠ .standard) := by
      rintro i s spares
      unfold known
      rw [Act.run_bind, Act.run_get]
      dsimp only
      cases named : s.lists.known[i]? with
      | none => exact unusual
      | some x =>
        refine ⟨spares, ?_⟩
        rintro y own rfl
        exact (spares.2.spared own List.not_mem_nil).1.unknown (List.mem_of_getElem? named)
    have start : Yields (· = w) (turn id behaviour scope conf) (fun _ => (World.sparing []).rel w)
        (fun _ => Parser.custom id behaviour ≠ .standard) :=
      (Yields.of_confined (turn_sparing id behaviour scope conf) (fun _ => unusual) w).weaken
        (fun s here => here ▸ (World.sparing []).refl w) (fun _ _ spares => spares)
          fun _ fault => fault
    refine .bind start ?_
    rintro ⟨i, j⟩
    refine .bind (answers i) fun users => .of_and fun first => ?_
    refine .bind (answers j) fun groups => .of_and fun second => ?_
    exact .pure fun s _ x own => ⟨first x own, second x own⟩

end Manager

/-- What the parser answers when it is asked in a world. What it would find where it fails does not
matter. -/
def Parser.reader (parser : Parser) (w : World) : Reader where
  read scope conf :=
    let outcome := Manager.ask scope conf parser w
    outcome.1.toOption.elim {} fun answer => Manager.grantsIn outcome.2.lists answer.1 answer.2

theorem Parser.read_reader {parser : Parser} {scope : Acl.Scope} {conf : Options} {w after : World}
    {answer : Ref × Ref} (ran : Manager.ask scope conf parser w = (.ok answer, after)) :
    (parser.reader w).read scope conf = Manager.grantsIn after.lists answer.1 answer.2 := by
  unfold reader
  dsimp only
  rw [ran]
  rfl

/-- The usual parser finds the same everywhere. -/
@[simp]
theorem Parser.reader_standard (w : World) : Parser.standard.reader w = .standard := by
  refine congrArg Reader.mk (funext fun scope => funext fun conf => ?_)
  obtain ⟨x, y, _, ran, paired⟩ := Manager.ask_standard scope conf w
  exact (read_reader ran).trans paired.value

namespace Manager

variable {but : List Ref} {scope : Acl.Scope} {conf : Options} {parser : Parser}
  {m : Stored} {w : World}

/-! ## Reading options for a manager -/

/-- A manager has two lists of its own. -/
structure Stored.Owns (m : Stored) (s : Store) : Prop where
  users : s.Private m.users
  groups : s.Private m.groups
  apart : m.users ≠ m.groups

/-- What is spared stays its own. -/
theorem Stored.Owns.spared {s s' : Store} (owns : m.Owns s) (spares : Spares [] s s') :
    m.Owns s' ∧ m.manager s' = m.manager s := by
  obtain ⟨users, sameUsers⟩ := spares.spared owns.users List.not_mem_nil
  obtain ⟨groups, sameGroups⟩ := spares.spared owns.groups List.not_mem_nil
  refine ⟨⟨users, groups, owns.apart⟩, ?_⟩
  rw [manager, manager, sameUsers, sameGroups]

/-- What two other lists allow is merged into the two lists. -/
theorem Stored.Owns.merge {s : Store} (owns : m.Owns s) (users : Ref) {groups : Ref}
    (other : groups ≠ m.users) :
    m.Owns ((s.merge m.users users).merge m.groups groups) ∧
      (m.manager ((s.merge m.users users).merge m.groups groups)).grants =
        (m.manager s).grants.merge (grantsIn s users groups) := by
  obtain ⟨first, value, others⟩ := AllowList.Store.list_merge owns.users users
  obtain ⟨still, -⟩ :=
    (AllowList.Store.merge_spares s m.users users).spared owns.groups fun there =>
      owns.apart (List.mem_singleton.mp there).symm
  obtain ⟨second, later, rest⟩ := AllowList.Store.list_merge still groups
  obtain ⟨kept, -⟩ := (AllowList.Store.merge_spares _ m.groups groups).spared first fun there =>
    owns.apart (List.mem_singleton.mp there)
  refine ⟨⟨kept, second, owns.apart⟩, ?_⟩
  rw [manager, manager, Grants.merge, grantsIn]
  dsimp only
  rw [rest m.users owns.apart, value, later, others m.groups owns.apart.symm, others groups other]

theorem absorb_sparing (m : Stored) (scope : Acl.Scope) (conf : Options) :
    Confined (World.sparing [m.users, m.groups]) (absorb m scope conf) := by
  have asked : Confined (World.sparing [m.users, m.groups]) (ask scope conf m.parser) := fun w =>
    World.sparing_mono (List.nil_subset _) (ask_sparing scope conf m.parser w)
  refine .bind asked fun (users, groups) => .bind (onLists_sparing fun s => ?_) fun _ =>
    onLists_sparing fun s => ?_
  · exact (AllowList.Store.merge_spares s m.users users).mono (by simp)
  · exact (AllowList.Store.merge_spares s m.groups groups).mono (by simp)

/-- The lists of a manager come to hold what is read for it as well. -/
theorem absorb_yields (owns : m.Owns w.lists) (scope : Acl.Scope) (conf : Options) :
    Yields (· = w) (absorb m scope conf)
      (fun _ after => m.Owns after.lists ∧ (m.manager after.lists).grants =
        (m.manager w.lists).grants.merge ((m.parser.reader w).read scope conf))
      (fun _ => m.parser ≠ .standard) := by
  have asked : Yields (· = w) (ask scope conf m.parser)
      (fun answer after => m.Owns after.lists ∧ m.manager after.lists = m.manager w.lists ∧
        answer.2 ≠ m.users ∧
        (m.parser.reader w).read scope conf = grantsIn after.lists answer.1 answer.2)
      (fun _ => m.parser ≠ .standard) := by
    rintro w rfl
    have spares := ask_sparing scope conf m.parser w
    have run := ask_yields scope conf m.parser w w rfl
    rcases here : ask scope conf m.parser w with ⟨outcome, after⟩
    rw [here] at run spares
    cases outcome with
    | error fault => exact run
    | ok answer =>
      obtain ⟨own, same⟩ := owns.spared spares.2
      exact ⟨own, same, (run _ owns.users).2, Parser.read_reader here⟩
  refine .bind asked fun (users, groups) => ?_
  rintro s ⟨own, same, other, found⟩
  obtain ⟨still, grants⟩ := own.merge users other
  refine ⟨still, ?_⟩
  rw [← same, found]
  exact grants

/-- What a manager comes to when options are read for it. -/
def Stored.grown (m : Stored) (s : Store) (reader : Reader) (scope : Acl.Scope)
    (conf : Option Options) : Manager :=
  { m.manager s with
    grants := if m.enabled then conf.elim (m.manager s).grants fun c =>
        (m.manager s).grants.merge (reader.read scope c)
      else (m.manager s).grants }

theorem grown_stored (m : Manager) (parser : Parser) (x y : Ref) (s : Store) (reader : Reader)
    (scope : Acl.Scope) (options : Option Options) :
    (m.stored parser x y).grown s reader scope options =
      { m with
        grants := if m.enabled then options.elim (grantsIn s x y) fun c =>
            (grantsIn s x y).merge (reader.read scope c)
          else grantsIn s x y } := rfl

theorem readOptions_sparing (m : Stored) (scope : Acl.Scope) (options : Option Options)
    (level : Logging.Level) (message : String) :
    Confined (World.sparing [m.users, m.groups]) (readOptions m scope options level message) := by
  unfold readOptions
  cases options with
  | none => exact .pure _
  | some conf =>
    exact .ite (fun _ => .bind (absorb_sparing m scope conf) fun _ => log_sparing _ _ _)
      fun _ => .pure _

theorem readOptions_yields (owns : m.Owns w.lists) (scope : Acl.Scope) (options : Option Options)
    (level : Logging.Level) (message : String) :
    Yields (· = w) (readOptions m scope options level message)
      (fun _ after => m.Owns after.lists ∧
        m.manager after.lists = m.grown w.lists (m.parser.reader w) scope options)
      (fun _ => m.parser ≠ .standard) := by
  unfold readOptions
  have unread : m.enabled = false ∨ options = none → m.Owns w.lists ∧
      m.manager w.lists = m.grown w.lists (m.parser.reader w) scope options := by
    refine fun neither => ⟨owns, ?_⟩
    unfold Stored.grown
    rcases neither with off | none
    · rw [off]
      rfl
    · rw [none]
      cases m.enabled <;> rfl
  cases options with
  | none =>
    rintro w rfl
    exact unread (.inr rfl)
  | some conf =>
    dsimp only
    split
    · next on =>
      refine .bind (absorb_yields owns scope conf) fun _ => ?_
      rintro s ⟨own, grants⟩
      refine ⟨own, ?_⟩
      unfold Stored.grown
      rw [on, if_pos rfl, Option.elim_some, ← grants]
      rfl
    · next off =>
      rintro w rfl
      exact unread (.inl (Bool.eq_false_iff.mpr off))

/-! ## Making and deriving -/

/-- A manager was added that has lists of its own. -/
structure Added (w : World) (m : Stored) (after : World) : Prop where
  whole : after = { w with
    lists := after.lists
    managers := w.managers.push m
    logging := after.logging
    readings := after.readings }
  spares : Spares [] w.lists after.lists
  owns : m.Owns after.lists

/-- How an operation ends that is to add a manager: a refusal changes nothing, a parser that is not
the usual one may fail, and the value of a manager that is added is the one that was to be made. -/
inductive Makes (parser : Parser) (value : Except AclFault Manager) (w : World) :
    Except Fault ManagerId × World → Prop
  | refused {cause} (refused : value = .error cause) : Makes parser value w (.error (.acl cause), w)
  | failed {fault after} (custom : parser ≠ .standard) (sparing : (World.sparing []).rel w after) :
      Makes parser value w (.error fault, after)
  | made {m after} (same : m.parser = parser) (made : value = .ok (m.manager after.lists))
      (added : Added w m after) : Makes parser value w (.ok w.managers.size, after)

/-- With the usual parser either nothing happens or the manager is added. -/
theorem Makes.of_standard {value : Except AclFault Manager}
    {result : Except Fault ManagerId × World} (makes : Makes .standard value w result) :
    (∃ cause, value = .error cause ∧ result = (.error (.acl cause), w)) ∨
      ∃ m after, value = .ok (m.manager after.lists) ∧ result = (.ok w.managers.size, after) ∧
        m.parser = .standard ∧ Added w m after := by
  cases makes with
  | refused refused => exact .inl ⟨_, refused, rfl⟩
  | failed custom => exact absurd rfl custom
  | made same made added => exact .inr ⟨_, _, made, rfl, same, added⟩

theorem Added.managers_eq {after : World} (added : Added w m after) :
    after.managers = w.managers.push m := by
  rw [added.whole]

theorem Added.found {after : World} (added : Added w m after) :
    after.managers[w.managers.size]? = some m := by
  rw [added.managers_eq]
  exact Array.getElem?_push_size

/-- Options are read for a manager with new lists, and it is added. -/
theorem makes_of_paired {v : World} (w : World) {value : Except AclFault Manager}
    (b : Manager) (parser : Parser) {x y : Ref} {g : Grants} {options : Option Options}
    (sparing : (World.sparing []).rel v w) (paired : Paired v.lists g x y w.lists)
    (whole : value = .ok { b with
      grants := if b.enabled then options.elim g fun c =>
          g.merge ((parser.reader w).read scope c) else g })
    (level : Logging.Level) (message : String) :
    Makes parser value v ((do
      readOptions (b.stored parser x y) scope options level message
      add (b.stored parser x y) : Act ManagerId) w) := by
  have older : ∀ z ∈ [x, y], ¬ v.lists.Private z := by
    intro z there own
    rcases List.mem_cons.mp there with rfl | there
    · exact Nat.lt_irrefl _ (Nat.lt_of_lt_of_le own.there paired.new.1)
    · obtain rfl := List.mem_singleton.mp there
      exact Nat.lt_irrefl _ (Nat.lt_of_lt_of_le own.there paired.new.2)
  have spares : (World.sparing [x, y]).rel w
      (readOptions (b.stored parser x y) scope options level message w).2 :=
        readOptions_sparing _ _ _ _ _ w
  have owns : (b.stored parser x y).Owns w.lists := ⟨paired.users, paired.groups, paired.apart⟩
  have run := readOptions_yields owns scope options level message w rfl
  rw [Act.run_bind]
  rcases here : readOptions (b.stored parser x y) scope options level message w
    with ⟨outcome, after⟩
  rw [here] at run spares
  have frame : (World.sparing [x, y]).rel v after :=
    (World.sparing _).trans (World.sparing_mono (List.nil_subset _) sparing) spares
  have spared : Spares [] v.lists after.lists := frame.2.of_others older
  cases outcome with
  | error fault => exact .failed run ⟨frame.1, spared⟩
  | ok _ =>
    obtain ⟨own, grown⟩ := run
    have number : after.managers.size = v.managers.size := by rw [frame.1]
    have added : add (b.stored parser x y) after = (.ok after.managers.size,
      { after with managers := after.managers.push (b.stored parser x y) }) := rfl
    dsimp only
    rw [added, number]
    refine .made rfl ?_ ⟨?_, spared, own⟩
    · rw [grown_stored, paired.value] at grown
      exact whole.trans (congrArg _ grown.symm)
    · dsimp only
      rw [frame.1]

/-- **A manager that is made is the one that would be made as a value**, of what its parser answers
after the manager has got two lists. -/
theorem create_makes (parser : Parser) (provider : Option Groups.ProviderId) (amUser : String)
    (conf : Option Options) (w : World) :
    Makes parser
      (make (parser.reader { w with lists := w.lists.new.2.new.2 }) provider amUser conf) w
      (create parser provider amUser conf w) := by
  unfold create
  rw [Act.run_bind, Act.run_of, make_eq_map]
  cases make (.finding {}) provider amUser conf with
  | error cause => exact .refused rfl
  | ok b =>
    have paired := pair_gained (AllowList.Store.new_gains w.lists) (AllowList.Store.new_gains _)
    simp only [Except.mapError, Act.run_bind, Act.run_onLists]
    split
    · next off =>
      -- no parser is asked, so it does not matter that something was logged before
      have disabled : b.enabled = false := by simpa [stored] using off
      refine makes_of_paired _ b parser ⟨rfl, paired.spares⟩ paired (congrArg Except.ok ?_) _ _
      simp only [disabled, Bool.false_eq_true, if_false]
    · exact makes_of_paired _ b parser ⟨rfl, paired.spares⟩ paired rfl _ _

/-- The lists after those of a manager were copied. -/
def Stored.copied (p : Stored) (s : Store) : Store :=
  ((s.copy p.users).2.copy p.groups).2

/-- **A manager that is derived is the one that would be derived as a value**, of what its parser
answers after the manager has got copies of the lists of its parent. -/
theorem derive_makes {id : ManagerId} {p : Stored} (found : w.managers[id]? = some p)
    (owns : p.Owns w.lists) (dagUser : String) (conf : Option Options) :
    Makes p.parser
      ((p.manager w.lists).forDag (p.parser.reader { w with lists := p.copied w.lists }) dagUser
        conf) w
      (derive id dagUser conf w) := by
  unfold derive find
  simp only [Act.run_bind, Act.run_get, found, Act.run_pure, Act.run_of]
  rw [forDag_eq_map]
  cases bare : (p.manager w.lists).forDag (.finding {}) dagUser none with
  | error cause => exact .refused rfl
  | ok b =>
    have enabled : (p.manager w.lists).enabled = b.enabled := by rw [(forDag_eq_ok bare).2]
    have first := AllowList.Store.copy_gains w.lists p.users
    have paired := pair_gained first (AllowList.Store.copy_gains _ p.groups)
    rw [first.others p.groups
      (Nat.ne_of_lt (Nat.lt_of_lt_of_le owns.groups.there first.new))] at paired
    simp only [Except.mapError, Act.run_onLists]
    rw [← Act.run_bind, enabled]
    exact makes_of_paired { w with lists := p.copied w.lists } b p.parser ⟨rfl, paired.spares⟩
      paired rfl _ _

/-! ## With the usual parser -/

theorem create_standard (provider : Option Groups.ProviderId) (amUser : String)
    (conf : Option Options) (w : World) :
    (∃ cause, make .standard provider amUser conf = .error cause ∧
      create .standard provider amUser conf w = (.error (.acl cause), w)) ∨
    ∃ m after, make .standard provider amUser conf = .ok (m.manager after.lists) ∧
      create .standard provider amUser conf w = (.ok w.managers.size, after) ∧
      m.parser = .standard ∧ Added w m after := by
  have makes := create_makes .standard provider amUser conf w
  rw [Parser.reader_standard] at makes
  exact makes.of_standard

theorem derive_standard {id : ManagerId} {p : Stored} (found : w.managers[id]? = some p)
    (standard : p.parser = .standard) (owns : p.Owns w.lists) (dagUser : String)
    (conf : Option Options) :
    (∃ cause, (p.manager w.lists).forDag .standard dagUser conf = .error cause ∧
      derive id dagUser conf w = (.error (.acl cause), w)) ∨
    ∃ m after, (p.manager w.lists).forDag .standard dagUser conf = .ok (m.manager after.lists) ∧
      derive id dagUser conf w = (.ok w.managers.size, after) ∧
      m.parser = .standard ∧ Added w m after := by
  have makes := derive_makes found owns dagUser conf
  rw [standard, Parser.reader_standard] at makes
  exact makes.of_standard

end Manager

end DagAccess
