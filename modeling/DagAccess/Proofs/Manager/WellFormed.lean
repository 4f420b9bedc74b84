import DagAccess.Proofs.Manager.Derivation

/-!
# Well-formed managers

What is read from options, whatever their texts, makes only entries with names in them, and the
names are such as can be written (`readGrants_wellFormed`). Merging keeps that, so it holds of every
manager that is made from options and of all that are derived from it (`make_wellFormed`,
`forDag_wellFormed`). As no name is empty, the empty user name is granted nothing that is not
granted to everyone (`forDags_grants_wellFormed`).
-/

namespace DagAccess

open Acl

/-- All entries are about actions of some kind, and hold names that can be written. -/
structure Grants.WellFormed (about : AclType → Prop) (g : Grants) : Prop where
  users : g.users.All fun t s => about t ∧ s.Filled IsUserName
  groups : g.groups.All fun t s => about t ∧ s.Filled IsGroupName

namespace Grants.WellFormed

variable {about : AclType → Prop} {g h : Grants}

theorem empty : Grants.WellFormed about {} :=
  ⟨.empty, .empty⟩

theorem mono {about' : AclType → Prop} (wf : g.WellFormed about)
    (weaker : ∀ t, about t → about' t) : g.WellFormed about' :=
  ⟨wf.users.mono fun t _ => And.imp_left (weaker t),
    wf.groups.mono fun t _ => And.imp_left (weaker t)⟩

theorem merge (first : g.WellFormed about) (second : h.WellFormed about) :
    (g.merge h).WellFormed about := by
  have unites : ∀ (kind : String → Prop) t (s s' : PrincipalSet),
      s = ∅ ∨ (about t ∧ s.Filled kind) → about t ∧ s'.Filled kind →
        about t ∧ (s.union s').Filled kind :=
    fun _ _ _ _ old new => ⟨new.1, .union (old.imp_right And.right) new.2⟩
  exact ⟨first.users.merge (unites IsUserName) second.users,
    first.groups.merge (unites IsGroupName) second.groups⟩

/-- Lists without names make no entries. -/
theorem enter (wf : g.WellFormed about) {l : Listing} (written : l.WellFormed) {t : AclType}
    (fits : about t) : (l.enter t g).WellFormed about := by
  unfold Listing.enter
  constructor
  · by_cases nobody : l.users.isEmpty = true
    · simp only [if_pos nobody]
      exact wf.users
    · simp only [if_neg nobody]
      exact wf.users.put ⟨fits, PrincipalSet.filled_of_isEmpty nobody written.users⟩
  · by_cases nobody : l.groups.isEmpty = true
    · simp only [if_pos nobody]
      exact wf.groups
    · simp only [if_neg nobody]
      exact wf.groups.put ⟨fits, PrincipalSet.filled_of_isEmpty nobody written.groups⟩

theorem enterOptions (conf : Options) (wf : g.WellFormed about) {ts : List AclType}
    (fit : ∀ t ∈ ts, about t) : (ts.foldl (enterOption conf) g).WellFormed about := by
  induction ts generalizing g with
  | nil => exact wf
  | cons t rest ih =>
    have first : (enterOption conf g t).WellFormed about := by
      unfold enterOption
      cases conf.lookup t.option with
      | none => exact wf
      | some text => exact wf.enter (Listing.read_wellFormed text.toList) (fit t List.mem_cons_self)
    exact ih first fun u later => fit u (List.mem_cons_of_mem t later)

/-- An action with names has them in an entry. -/
theorem mem_users (wf : g.WellFormed about) {t : AclType} {name : String}
    (listed : name ∈ g.users.principals t) : IsUserName name :=
  (wf.users.of_mem_principals listed).2.named name listed

end Grants.WellFormed

/-- Options make entries for the actions of their scope, with names that can be written. -/
theorem Acl.readGrants_wellFormed (scope : Scope) (conf : Options) :
    (readGrants scope conf).WellFormed (·.scope = scope) := by
  rw [readGrants_eq_foldl]
  refine .enterOptions conf .empty fun t named => ?_
  cases scope <;> cases t <;> revert named <;> decide

namespace Manager

variable {m m' : Manager}

/-- The lists of a manager can be written, there are none if checks are off, and owners have
names. -/
structure WellFormed (m : Manager) : Prop where
  grants : m.grants.WellFormed fun _ => True
  off : m.enabled = false → m.grants = {}
  amUser : m.amUser ≠ ""
  dagUser : m.dagUser ≠ some ""

/-- A manager of an AM has entries for actions on the AM. -/
theorem make_grants_wellFormed {provider : Option Groups.ProviderId} {amUser : String}
    {conf : Option Options} (made : make .standard provider amUser conf = .ok m) :
    m.grants.WellFormed (·.scope = .am) := by
  obtain ⟨p, enabled, -, -, -, rfl⟩ := make_eq_ok made
  cases enabled with
  | false => exact .empty
  | true =>
    cases conf with
    | none => exact .empty
    | some c => exact .merge .empty (readGrants_wellFormed .am c)

theorem make_wellFormed {provider : Option Groups.ProviderId} {amUser : String}
    {conf : Option Options} (made : make .standard provider amUser conf = .ok m) :
    m.WellFormed := by
  refine ⟨(make_grants_wellFormed made).mono fun _ _ => trivial, ?_, ?_, ?_⟩
  · intro off
    obtain ⟨p, enabled, -, -, -, rfl⟩ := make_eq_ok made
    obtain rfl : enabled = false := off
    rfl
  · rw [(make_amUser made).1]
    exact (make_amUser made).2
  · rw [make_dagUser made]
    exact nofun

/-- Deriving a manager keeps the one that it is derived from well formed. -/
theorem forDag_wellFormed (wf : m.WellFormed) {dagUser : String} {conf : Option Options}
    (derived : m.forDag .standard dagUser conf = .ok m') : m'.WellFormed := by
  obtain ⟨named, rfl⟩ := forDag_eq_ok derived
  refine ⟨?_, ?_, wf.amUser, ?_⟩
  · cases m.enabled with
    | false => exact wf.grants
    | true =>
      cases conf with
      | none => exact wf.grants
      | some c => exact wf.grants.merge ((readGrants_wellFormed .dag c).mono fun _ _ => trivial)
  · intro off
    have nothing := wf.off off
    simp only at off
    simp only [off, Bool.false_eq_true, if_false, nothing]
  · exact fun unnamed => named (Option.some.inj unnamed)

theorem forDags_keeps_wellFormed {chain : List (String × Option Options)} (wf : m.WellFormed)
    (derived : m.forDags .standard chain = .ok m') : m'.WellFormed := by
  induction chain generalizing m with
  | nil =>
    cases derived
    exact wf
  | cons d rest ih =>
    obtain ⟨next, first, later⟩ := forDags_cons_eq_ok derived
    exact ih (forDag_wellFormed wf first) later

/-- **Allow-lists of reachable managers are well formed.** -/
theorem forDags_grants_wellFormed {provider : Option Groups.ProviderId} {amUser : String}
    {conf : Option Options} {root : Manager} (made : make .standard provider amUser conf = .ok root)
    {chain : List (String × Option Options)} (derived : root.forDags .standard chain = .ok m) :
    -- every set that is there has names, none twice, and they can be written
    (∀ e ∈ m.grants.users.entries,
      e.2.toList ≠ [] ∧ e.2.toList.Nodup ∧ ∀ name ∈ e.2, IsUserName name) ∧
    (∀ e ∈ m.grants.groups.entries,
      e.2.toList ≠ [] ∧ e.2.toList.Nodup ∧ ∀ name ∈ e.2, IsGroupName name) ∧
    -- the manager of the AM has entries about the AM, and a manager that is off has none at all
    (∀ e ∈ root.grants.users.entries ++ root.grants.groups.entries, e.1.isDag = false) ∧
    (m.enabled = false → m.grants.users.entries = [] ∧ m.grants.groups.entries = []) ∧
    -- the empty user name is granted what everyone is granted
    (m.amUser ≠ "" ∧ m.dagUser ≠ some "" ∧ ∀ t, "" ∉ m.grants.users.principals t) ∧
    ∀ t, m.GrantsOutright "" t ↔ m.enabled = false ∨ wildcard ∈ m.grants.users.principals t := by
  have wf := forDags_keeps_wellFormed (make_wellFormed made) derived
  have unlisted : ∀ t, "" ∉ m.grants.users.principals t :=
    fun t listed => (wf.grants.mem_users listed).nonempty rfl
  refine ⟨?_, ?_, ?_, ?_, ⟨wf.amUser, wf.dagUser, unlisted⟩, ?_⟩
  · intro e there
    obtain ⟨-, filled⟩ := wf.grants.users e there
    exact ⟨filled.nonempty, filled.distinct, filled.named⟩
  · intro e there
    obtain ⟨-, filled⟩ := wf.grants.groups e there
    exact ⟨filled.nonempty, filled.distinct, filled.named⟩
  · have am := make_grants_wellFormed made
    have notDag : ∀ t : AclType, t.scope = .am → t.isDag = false := by
      intro t
      cases t <;> decide
    intro e there
    rcases List.mem_append.mp there with user | group
    · exact notDag e.1 (am.users e user).1
    · exact notDag e.1 (am.groups e group).1
  · intro off
    rw [wf.off off]
    exact ⟨rfl, rfl⟩
  · intro t
    have notAm : "" ≠ m.amUser := wf.amUser.symm
    simp only [GrantsOutright, notAm, wf.dagUser, unlisted t, and_false, false_or, or_false]

/-- Options of an AM with empty items, a repetition and blanks around items. -/
def untidyAm : Options :=
  [("view_acls", ",alice,,bob,alice , etl team ,")]

/-- Options of a DAG with wide blanks, and with an option that is not one of a DAG. -/
def untidyDag : Options :=
  [("dag_view_acls", "\u2003 ,ops,\u00a0ops"), ("view_acls", "*")]

/-- Only names that can be written are left, each once. -/
theorem forDags_grants_wellFormed_untidy :
    ∃ root m, make .standard (some 0) "hive" (some untidyAm) = .ok root ∧
      root.forDags .standard [("carol", some untidyDag)] = .ok m ∧
      m.grants.users.entries.map (fun e => (e.1, e.2.toList)) = [(.amView, ["alice", "bob"])] ∧
      m.grants.groups.entries.map (fun e => (e.1, e.2.toList)) =
        [(.amView, ["etl team"]), (.dagView, ["ops"])] ∧
      ¬ m.GrantsOutright "" .dagView := by
  let root : Manager := {
    provider := 0
    amUser := "hive"
    grants := Grants.merge {} (readGrants .am untidyAm) }
  have made : make .standard (some 0) "hive" (some untidyAm) = .ok root := rfl
  have derived : root.forDags .standard [("carol", some untidyDag)] =
      .ok { root with
        dagUser := some "carol"
        grants := root.grants.merge (readGrants .dag untidyDag) } := rfl
  obtain ⟨-, -, -, -, -, empty⟩ := forDags_grants_wellFormed made derived
  refine ⟨root, _, made, derived, ?_, ?_, ?_⟩
  · decide +kernel
  · decide +kernel
  · rw [empty]
    decide +kernel

end Manager

end DagAccess
