import DagAccess.Proofs.AllowList.Pool
import DagAccess.Proofs.Manager.Derivation

/-!
# Managers of two DAGs in either order

Managers that grant the same outright and allow the same groups, in whatever order these are listed,
check access alike (`check_eq_of_alike`). Two DAGs whose managers are derived one from the other
make such managers in either order, as far as other users than theirs go, because merging commutes
up to order (`forDags_swap`). `merges_unite` puts the laws of merging and this consequence together.
-/

namespace DagAccess.Manager

variable {m m' : Manager} {user : String} {t : AclType}

/-! ## Managers that decide alike -/

/-- Decisions depend on which groups are allowed, not on their order. -/
theorem settle_congr {allowed allowed' : PrincipalSet}
    (same : ∀ group, group ∈ allowed ↔ group ∈ allowed') (outcome : Except Fault PrincipalSet) :
    settle allowed outcome = settle allowed' outcome := by
  cases outcome with
  | error fault => rfl
  | ok groups => simp only [settle, meets, same]

/-- The same is granted outright, and members of the same groups are granted the action
otherwise. -/
structure Alike (m m' : Manager) (user : String) (t : AclType) : Prop where
  provider : m.provider = m'.provider
  outright : m.GrantsOutright user t ↔ m'.GrantsOutright user t
  groups : ∀ group, group ∈ m.grants.groups.principals t ↔ group ∈ m'.grants.groups.principals t

/-- Such managers check in the same way, with the same effects in every world. -/
theorem check_eq_of_alike (alike : Alike m m' user t) : m.check user t = m'.check user t := by
  have needs : m.NeedsGroups user t ↔ m'.NeedsGroups user t := by
    simp only [NeedsGroups, alike.outright, alike.groups]
  rcases rule_cases m user t with ⟨outright, ruling⟩ | ⟨needed, ruling⟩ | ⟨silent, needless, ruling⟩
  · have ruling' := rule_eq_granted (alike.outright.mp outright)
    rw [check, check, ruling, ruling']
  · have ruling' := rule_eq_members (needs.mp needed)
    rw [check, check, ruling, ruling']
    simp only [alike.provider, settle_congr alike.groups]
  · have ruling' := rule_eq_denied (mt alike.outright.mpr silent) (mt needs.mpr needless)
    rw [check, check, ruling, ruling']

/-! ## Two DAGs -/

/-- What is granted after the options of a DAG were added, if there are any. -/
def extended (m : Manager) (reader : Reader) (g : Grants) (conf : Option Options) : Grants :=
  if m.enabled then conf.elim g fun c => g.merge (reader.read .dag c) else g

theorem forDags_pair {reader : Reader} {d₁ d₂ : String} {c₁ c₂ : Option Options}
    (derived : m.forDags reader [(d₁, c₁), (d₂, c₂)] = .ok m') :
    m' = { m with
      dagUser := some d₂
      grants := m.extended reader (m.extended reader m.grants c₁) c₂ } := by
  obtain ⟨next, first, later⟩ := forDags_cons_eq_ok derived
  obtain ⟨last, second, done⟩ := forDags_cons_eq_ok later
  obtain ⟨-, rfl⟩ := forDag_eq_ok first
  obtain ⟨-, rfl⟩ := forDag_eq_ok second
  cases done
  rfl

/-- Both sides of what is granted hold the same names, perhaps in another order. -/
structure SameGrants (g h : Grants) : Prop where
  users : g.users.SameNames h.users
  groups : g.groups.SameNames h.groups

theorem sameGrants_refl (g : Grants) : SameGrants g g :=
  ⟨.refl _, .refl _⟩

/-- The options of two DAGs may be added in either order. -/
theorem sameGrants_extended (m : Manager) (reader : Reader) (g : Grants) (c₁ c₂ : Option Options) :
    SameGrants (m.extended reader (m.extended reader g c₁) c₂)
      (m.extended reader (m.extended reader g c₂) c₁) := by
  unfold extended
  cases m.enabled with
  | false => exact sameGrants_refl g
  | true =>
    cases c₁ with
    | none => exact sameGrants_refl _
    | some c₁ =>
      cases c₂ with
      | none => exact sameGrants_refl _
      | some c₂ =>
        exact ⟨AllowList.sameNames_merge_merge _ _ _, AllowList.sameNames_merge_merge _ _ _⟩

/-- Managers of two DAGs, one derived from the other, decide alike in either order about everybody
but the users of the two DAGs. -/
theorem alike_of_swapped {reader : Reader} {d₁ d₂ : String} {c₁ c₂ : Option Options}
    {m₁₂ m₂₁ : Manager} (forth : m.forDags reader [(d₁, c₁), (d₂, c₂)] = .ok m₁₂)
    (back : m.forDags reader [(d₂, c₂), (d₁, c₁)] = .ok m₂₁)
    (first : user ≠ d₁) (second : user ≠ d₂) (t : AclType) : Alike m₁₂ m₂₁ user t := by
  obtain rfl := forDags_pair forth
  obtain rfl := forDags_pair back
  have same := sameGrants_extended m reader m.grants c₁ c₂
  have stranger : ∀ d, user ≠ d → ¬ some d = some user :=
    fun d other h => other (Option.some.inj h).symm
  refine ⟨rfl, ?_, fun group => same.groups.mem_iff⟩
  simp only [GrantsOutright, stranger d₁ first, stranger d₂ second, same.users.mem_iff]

/-- In either order there are managers for two DAGs whose users have names, and they check access
alike for everybody else. -/
theorem forDags_swap (m : Manager) (reader : Reader) {d₁ d₂ : String} (named₁ : d₁ ≠ "")
    (named₂ : d₂ ≠ "") (c₁ c₂ : Option Options) :
    ∃ m₁₂ m₂₁, m.forDags reader [(d₁, c₁), (d₂, c₂)] = .ok m₁₂ ∧
      m.forDags reader [(d₂, c₂), (d₁, c₁)] = .ok m₂₁ ∧
      ∀ user t, user ≠ d₁ → user ≠ d₂ → m₁₂.check user t = m₂₁.check user t := by
  obtain ⟨m₁₂, forth⟩ : ∃ m₁₂, m.forDags reader [(d₁, c₁), (d₂, c₂)] = .ok m₁₂ :=
    exists_forDags m reader (by simp [named₁, named₂])
  obtain ⟨m₂₁, back⟩ : ∃ m₂₁, m.forDags reader [(d₂, c₂), (d₁, c₁)] = .ok m₂₁ :=
    exists_forDags m reader (by simp [named₁, named₂])
  exact ⟨m₁₂, m₂₁, forth, back, fun user t first second =>
    check_eq_of_alike (alike_of_swapped forth back first second t)⟩

/-- **Merging unites, and its order matters for the order of names only.** -/
theorem merges_unite :
    -- one merge: the union for each action, what is there first, then what is new in its order
    (∀ a b c : AllowList, c = a.merge b ↔ a.Merged b c) ∧
    (∀ (a b : AllowList) t name,
      name ∈ (a.merge b).principals t ↔ name ∈ a.principals t ∨ name ∈ b.principals t) ∧
    -- in place, on lists that steps made: no other list changes, nor does the one that is merged
    (∀ steps id source other,
      let p := AllowList.Pool.after {} steps
      (p.step (.merge id source)).find id = (p.find id).merge (p.find source) ∧
      (other ≠ id → (p.step (.merge id source)).find other = p.find other)) ∧
    -- several merges
    (∀ a b : AllowList, (a.merge b).merge b = a.merge b) ∧
    (∀ a : AllowList, a.merge a = a) ∧
    (∀ a b c : AllowList, (a.merge b).merge c = a.merge (b.merge c)) ∧
    (∀ a b : AllowList, (a.merge b).SameNames (b.merge a)) ∧
    -- the managers of two DAGs
    (∀ (m : Manager) (reader : Reader) d₁ d₂ c₁ c₂, d₁ ≠ "" → d₂ ≠ "" →
      ∃ m₁₂ m₂₁, m.forDags reader [(d₁, c₁), (d₂, c₂)] = .ok m₁₂ ∧
        m.forDags reader [(d₂, c₂), (d₁, c₁)] = .ok m₂₁ ∧
        ∀ user t, user ≠ d₁ → user ≠ d₂ → m₁₂.check user t = m₂₁.check user t) := by
  refine ⟨fun _ _ _ => AllowList.merge_iff_merged,
    fun _ _ _ _ => AllowList.mem_principals_merge, ?_,
    AllowList.merge_merge_self, AllowList.merge_self, AllowList.merge_assoc,
    AllowList.sameNames_merge, ?_⟩
  · intro steps id source other
    exact AllowList.Pool.find_merge (AllowList.Pool.after_owned steps) id source other
  · exact fun m reader d₁ d₂ c₁ c₂ named₁ named₂ => forDags_swap m reader named₁ named₂ c₁ c₂

/-- A manager of a DAG that lists some names already, and the options of two more DAGs, which share
one. -/
def parentManager : Manager where
  provider := 0
  amUser := "am"
  dagUser := some "hive"
  grants := Acl.readGrants .dag [("dag_view_acls", "carol ops")]

/-- The groups come out in two orders, and strangers are checked alike. -/
theorem merges_unite_siblings :
    ∃ m₁₂ m₂₁,
      parentManager.forDags .standard [("alice", some [("dag_view_acls", "dave eng")]),
        ("bob", some [("dag_view_acls", "carol,erin qa,ops,eng")])] = .ok m₁₂ ∧
      parentManager.forDags .standard [("bob", some [("dag_view_acls", "carol,erin qa,ops,eng")]),
        ("alice", some [("dag_view_acls", "dave eng")])] = .ok m₂₁ ∧
      (m₁₂.grants.groups.principals .dagView).toList = ["ops", "eng", "qa"] ∧
      (m₂₁.grants.groups.principals .dagView).toList = ["ops", "qa", "eng"] ∧
      m₁₂.check "frank" .dagView = m₂₁.check "frank" .dagView := by
  obtain ⟨-, -, -, -, -, -, -, swap⟩ := merges_unite
  obtain ⟨m₁₂, m₂₁, forth, back, alike⟩ := swap parentManager .standard "alice" "bob"
    (some [("dag_view_acls", "dave eng")]) (some [("dag_view_acls", "carol,erin qa,ops,eng")])
    (by decide) (by decide)
  refine ⟨m₁₂, m₂₁, forth, back, ?_, ?_, alike "frank" .dagView (by decide) (by decide)⟩
  · rw [forDags_pair forth]
    decide
  · rw [forDags_pair back]
    decide

end DagAccess.Manager
