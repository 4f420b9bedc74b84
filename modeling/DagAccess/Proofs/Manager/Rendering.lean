import DagAccess.Proofs.Manager.Derivation

/-!
# What rendered lists mean

A manager renders who has the rights over the AM. Unless everyone has a right, its text lists the
owner, the users and the groups (`render_eq_written`), and reading it gives them back
(`read_render`). So a manager that is made from the rendered lists rules as the one that rendered
them (`rule_of_rendered`), and decides as that one does (`render_decides`).
-/

namespace DagAccess.Manager

open Acl

variable {m : Manager} {r : Right}

/-! ## Rendered lists -/

/-- Everyone has a right if checks are off, or if the wildcard is listed. -/
def GrantsEveryone (m : Manager) (r : Right) : Prop :=
  m.enabled = false ∨ wildcard ∈ m.grants.users.principals (.ofAm r)

theorem render_everyone (h : m.GrantsEveryone r) : m.render r = wildcard := by
  rcases h with off | listed
  · simp [render, off]
  · simp [render, listed]

/-- The text of a right that is not everyone's lists the owner and the users, then the groups. -/
theorem render_eq_written (h : ¬ m.GrantsEveryone r) {l : Listing}
    (granted : m.grants.listing (.ofAm r) = l) (wellFormed : l.WellFormed) :
    m.render r = commaSeparated (m.amUser :: l.users.toList) ++
      if l.groups.toList = [] then "" else " " ++ commaSeparated l.groups.toList := by
  obtain ⟨on, notListed⟩ := not_or.mp h
  rw [Bool.not_eq_false] at on
  have users : m.grants.users.principals (.ofAm r) = l.users := congrArg Listing.users granted
  have groups : m.grants.groups.principals (.ofAm r) = l.groups := congrArg Listing.groups granted
  rw [users] at notListed
  have owned :=
    append_commaSeparated m.amUser fun name listed => (wellFormed.users name listed).nonempty
  simp only [render, users, groups, on, Bool.not_true, Bool.false_eq_true, if_false,
    notListed, owned, PrincipalSet.isEmpty, List.isEmpty_iff]

/-- Reading a rendered text gives the owner and all that are granted the right, or the wildcard. -/
theorem read_render (owner : IsUserName m.amUser) {l : Listing}
    (granted : m.grants.listing (.ofAm r) = l) (wellFormed : l.WellFormed) :
    (m.GrantsEveryone r ∧ Listing.read (m.render r).toList = ⟨.ofList [wildcard], ∅⟩) ∨
    (¬ m.GrantsEveryone r ∧
      Listing.read (m.render r).toList = ⟨.ofList (m.amUser :: l.users.toList), l.groups⟩) := by
  by_cases everyone : m.GrantsEveryone r
  · left
    rw [render_everyone everyone]
    exact ⟨everyone, Listing.read_wildcard (by decide)⟩
  · right
    refine ⟨everyone, ?_⟩
    have users : ∀ name ∈ m.amUser :: l.users.toList, IsUserName name := by
      intro name listed
      rcases List.mem_cons.mp listed with rfl | later
      · exact owner
      · exact wellFormed.users name later
    have blank : ∀ c ∈ " ".toList, Text.isBlank c = true := by
      intro c hc
      obtain rfl := List.mem_singleton.mp hc
      rfl
    rw [render_eq_written everyone granted wellFormed,
      Listing.read_written (List.cons_ne_nil _ _) users wellFormed.groups (by decide) blank,
      PrincipalSet.ofList_toList]

/-! ## Managers made from rendered lists -/

/-- The rendered lists as options of an AM. -/
def renderedOptions (m : Manager) : Options :=
  [("view_acls", m.render .view), ("modify_acls", m.render .modify)]

theorem listed_renderedOptions (m : Manager) (r : Right) :
    listed m.renderedOptions (.ofAm r) = Listing.read (m.render r).toList := by
  cases r <;> rfl

/-- The rendered lists make a manager with checks on, which grants what they list. -/
theorem exists_make_rendered (m : Manager) (provider : Groups.ProviderId) {amUser : String}
    (named : amUser ≠ "") :
    ∃ again, make .standard (some provider) amUser (some m.renderedOptions) = .ok again ∧
      again.provider = provider ∧ again.amUser = amUser ∧ again.enabled = true ∧
      ∀ r, again.grants.listing (.ofAm r) = Listing.read (m.render r).toList := by
  have made : make .standard (some provider) amUser (some m.renderedOptions) =
      .ok { provider, amUser, grants := Grants.merge {} (readGrants .am m.renderedOptions) } := by
    unfold make
    simp only [if_neg named]
    rfl
  refine ⟨_, made, rfl, rfl, rfl, fun r => ?_⟩
  have am : (AclType.ofAm r).scope = .am := by cases r <;> rfl
  rw [make_listing made, if_pos ⟨rfl, am⟩, Option.elim_some, listed_renderedOptions]

/-- A manager with the same owner that grants what was rendered rules as the one that rendered
it. -/
theorem rule_of_rendered {again : Manager} (owner : IsUserName m.amUser)
    (special : m.amUser ≠ wildcard) (wellFormed : (m.grants.listing (.ofAm r)).WellFormed)
    (amUser : again.amUser = m.amUser) (enabled : again.enabled = true)
    (grants : again.grants.listing (.ofAm r) = Listing.read (m.render r).toList) (user : String) :
    again.rule user (.ofAm r) = m.rule user (.ofAm r) := by
  have notDag : (AclType.ofAm r).isDag = false := by cases r <;> rfl
  rcases read_render owner rfl wellFormed with ⟨everyone, text⟩ | ⟨others, text⟩
  · have listed : again.grants.users.principals (.ofAm r) = .ofList [wildcard] :=
      congrArg Listing.users (grants.trans text)
    have outright : m.GrantsOutright user (.ofAm r) := by
      rcases everyone with off | wild
      · exact .inl off
      · exact .inr (.inr (.inr (.inl wild)))
    have outrightAgain : again.GrantsOutright user (.ofAm r) :=
      .inr (.inr (.inr (.inl (by simp [listed]))))
    rw [rule_eq_granted outright, rule_eq_granted outrightAgain]
  · have listed : again.grants.users.principals (.ofAm r) =
        .ofList (m.amUser :: (m.grants.users.principals (.ofAm r)).toList) :=
      congrArg Listing.users (grants.trans text)
    obtain ⟨on, notListed⟩ := not_or.mp others
    rw [Bool.not_eq_false] at on
    apply rule_eq_of_grantsOutright
    · simp [GrantsOutright, listed, amUser, enabled, notDag, on, notListed, Ne.symm special]
    · exact fun _ => congrArg Listing.groups (grants.trans text)

/-- What a manager of an AM grants for the AM, and what managers derived from it do, can be
written. -/
theorem forDags_wellFormed {provider : Option Groups.ProviderId} {amUser : String}
    {conf : Option Options} {root : Manager} (made : make .standard provider amUser conf = .ok root)
    {chain : List (String × Option Options)} (derived : root.forDags .standard chain = .ok m)
    (r : Right) : (m.grants.listing (.ofAm r)).WellFormed := by
  have step := forDags_derives derived
  rw [step.listing_ofAm, make_listing made]
  split
  · cases conf with
    | none => exact Listing.empty_wellFormed
    | some c => exact listed_wellFormed c (.ofAm r)
  · exact Listing.empty_wellFormed

/-- **Rendered lists mean what the manager decides.** A manager made from the lists that were
rendered has the same provider and owner, and decides on the AM as the one that rendered them. -/
theorem render_decides {provider : Option Groups.ProviderId} {amUser : String}
    {conf : Option Options} {root : Manager} (made : make .standard provider amUser conf = .ok root)
    {chain : List (String × Option Options)} (derived : root.forDags .standard chain = .ok m)
    (noBlank : ∀ c ∈ m.amUser.toList, Text.isBlank c = false) (noComma : ',' ∉ m.amUser.toList)
    (special : m.amUser ≠ wildcard) :
    ∃ again, make .standard (some m.provider) m.amUser
        (some [("view_acls", m.render .view), ("modify_acls", m.render .modify)]) = .ok again ∧
      again.provider = m.provider ∧
      ∀ user r w w', (Groups.lookup m.provider user w').1 = (Groups.lookup m.provider user w).1 →
        (again.check user (.ofAm r) w').1 = (m.check user (.ofAm r) w).1 := by
  have step := forDags_derives derived
  obtain ⟨owned, named⟩ := make_amUser made
  have nonempty : m.amUser ≠ "" := by
    rw [step.amUser, owned]
    exact named
  have owner : IsUserName m.amUser := ⟨nonempty, noComma, noBlank⟩
  obtain ⟨again, remade, sameProvider, sameOwner, on, grants⟩ :=
    exists_make_rendered m m.provider owner.nonempty
  refine ⟨again, remade, sameProvider, ?_⟩
  intro user r w w' outcome
  have ruling : again.rule user (.ofAm r) = m.rule user (.ofAm r) :=
    rule_of_rendered owner special (forDags_wellFormed made derived r) sameOwner on (grants r) user
  apply check_congr ruling
  rw [sameProvider]
  exact outcome

/-- Users, a group of two words and a group named like the wildcard are read back as they were
granted; options of a DAG do not show. -/
theorem render_decides_derived :
    ∃ root m again,
      make .standard (some 0) "hive" (some [("view_acls", "alice, bob etl team,*")]) = .ok root ∧
      root.forDags .standard [("carol", some [("view_acls", "*")])] = .ok m ∧
      make .standard (some 0) "hive" (some [("view_acls", "hive,alice bob etl team,*"),
        ("modify_acls", "hive")]) = .ok again ∧
      ∀ user r w, (again.check user (.ofAm r) w).1 = (m.check user (.ofAm r) w).1 := by
  let root : Manager := {
    provider := 0
    amUser := "hive"
    grants := Grants.merge {} (readGrants .am [("view_acls", "alice, bob etl team,*")]) }
  have made : make .standard (some 0) "hive" (some [("view_acls", "alice, bob etl team,*")]) =
      .ok root :=
    rfl
  have derived : root.forDags .standard [("carol", some [("view_acls", "*")])] =
      .ok { root with dagUser := some "carol", grants := root.grants.merge (readGrants .dag _) } :=
    rfl
  have clean : "hive".toList.all (!Text.isBlank ·) = true := by decide
  have noBlank : ∀ c ∈ "hive".toList, Text.isBlank c = false :=
    fun c hc => by simpa using List.all_eq_true.mp clean c hc
  obtain ⟨again, remade, -, same⟩ := render_decides made derived noBlank (by decide) (by decide)
  exact ⟨root, _, again, made, derived, remade, fun user r w => same user r w w rfl⟩

end DagAccess.Manager
