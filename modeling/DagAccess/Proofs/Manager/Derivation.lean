import DagAccess.Proofs.Acl.Options
import DagAccess.Proofs.Manager.Decision

/-!
# Chains of derived managers

`make_eq_ok` and `forDag_eq_ok` say what a manager that was made, or derived, consists of. `forDags`
derives managers one from another, and `Derives` says what becomes of the first one: each step
leaves everything about the AM alone, and adds to the listings of the DAG actions what the options
of that step list (`forDags_derives`). Hence `forDags_access`: options submitted with DAGs never
change who has access to the AM, and access to the DAG is exactly what all of them grant together.
-/

namespace DagAccess

open Acl

namespace Manager

variable {m m' : Manager}

/-! ## Making and deriving -/

/-- What a manager of an AM consists of. -/
theorem make_eq_ok {reader : Reader} {provider : Option Groups.ProviderId} {amUser : String}
    {conf : Option Options} (h : make reader provider amUser conf = .ok m) :
    ∃ p enabled, provider = some p ∧ amUser ≠ "" ∧
      (conf.elim (.ok true) readEnabled = Except.ok enabled) ∧
      m = { provider := p, amUser, enabled,
            grants :=
              if enabled then conf.elim {} fun c => Grants.merge {} (reader.read .am c)
                else {} } := by
  unfold make at h
  cases provider with
  | none => cases h
  | some p =>
    by_cases empty : amUser = ""
    · simp [empty] at h
    · simp only [if_neg empty] at h
      refine ⟨p, m.enabled, rfl, empty, ?_⟩
      cases conf with
      | none =>
        cases h
        exact ⟨rfl, rfl⟩
      | some c =>
        simp only at h
        cases switch : readEnabled c with
        | error raw => simp [switch] at h
        | ok enabled =>
          cases enabled <;>
          · simp only [switch] at h
            cases h
            exact ⟨switch, rfl⟩

/-- The reader matters only for what is granted. -/
theorem make_eq_map (reader : Reader) (provider : Option Groups.ProviderId) (amUser : String)
    (conf : Option Options) :
    make reader provider amUser conf = (make (.finding {}) provider amUser conf).map fun bare =>
      { bare with
        grants := if bare.enabled then conf.elim {} fun c => Grants.merge {} (reader.read .am c)
          else {} } := by
  unfold make
  cases provider with
  | none => rfl
  | some p =>
    by_cases empty : amUser = ""
    · simp only [if_pos empty]
      rfl
    · simp only [if_neg empty]
      cases conf with
      | none => rfl
      | some c =>
        dsimp only
        cases readEnabled c with
        | error raw => rfl
        | ok enabled => cases enabled <;> rfl

/-- The owner of the AM is the one that was named. -/
theorem make_amUser {reader : Reader} {provider : Option Groups.ProviderId} {amUser : String}
    {conf : Option Options} (h : make reader provider amUser conf = .ok m) :
    m.amUser = amUser ∧ amUser ≠ "" := by
  obtain ⟨p, enabled, -, named, -, rfl⟩ := make_eq_ok h
  exact ⟨rfl, named⟩

theorem make_dagUser {reader : Reader} {provider : Option Groups.ProviderId} {amUser : String}
    {conf : Option Options} (h : make reader provider amUser conf = .ok m) : m.dagUser = none := by
  obtain ⟨p, enabled, -, -, -, rfl⟩ := make_eq_ok h
  rfl

/-- The options of an AM grant what they list for the actions on the AM, and nothing for a DAG. -/
theorem make_listing {provider : Option Groups.ProviderId} {amUser : String} {conf : Option Options}
    (h : make .standard provider amUser conf = .ok m) (t : AclType) :
    m.grants.listing t =
      if m.enabled = true ∧ t.scope = .am then conf.elim ∅ (listed · t) else ∅ := by
  obtain ⟨p, enabled, -, -, -, rfl⟩ := make_eq_ok h
  cases enabled with
  | false => simp
  | true =>
    cases conf with
    | none => simp
    | some c => simp [Grants.listing_merge, Reader.standard, listing_readGrants]

/-- What a manager of a DAG consists of. -/
theorem forDag_eq_ok {reader : Reader} {dagUser : String} {conf : Option Options}
    (h : m.forDag reader dagUser conf = .ok m') :
    dagUser ≠ "" ∧ m' = { m with
      dagUser := some dagUser
      grants := if m.enabled then conf.elim m.grants fun c => m.grants.merge (reader.read .dag c)
        else m.grants } := by
  unfold forDag at h
  by_cases empty : dagUser = ""
  · simp [empty] at h
  · refine ⟨empty, ?_⟩
    rw [if_neg empty] at h
    cases conf with
    | none =>
      cases h
      simp
    | some c =>
      cases on : m.enabled with
      | true =>
        simp only [on, if_true] at h ⊢
        cases h
        rfl
      | false =>
        simp only [on, Bool.false_eq_true, if_false] at h ⊢
        cases h
        rfl

/-- The options matter only for what is granted. -/
theorem forDag_eq_map (m : Manager) (reader : Reader) (dagUser : String) (conf : Option Options) :
    m.forDag reader dagUser conf = (m.forDag (.finding {}) dagUser none).map fun derived =>
      { derived with
        grants := if m.enabled then conf.elim m.grants fun c => m.grants.merge (reader.read .dag c)
          else m.grants } := by
  unfold forDag
  by_cases empty : dagUser = ""
  · simp only [if_pos empty]
    rfl
  · simp only [if_neg empty]
    cases conf with
    | none => cases m.enabled <;> rfl
    | some c => cases m.enabled <;> rfl

/-- A DAG user with a name always gets a manager. -/
theorem exists_forDag (m : Manager) (reader : Reader) {dagUser : String} (named : dagUser ≠ "")
    (conf : Option Options) : ∃ m', m.forDag reader dagUser conf = .ok m' := by
  unfold forDag
  rw [if_neg named]
  cases conf with
  | none => exact ⟨_, rfl⟩
  | some c =>
    by_cases on : m.enabled = true
    · exact ⟨_, if_pos on⟩
    · exact ⟨_, if_neg on⟩

/-- Managers derived one from another, each for a DAG user and perhaps with options. -/
def forDags (m : Manager) (reader : Reader) :
    List (String × Option Options) → Except AclFault Manager
  | [] => .ok m
  | (dagUser, conf) :: rest => do
    let next ← m.forDag reader dagUser conf
    next.forDags reader rest

theorem forDags_cons_eq_ok {reader : Reader} {dagUser : String} {conf : Option Options}
    {chain : List (String × Option Options)}
    (h : m.forDags reader ((dagUser, conf) :: chain) = .ok m') :
    ∃ next, m.forDag reader dagUser conf = .ok next ∧ next.forDags reader chain = .ok m' := by
  rw [forDags] at h
  cases first : m.forDag reader dagUser conf with
  | error fault => simp [first, bind, Except.bind] at h
  | ok next => exact ⟨next, rfl, by simpa [first, bind, Except.bind] using h⟩

theorem exists_forDags (m : Manager) (reader : Reader) {chain : List (String × Option Options)}
    (named : ∀ d ∈ chain, d.1 ≠ "") : ∃ m', m.forDags reader chain = .ok m' := by
  induction chain generalizing m with
  | nil => exact ⟨m, rfl⟩
  | cons d rest ih =>
    obtain ⟨next, first⟩ := exists_forDag m reader (named d List.mem_cons_self) d.2
    obtain ⟨last, later⟩ := ih next fun e he => named e (List.mem_cons_of_mem _ he)
    exact ⟨last, by simp [forDags, first, later, bind, Except.bind]⟩

/-! ## What a chain makes of a manager -/

/-- What the options of a chain list for an action, added to what was granted before. -/
def extend (l : Listing) (chain : List (String × Option Options)) (t : AclType) : Listing :=
  (chain.filterMap Prod.snd).foldl (fun l conf => l.union (listed conf t)) l

/-- A manager is what derivations along a chain make of another one. -/
structure Derives (m : Manager) (chain : List (String × Option Options)) (m' : Manager) : Prop where
  provider : m'.provider = m.provider
  amUser : m'.amUser = m.amUser
  enabled : m'.enabled = m.enabled
  dagUser : m'.dagUser = (chain.getLast?.map Prod.fst).or m.dagUser
  listing : ∀ t, m'.grants.listing t =
    if m.enabled = true ∧ t.scope = .dag then extend (m.grants.listing t) chain t
    else m.grants.listing t

theorem forDag_listing {dagUser : String} {conf : Option Options}
    (h : m.forDag .standard dagUser conf = .ok m') (t : AclType) :
    m'.grants.listing t =
      if m.enabled = true ∧ t.scope = .dag then extend (m.grants.listing t) [(dagUser, conf)] t
      else m.grants.listing t := by
  obtain ⟨-, rfl⟩ := forDag_eq_ok h
  cases on : m.enabled with
  | false => simp
  | true =>
    cases conf with
    | none => simp [extend]
    | some c =>
      simp only [if_true, Option.elim_some, Grants.listing_merge, Reader.standard,
        listing_readGrants, true_and]
      split <;> simp [extend]

/-- Deriving managers with the standard reader along a chain. -/
theorem forDags_derives {chain : List (String × Option Options)}
    (h : m.forDags .standard chain = .ok m') : Derives m chain m' := by
  induction chain generalizing m with
  | nil =>
    cases h
    exact ⟨rfl, rfl, rfl, by simp, fun t => by simp [extend]⟩
  | cons d rest ih =>
    obtain ⟨dagUser, conf⟩ := d
    obtain ⟨next, first, later⟩ := forDags_cons_eq_ok h
    have step := forDag_listing first
    obtain ⟨-, made⟩ := forDag_eq_ok first
    have tail := ih later
    refine ⟨?_, ?_, ?_, ?_, ?_⟩
    · rw [tail.provider, made]
    · rw [tail.amUser, made]
    · rw [tail.enabled, made]
    · rw [tail.dagUser, made]
      cases rest with
      | nil => rfl
      | cons e es =>
        rw [List.getLast?_cons_cons, List.getLast?_cons]
        rfl
    · intro t
      have on : next.enabled = m.enabled := by rw [made]
      rw [tail.listing t, step t, on]
      split
      · cases conf <;> simp [extend]
      · rfl

/-! ## Access -/

/-- The names on one side of an extended listing are those that were there and those that some
options of the chain list. -/
theorem mem_extend {side : Listing → PrincipalSet}
    (unites : ∀ l k : Listing, side (l.union k) = (side l).union (side k)) {l : Listing}
    {chain : List (String × Option Options)} {t : AclType} {name : String} :
    name ∈ side (extend l chain t) ↔
      name ∈ side l ∨ ∃ conf ∈ chain.filterMap Prod.snd, name ∈ side (listed conf t) := by
  unfold extend
  induction chain.filterMap Prod.snd generalizing l with
  | nil => simp
  | cons conf rest ih =>
    rw [List.foldl_cons, ih, unites, PrincipalSet.mem_union, or_assoc]
    simp only [List.mem_cons, exists_eq_or_imp]

/-- Rulings depend on who is granted the action, on the switch and on the owners that count for
it. -/
theorem rule_congr {user : String} {t : AclType} (enabled : m'.enabled = m.enabled)
    (amUser : m'.amUser = m.amUser) (dagUser : t.isDag = true → m'.dagUser = m.dagUser)
    (listing : m'.grants.listing t = m.grants.listing t) : m'.rule user t = m.rule user t := by
  have users : m'.grants.users.principals t = m.grants.users.principals t :=
    congrArg Listing.users listing
  have groups : m'.grants.groups.principals t = m.grants.groups.principals t :=
    congrArg Listing.groups listing
  apply rule_eq_of_grantsOutright
  · cases dag : t.isDag with
    | false => simp [GrantsOutright, enabled, amUser, users, dag]
    | true => simp [GrantsOutright, enabled, amUser, users, dagUser dag]
  · exact fun _ => groups

/-- Managers with one ruling and one provider answer alike where the provider does. -/
theorem check_congr {user : String} {t : AclType} (ruling : m'.rule user t = m.rule user t)
    {w' w : World}
    (outcome : (Groups.lookup m'.provider user w').1 = (Groups.lookup m.provider user w).1) :
    (m'.check user t w').1 = (m.check user t w).1 := by
  rw [check_answer, check_answer, outcome, decide, decide, ruling]

theorem render_congr {r : Right} (enabled : m'.enabled = m.enabled) (amUser : m'.amUser = m.amUser)
    (listing : m'.grants.listing (.ofAm r) = m.grants.listing (.ofAm r)) :
    m'.render r = m.render r := by
  have users : m'.grants.users.principals (.ofAm r) = m.grants.users.principals (.ofAm r) :=
    congrArg Listing.users listing
  have groups : m'.grants.groups.principals (.ofAm r) = m.grants.groups.principals (.ofAm r) :=
    congrArg Listing.groups listing
  simp only [render, enabled, amUser, users, groups]

namespace Derives

variable {chain : List (String × Option Options)}

/-- The listings of the AM actions stay. -/
theorem listing_ofAm (h : Derives m chain m') (r : Right) :
    m'.grants.listing (.ofAm r) = m.grants.listing (.ofAm r) := by
  rw [h.listing, if_neg]
  cases r <;> simp [AclType.ofAm, AclType.scope, AclType.isDag]

theorem rule_ofAm (h : Derives m chain m') (user : String) (r : Right) :
    m'.rule user (.ofAm r) = m.rule user (.ofAm r) := by
  apply rule_congr h.enabled h.amUser _ (h.listing_ofAm r)
  cases r <;> simp [AclType.ofAm, AclType.isDag]

theorem render_eq (h : Derives m chain m') (r : Right) : m'.render r = m.render r :=
  render_congr h.enabled h.amUser (h.listing_ofAm r)

/-- Where nobody was granted an action on the DAG, those are that the options of the chain list. -/
theorem mem_ofDag (h : Derives m chain m') (side : Listing → PrincipalSet)
    (unites : ∀ l k : Listing, side (l.union k) = (side l).union (side k)) (none : side ∅ = ∅)
    (on : m.enabled = true) {r : Right} (fresh : m.grants.listing (.ofDag r) = ∅) (name : String) :
    name ∈ side (m'.grants.listing (.ofDag r)) ↔
      ∃ conf ∈ chain.filterMap Prod.snd, name ∈ side (listed conf (.ofDag r)) := by
  have dag : (AclType.ofDag r).scope = .dag := by cases r <;> rfl
  rw [h.listing, if_pos ⟨on, dag⟩, mem_extend unites, fresh, none]
  simp

end Derives

/-- **Options submitted with DAGs never widen access to the AM, and grant access to the DAG exactly
together.** -/
theorem forDags_access {provider : Option Groups.ProviderId} {amUser : String}
    {conf : Option Options} {root : Manager} (made : make .standard provider amUser conf = .ok root)
    {chain : List (String × Option Options)} (named : ∀ d ∈ chain, d.1 ≠ "") :
    ∃ m, root.forDags .standard chain = .ok m ∧
      -- the AM: the switch, the decisions and the rendered lists
      m.enabled = root.enabled ∧
      (∀ user r w w₀,
        (Groups.lookup root.provider user w).1 = (Groups.lookup root.provider user w₀).1 →
        (m.check user (.ofAm r) w).1 = (root.check user (.ofAm r) w₀).1) ∧
      (∀ r, m.render r = root.render r) ∧
      -- the DAG: the owners, and whoever is listed by some options of the chain
      ∀ user r w, (m.check user (.ofDag r) w).1 = .ok true ↔
        root.enabled = false ∨ user = amUser ∨ (∃ d, chain.getLast? = some d ∧ user = d.1) ∨
        (∃ conf ∈ chain.filterMap Prod.snd,
          wildcard ∈ (listed conf (.ofDag r)).users ∨ user ∈ (listed conf (.ofDag r)).users) ∨
        ∃ groups, (Groups.lookup root.provider user w).1 = .ok groups ∧
          ∃ group ∈ groups, ∃ conf ∈ chain.filterMap Prod.snd,
            group ∈ (listed conf (.ofDag r)).groups := by
  obtain ⟨m, derived⟩ := exists_forDags root .standard named
  have step := forDags_derives derived
  refine ⟨m, derived, step.enabled, ?_, step.render_eq, ?_⟩
  · intro user r w w₀ outcome
    apply check_congr (step.rule_ofAm user r)
    rw [step.provider]
    exact outcome
  · intro user r w
    have dag : (AclType.ofDag r).isDag = true := by cases r <;> rfl
    have fresh : root.grants.listing (.ofDag r) = ∅ := by
      rw [make_listing made, if_neg]
      simp [AclType.scope, dag]
    have owner : m.dagUser = some user ↔ ∃ d, chain.getLast? = some d ∧ user = d.1 := by
      rw [step.dagUser, make_dagUser made]
      cases chain.getLast? <;> simp [eq_comm]
    have owned : m.amUser = amUser := step.amUser.trans (make_amUser made).1
    rw [check_answer, decide_granted_iff, GrantsOutright, step.enabled, step.provider, owned, owner]
    cases on : root.enabled with
    | false => simp
    | true =>
      have users : ∀ name, name ∈ m.grants.users.principals (.ofDag r) ↔
          ∃ conf ∈ chain.filterMap Prod.snd, name ∈ (listed conf (.ofDag r)).users :=
        step.mem_ofDag Listing.users (fun _ _ => rfl) rfl on fresh
      have groups : ∀ name, name ∈ m.grants.groups.principals (.ofDag r) ↔
          ∃ conf ∈ chain.filterMap Prod.snd, name ∈ (listed conf (.ofDag r)).groups :=
        step.mem_ofDag Listing.groups (fun _ _ => rfl) rfl on fresh
      simp only [users, groups, dag, true_and, and_or_left, exists_or, or_assoc]

/-- Two DAGs in a row: what the first one lists counts for the second one, and what it lists for the
AM does not count. -/
theorem forDags_access_nested :
    ∃ root m, make .standard (some 0) "hive" (some [("view_acls", "alice")]) = .ok root ∧
      root.forDags .standard [("bob", some [("dag_view_acls", "carol ops"), ("view_acls", "*")]),
        ("dave", none)] = .ok m ∧
      ∀ w, (m.check "carol" .dagView w).1 = .ok true ∧
        (m.check "carol" .amView w).1 = .ok false := by
  have made : make .standard (some 0) "hive" (some [("view_acls", "alice")]) =
      .ok { provider := 0, amUser := "hive",
            grants := Grants.merge {} (readGrants .am [("view_acls", "alice")]) } :=
    rfl
  have named : ∀ d ∈ [("bob", some [("dag_view_acls", "carol ops"), ("view_acls", "*")]),
      ("dave", none)], d.1 ≠ "" := by
    decide
  obtain ⟨m, derived, -, am, -, dag⟩ := forDags_access made named
  refine ⟨_, m, made, derived, fun w => ⟨?_, ?_⟩⟩
  · refine (dag "carol" .view w).mpr (.inr (.inr (.inr (.inl ?_))))
    exact ⟨_, List.mem_cons_self, by decide⟩
  · refine (am "carol" .view w w rfl).trans ?_
    rw [check_answer]
    rfl

end Manager

end DagAccess
