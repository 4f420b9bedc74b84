import DagAccess.Acl.Options
import DagAccess.Proofs.Acl.Listing
import DagAccess.Proofs.AllowList

/-!
# What options grant

`Grants.listing` is the view of grants by action: the users and the groups that are granted it.
Reading options grants for each action of the scope what the option of that action lists, and
nothing for the actions of the other scope (`listing_readGrants`). Merging unites listings
(`listing_merge`).
-/

namespace DagAccess

namespace AclType

/-- Whose options grant an action. -/
def scope (t : AclType) : Acl.Scope :=
  if t.isDag then .dag else .am

/-- The option that grants an action. -/
def option : AclType → String
  | .amView => "view_acls"
  | .amModify => "modify_acls"
  | .dagView => "dag_view_acls"
  | .dagModify => "dag_modify_acls"

end AclType

namespace Acl

instance : EmptyCollection Listing := ⟨⟨∅, ∅⟩⟩

/-- The users and groups of both listings. -/
def Listing.union (l k : Listing) : Listing :=
  ⟨l.users.union k.users, l.groups.union k.groups⟩

@[simp]
theorem Listing.users_empty : (∅ : Listing).users = ∅ := rfl

@[simp]
theorem Listing.groups_empty : (∅ : Listing).groups = ∅ := rfl

@[simp]
theorem Listing.union_empty (l : Listing) : l.union ∅ = l := rfl

@[simp]
theorem Listing.empty_union (l : Listing) : (∅ : Listing).union l = l := by
  simp only [Listing.union, Listing.users_empty, Listing.groups_empty, PrincipalSet.empty_union]

/-- What the text of an option lists for an action, nothing if the option is not set. -/
def listed (conf : Options) (t : AclType) : Listing :=
  match conf.lookup t.option with
  | none => ∅
  | some text => Listing.read text.toList

theorem listed_wellFormed (conf : Options) (t : AclType) : (listed conf t).WellFormed := by
  unfold listed
  cases conf.lookup t.option with
  | none => exact Listing.empty_wellFormed
  | some text => exact Listing.read_wellFormed text.toList

end Acl

open Acl

namespace Grants

/-- Who is granted an action. -/
def listing (g : Grants) (t : AclType) : Listing :=
  ⟨g.users.principals t, g.groups.principals t⟩

@[simp]
theorem listing_none (t : AclType) : ({} : Grants).listing t = ∅ := rfl

/-- Merging unites the listings of each action. -/
theorem listing_merge (a b : Grants) (t : AclType) :
    (a.merge b).listing t = (a.listing t).union (b.listing t) := by
  simp only [listing, merge, AllowList.principals_merge, Listing.union]

end Grants

namespace Acl

/-- A listing is entered for an action that nobody was granted before. -/
theorem listing_enter (l : Listing) {t : AclType} {g : Grants} (fresh : g.listing t = ∅)
    (u : AclType) : (l.enter t g).listing u = if u = t then l else g.listing u := by
  have users : g.users.principals t = ∅ := congrArg Listing.users fresh
  have groups : g.groups.principals t = ∅ := congrArg Listing.groups fresh
  simp only [Grants.listing, Listing.enter, AllowList.principals_put_unless_empty users,
    AllowList.principals_put_unless_empty groups]
  split <;> rfl

/-- Enters what the option of an action lists, if it is set. -/
def enterOption (conf : Options) (g : Grants) (t : AclType) : Grants :=
  match conf.lookup t.option with
  | none => g
  | some text => (Listing.read text.toList).enter t g

theorem listing_enterOption (conf : Options) {t : AclType} {g : Grants} (fresh : g.listing t = ∅)
    (u : AclType) :
    (enterOption conf g t).listing u = if u = t then listed conf t else g.listing u := by
  unfold enterOption listed
  cases conf.lookup t.option with
  | none =>
    by_cases same : u = t
    · rw [if_pos same, same, fresh]
    · rw [if_neg same]
  | some text => exact listing_enter (Listing.read text.toList) fresh u

/-- Options of several actions are entered one after the other. -/
theorem listing_enterOptions (conf : Options) {ts : List AclType} (distinct : ts.Nodup) {g : Grants}
    (fresh : ∀ t ∈ ts, g.listing t = ∅) (u : AclType) :
    (ts.foldl (enterOption conf) g).listing u = if u ∈ ts then listed conf u else g.listing u := by
  induction ts generalizing g with
  | nil => rfl
  | cons t rest ih =>
    obtain ⟨once, distinct⟩ := List.nodup_cons.mp distinct
    have entered := listing_enterOption conf (fresh t List.mem_cons_self)
    have stillFresh : ∀ other ∈ rest, (enterOption conf g t).listing other = ∅ := by
      intro other later
      have different : other ≠ t := fun same => once (same ▸ later)
      rw [entered, if_neg different, fresh other (List.mem_cons_of_mem _ later)]
    rw [List.foldl_cons, ih distinct stillFresh, entered]
    by_cases same : u = t
    · simp [same]
    · simp [same]

/-- The actions that options of a scope are about. -/
def Scope.types : Scope → List AclType
  | .am => [.amView, .amModify]
  | .dag => [.dagView, .dagModify]

theorem readGrants_eq_foldl (scope : Scope) (conf : Options) :
    readGrants scope conf = scope.types.foldl (enterOption conf) {} := by
  cases scope <;> rfl

/-- Options grant for each action of their scope what its option lists, and nothing else. -/
theorem listing_readGrants (scope : Scope) (conf : Options) (t : AclType) :
    (readGrants scope conf).listing t = if t.scope = scope then listed conf t else ∅ := by
  have distinct : scope.types.Nodup := by cases scope <;> decide
  have mem_types : t ∈ scope.types ↔ t.scope = scope := by cases scope <;> cases t <;> decide
  rw [readGrants_eq_foldl, listing_enterOptions conf distinct (fun _ _ => Grants.listing_none _)]
  simp only [mem_types, Grants.listing_none]

end Acl

end DagAccess
