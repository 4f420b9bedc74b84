import DagAccess.AllowList.Store
import DagAccess.Proofs.AllowList.Merging

/-!
# What sharing does to allow-lists

A list is `Private` if nobody outside knows it and no other list holds one of its sets. All work on
a store spares private lists, but for the ones that it works on (`Spares`), and so does whatever is
done from outside (`edit_spares`). Copies are private lists with the value of the original
(`copy_gains`), and merging into a private list gives the value that merging values gives, and
changes no other list, not even the one that is merged (`list_merge`).
-/

namespace DagAccess.AllowList.Store

variable {s s' : Store} {x y : Ref} {t u : AclType} {r q : Ref} {names : PrincipalSet}
  {change : PrincipalSet → PrincipalSet}

/-! ## Sets and sheets -/

@[simp]
theorem sheet_new (s : Store) (x : Ref) : s.new.2.sheet x = s.sheet x := by
  unfold sheet new
  rw [Array.getElem?_push]
  split
  · next last => rw [last, Array.getElem?_eq_none (Nat.le_refl _)]; rfl
  · rfl

@[simp]
theorem sheet_fill (s : Store) (r : Ref) (change : PrincipalSet → PrincipalSet) (x : Ref) :
    (s.fill r change).sheet x = s.sheet x := rfl

@[simp]
theorem sheet_tell (s : Store) (x y : Ref) : (s.tell x).sheet y = s.sheet y := by
  unfold tell
  split <;> rfl

theorem sheet_of_missing (missing : s.lists.size ≤ x) : s.sheet x = ∅ := by
  rw [sheet, Array.getElem?_eq_none missing]
  rfl

theorem sheet_modify_self {f : Sheet → Sheet} (amended : s'.lists = s.lists.modify x f)
    (there : x < s.lists.size) : s'.sheet x = f (s.sheet x) := by
  unfold sheet
  rw [amended, Array.getElem?_modify, if_pos rfl, Array.getElem?_eq_getElem there]
  rfl

theorem sheet_modify_other {f : Sheet → Sheet} (amended : s'.lists = s.lists.modify x f)
    (other : y ≠ x) : s'.sheet y = s.sheet y := by
  unfold sheet
  rw [amended, Array.getElem?_modify, if_neg (Ne.symm other)]

theorem sheet_put_self (there : x < s.lists.size) :
    (s.put x t names).sheet x = (s.sheet x).put t s.sets.size :=
  sheet_modify_self (s := s.push names) (f := (·.put t s.sets.size)) rfl there

theorem sheet_put_other (other : y ≠ x) : (s.put x t names).sheet y = s.sheet y :=
  sheet_modify_other (s := s.push names) (f := (·.put t s.sets.size)) rfl other

theorem set_push_old (old : r < s.sets.size) : (s.push names).set r = s.set r := by
  unfold set push
  rw [Array.getElem?_push, if_neg (Nat.ne_of_lt old)]

theorem set_push_new (s : Store) (names : PrincipalSet) :
    (s.push names).set s.sets.size = names := by
  unfold set push
  rw [Array.getElem?_push_size, Option.getD_some]

theorem set_fill_self (there : r < s.sets.size) : (s.fill r change).set r = change (s.set r) := by
  unfold set fill
  rw [Array.getElem?_modify, if_pos rfl, Array.getElem?_eq_getElem there]
  rfl

theorem set_fill_other (other : q ≠ r) : (s.fill r change).set q = s.set q := by
  unfold set fill
  rw [Array.getElem?_modify, if_neg (Ne.symm other)]

/-! ## Values -/

theorem actions_list (s : Store) (x : Ref) :
    (s.list x).actions = (s.sheet x).entries.map Prod.fst := by
  rw [actions, list, Sheet.read, List.map_map]
  rfl

theorem principals_list (s : Store) (x : Ref) (t : AclType) :
    (s.list x).principals t = (((s.sheet x).find? t).map s.set).getD ∅ := by
  rw [principals, find?, list, Sheet.read, Assoc.lookup_map (fun _ => s.set)]
  rfl

/-- A list is what its sets hold. -/
theorem list_congr (sheet : s'.sheet y = s.sheet x)
    (sets : ∀ {t r}, (s.sheet x).find? t = some r → s'.set r = s.set r) : s'.list y = s.list x := by
  refine eq_of_actions ?_ fun t => ?_
  · rw [actions_list, actions_list, sheet]
  · rw [principals_list, principals_list, sheet]
    cases found : (s.sheet x).find? t with
    | none => rfl
    | some r => rw [Option.map_some, Option.map_some, sets found]

@[simp]
theorem list_new_old (s : Store) (x : Ref) : s.new.2.list x = s.list x :=
  list_congr (sheet_new s x) fun _ => rfl

@[simp]
theorem list_tell (s : Store) (x y : Ref) : (s.tell x).list y = s.list y := by
  refine list_congr (sheet_tell s x y) fun _ => ?_
  unfold tell
  split <;> rfl

theorem list_put_other (other : y ≠ x) : (s.put x t names).list y = s.list y :=
  list_congr (sheet_put_other other) fun found => set_push_old (s.held_sheet found)

theorem list_fill_other (free : ∀ t, (s.sheet x).find? t ≠ some r) :
    (s.fill r change).list x = s.list x :=
  list_congr (sheet_fill s r change x) fun {t _} found =>
    set_fill_other fun same => free t (same ▸ found)

theorem find?_put (there : x < s.lists.size) :
    ((s.put x t names).sheet x).find? u = if u = t then some s.sets.size
      else (s.sheet x).find? u := by
  rw [sheet_put_self there, Sheet.find?_put]

theorem set_put_old (old : r < s.sets.size) : (s.put x t names).set r = s.set r :=
  set_push_old old

/-- A new set stands where the old one stood. -/
theorem list_put (there : x < s.lists.size) :
    (s.put x t names).list x = (s.list x).put t names := by
  refine eq_of_actions ?_ fun u => ?_
  · rw [actions_list, AllowList.put, actions_modify, actions_list, sheet_put_self there]
    exact Assoc.keys_put t _ _
  · rw [principals_list, principals_put, principals_list, find?_put there]
    split
    · exact set_push_new s names
    · cases found : (s.sheet x).find? u with
      | none => rfl
      | some r => rw [Option.map_some, Option.map_some, set_put_old (s.held_sheet found)]

/-! ## Privacy -/

/-- Nobody outside knows the list, and nothing else holds one of its sets. -/
structure Private (s : Store) (x : Ref) : Prop where
  there : x < s.lists.size
  unknown : x ∉ s.known
  apart : ∀ {y t u r}, (s.sheet x).find? t = some r → (s.sheet y).find? u = some r → y = x ∧ u = t

/-- Whatever becomes of a store, a list stays private if it stays as it is, and no list takes one of
its sets. -/
theorem Private.kept (own : s.Private x) (grows : s.lists.size ≤ s'.lists.size)
    (known : x ∉ s'.known) (sheet : s'.sheet x = s.sheet x)
    (others : ∀ {y u t r}, (s.sheet x).find? t = some r → (s'.sheet y).find? u = some r →
      (s.sheet y).find? u = some r) : s'.Private x where
  there := Nat.lt_of_lt_of_le own.there grows
  unknown := known
  apart {y t u r} found shared := by
    rw [sheet] at found
    exact own.apart found (others found shared)

/-- Private lists stay as they are, but for these. -/
structure Spares (but : List Ref) (s s' : Store) : Prop where
  grows : s.lists.size ≤ s'.lists.size
  spared : ∀ {x}, s.Private x → x ∉ but → s'.Private x ∧ s'.list x = s.list x

namespace Spares

variable {but : List Ref} {s'' : Store}

theorem refl (but : List Ref) (s : Store) : Spares but s s :=
  ⟨Nat.le_refl _, fun own _ => ⟨own, rfl⟩⟩

theorem trans (first : Spares but s s') (second : Spares but s' s'') : Spares but s s'' where
  grows := Nat.le_trans first.grows second.grows
  spared own other := by
    obtain ⟨still, same⟩ := first.spared own other
    obtain ⟨last, value⟩ := second.spared still other
    exact ⟨last, value.trans same⟩

theorem mono {more : List Ref} (spares : Spares but s s') (included : but ⊆ more) :
    Spares more s s' :=
  ⟨spares.grows, fun own other => spares.spared own fun there => other (included there)⟩

/-- All private lists stay as they are if the others are new, or known outside. -/
theorem of_others (spares : Spares but s s') (others : ∀ x ∈ but, ¬ s.Private x) : Spares [] s s' :=
  ⟨spares.grows, fun {x} own _ => spares.spared own fun there => others x there own⟩

theorem of_one (spares : Spares [x] s s') (other : ¬ s.Private x) : Spares [] s s' :=
  spares.of_others fun _ there => List.mem_singleton.mp there ▸ other

theorem of_new (spares : Spares [s.lists.size] s s') : Spares [] s s' :=
  spares.of_one fun own => Nat.lt_irrefl _ own.there

theorem foldl {α : Type} {step : Store → α → Store} (each : ∀ s a, Spares but s (step s a))
    (as : List α) (s : Store) : Spares but s (as.foldl step s) := by
  induction as generalizing s with
  | nil => exact .refl but s
  | cons a rest ih => exact (each s a).trans (ih _)

end Spares

theorem new_spares (s : Store) : Spares [] s s.new.2 := by
  have grows : s.lists.size ≤ s.new.2.lists.size := by
    rw [new, Array.size_push]
    exact Nat.le_succ _
  refine ⟨grows,
    fun own _ => ⟨own.kept grows own.unknown (sheet_new s _) fun {y _ _ _} _ found => ?_, ?_⟩⟩
  · rwa [sheet_new] at found
  · exact list_new_old s _

/-- A list may take sets that no other private list holds. -/
theorem spares_of_modify {f : Sheet → Sheet} (amended : s'.lists = s.lists.modify x f)
    (sets : s'.sets = s.sets) (known : s'.known = s.known)
    (free : ∀ {h : Sheet} {t r}, (f h).find? t = some r → h.find? t = some r ∨
      ∀ {y}, s.Private y → y ≠ x → ∀ u, (s.sheet y).find? u ≠ some r) : Spares [x] s s' := by
  have size : s'.lists.size = s.lists.size := by
    rw [amended, Array.size_modify]
  refine ⟨Nat.le_of_eq size.symm, fun {y} own listed => ?_⟩
  have other : y ≠ x := fun same => listed (List.mem_singleton.mpr same)
  have sheet := sheet_modify_other amended other
  refine ⟨own.kept (Nat.le_of_eq size.symm) (known ▸ own.unknown) sheet ?_,
    list_congr sheet fun {_ r} _ => by rw [set, set, sets]⟩
  intro z u v q found shared
  by_cases here : z = x
  · rw [here] at shared ⊢
    by_cases bound : x < s.lists.size
    · rw [sheet_modify_self amended bound] at shared
      exact (free shared).resolve_right fun apart => apart own other v found
    · rw [sheet_of_missing (size ▸ Nat.le_of_not_lt bound)] at shared
      cases shared
  · rwa [sheet_modify_other amended here] at shared

theorem share_spares (there : r < s.sets.size)
    (free : ∀ {y}, s.Private y → y ≠ x → ∀ u, (s.sheet y).find? u ≠ some r) :
    Spares [x] s (s.share x t r there) := by
  refine spares_of_modify (f := (·.put t r)) rfl rfl rfl fun {h u q} found => ?_
  rw [Sheet.find?_put] at found
  split at found
  · exact .inr (Option.some.inj found ▸ free)
  · exact .inl found

theorem push_spares (s : Store) (names : PrincipalSet) : Spares [] s (s.push names) := by
  refine ⟨Nat.le_refl _, fun own _ => ⟨own.kept (Nat.le_refl _) own.unknown rfl fun _ => id, ?_⟩⟩
  exact list_congr rfl fun found => set_push_old (s.held_sheet found)

theorem put_spares (s : Store) (x : Ref) (t : AclType) (names : PrincipalSet) :
    Spares [x] s (s.put x t names) := by
  refine ((push_spares s names).mono (List.nil_subset _)).trans
    (share_spares _ fun {y} _ _ u found => ?_)
  exact Nat.lt_irrefl _ (s.held_sheet (x := y) found)

theorem erase_spares (s : Store) (x : Ref) (t : AclType) : Spares [x] s (s.erase x t) := by
  refine spares_of_modify (f := (·.erase t)) rfl rfl rfl fun {h u q} found => .inl ?_
  rw [Sheet.find?_erase] at found
  split at found
  · cases found
  · exact found

/-- A set may be changed that only these lists hold. -/
theorem fill_spares {but : List Ref}
    (free : ∀ {y}, s.Private y → y ∉ but → ∀ u, (s.sheet y).find? u ≠ some r)
    (change : PrincipalSet → PrincipalSet) : Spares but s (s.fill r change) := by
  refine ⟨Nat.le_refl _, fun own other => ⟨?_, list_fill_other (free own other)⟩⟩
  exact own.kept (Nat.le_refl _) own.unknown rfl fun _ => id

theorem tell_spares (s : Store) (x : Ref) : Spares [x] s (s.tell x) := by
  have same : (s.tell x).lists = s.lists := by
    unfold tell
    split <;> rfl
  have known : ∀ {y}, y ∈ (s.tell x).known → y ∈ s.known ∨ y = x := by
    intro y there
    unfold tell at there
    split at there
    · exact (List.mem_append.mp there).imp_right List.mem_singleton.mp
    · exact .inl there
  have grows : s.lists.size ≤ (s.tell x).lists.size := by rw [same]
  refine ⟨grows, fun {y} own listed => ⟨own.kept grows (fun told => ?_) (sheet_tell s x y) ?_,
    list_tell s x y⟩⟩
  · exact (known told).elim own.unknown fun here => listed (List.mem_singleton.mpr here)
  · intro z u t r _ shared
    rwa [sheet_tell] at shared

/-! ## Merging -/

/-- The set that a list holds for an action, or a new one, is held by no private list but that
one. -/
theorem ensure_free (s : Store) (x : Ref) (t : AclType) {y : Ref} (own : (s.ensure x t).2.Private y)
    (other : y ≠ x) (u : AclType) : ((s.ensure x t).2.sheet y).find? u ≠ some (s.ensure x t).1 := by
  intro found
  unfold ensure at own found
  cases here : (s.sheet x).find? t with
  | some r =>
    rw [here] at own found
    exact other (own.apart found here).1.symm
  | none =>
    rw [here] at found
    dsimp only at found
    rw [sheet_put_other other] at found
    exact Nat.lt_irrefl _ (s.held_sheet found)

theorem ensure_spares (s : Store) (x : Ref) (t : AclType) : Spares [x] s (s.ensure x t).2 := by
  unfold ensure
  cases (s.sheet x).find? t with
  | some r => exact .refl _ s
  | none => exact put_spares s x t ∅

theorem alter_spares (s : Store) (x : Ref) (t : AclType) (change : PrincipalSet → PrincipalSet) :
    Spares [x] s (s.alter x t change) := by
  refine (ensure_spares s x t).trans (fill_spares (fun own listed => ?_) _)
  exact ensure_free s x t own fun same => listed (List.mem_singleton.mpr same)

/-- Merging changes nothing that is private but the list that is merged into. -/
theorem merge_spares (s : Store) (x source : Ref) : Spares [x] s (s.merge x source) := by
  have each : ∀ (s : Store) (e : AclType × Ref), Spares [x] s (s.mergeEntry x e) := fun s e =>
    alter_spares s x e.1 (·.union (s.set e.2))
  exact .foldl each _ s

/-! ## Private lists that are worked on -/

theorem private_new (s : Store) : s.new.2.Private s.new.1 where
  there := by
    rw [new, Array.size_push]
    exact Nat.lt_succ_self _
  unknown known := Nat.lt_irrefl _ (s.there known)
  apart {y t u r} found := by
    rw [sheet_new, new, sheet_of_missing (Nat.le_refl _)] at found
    cases found

theorem list_new (s : Store) : s.new.2.list s.new.1 = ∅ := by
  rw [list_new_old, new, list, sheet_of_missing (Nat.le_refl _)]
  rfl

/-- One action of a private list is worked on: the list stays private, no other list changes, and
the sets that there are stay as they are, but for the one that the list has for the action. -/
structure Works (x : Ref) (t : AclType) (s s' : Store) : Prop where
  own : s'.Private x
  others : ∀ y, y ≠ x → s'.list y = s.list y
  grows : s.sets.size ≤ s'.sets.size
  kept : ∀ {r}, r < s.sets.size → (s.sheet x).find? t ≠ some r → s'.set r = s.set r
  held : ∀ {r u}, r < s.sets.size → (s'.sheet x).find? u = some r → (s.sheet x).find? u = some r

theorem Works.trans {s'' : Store} (first : Works x t s s') (second : Works x t s' s'') :
    Works x t s s'' where
  own := second.own
  others y other := (second.others y other).trans (first.others y other)
  grows := Nat.le_trans first.grows second.grows
  kept old free := by
    have still := Nat.lt_of_lt_of_le old first.grows
    rw [second.kept still fun found => free (first.held old found), first.kept old free]
  held old found := first.held old (second.held (Nat.lt_of_lt_of_le old first.grows) found)

/-- A set that is held after one was assigned is the new one in its place, or was held before. -/
theorem of_find?_put (there : x < s.lists.size)
    (found : ((s.put x t names).sheet y).find? u = some r) :
    r = s.sets.size ∧ y = x ∧ u = t ∨ r < s.sets.size ∧ (s.sheet y).find? u = some r := by
  by_cases here : y = x
  · rw [here, find?_put there] at found
    split at found
    · next same => exact .inl ⟨(Option.some.inj found).symm, here, same⟩
    · exact .inr ⟨s.held_sheet found, here ▸ found⟩
  · rw [sheet_put_other here] at found
    exact .inr ⟨s.held_sheet found, found⟩

theorem grows_put (s : Store) (x : Ref) (t : AclType) (names : PrincipalSet) :
    s.sets.size ≤ (s.put x t names).sets.size := by
  have pushed : (s.put x t names).sets = s.sets.push names := rfl
  rw [pushed, Array.size_push]
  exact Nat.le_succ _

theorem put_works (own : s.Private x) (t : AclType) (names : PrincipalSet) :
    Works x t s (s.put x t names) where
  own :=
    { there := by
        rw [Store.put, share, amend, Array.size_modify]
        exact own.there
      unknown := own.unknown
      apart := by
        intro y u v r found shared
        rcases of_find?_put own.there found with ⟨new, -, rfl⟩ | ⟨old, found⟩ <;>
          rcases of_find?_put own.there shared with ⟨also, rfl, rfl⟩ | ⟨older, shared⟩
        · exact ⟨rfl, rfl⟩
        · exact absurd (new ▸ older) (Nat.lt_irrefl _)
        · exact absurd (also ▸ old) (Nat.lt_irrefl _)
        · exact own.apart found shared }
  others y other := list_put_other other
  grows := grows_put s x t names
  kept old _ := set_put_old old
  held old found := by
    rcases of_find?_put own.there found with ⟨rfl, -⟩ | ⟨-, found⟩
    · exact absurd old (Nat.lt_irrefl _)
    · exact found

theorem fill_works (own : s.Private x) (found : (s.sheet x).find? t = some r)
    (change : PrincipalSet → PrincipalSet) : Works x t s (s.fill r change) where
  own := own.kept (Nat.le_refl _) own.unknown rfl fun _ => id
  others y other := list_fill_other fun u shared => other (own.apart found shared).1
  grows := by rw [fill, Array.size_modify]
  kept _ free := set_fill_other fun same => free (same ▸ found)
  held _ := id

/-- What is done to the set of a private list is done to its names for the action. -/
theorem list_fill_self (own : s.Private x) (found : (s.sheet x).find? t = some r)
    (change : PrincipalSet → PrincipalSet) :
    (s.fill r change).list x = (s.list x).modify t change := by
  refine eq_of_actions ?_ fun u => ?_
  · have mentioned : t ∈ (s.list x).actions := by
      rw [actions_list]
      exact Assoc.mem_keys_iff.mpr ⟨r, found⟩
    rw [actions_modify, if_pos mentioned, actions_list, actions_list, sheet_fill]
  · rw [principals_modify, principals_list, principals_list, principals_list, sheet_fill]
    by_cases same : u = t
    · rw [if_pos same, same, found, Option.map_some, Option.map_some,
        set_fill_self (s.held_sheet found)]
      rfl
    · rw [if_neg same]
      cases other : (s.sheet x).find? u with
      | none => rfl
      | some q =>
        have apart : q ≠ r := by
          rintro rfl
          exact same (own.apart found other).2
        rw [Option.map_some, Option.map_some, set_fill_other apart]

/-- The set for an action is there, or an empty one is made. -/
theorem ensure_cases (s : Store) (x : Ref) (t : AclType) :
    (∃ r, (s.sheet x).find? t = some r ∧ s.ensure x t = (r, s)) ∨
      (s.sheet x).find? t = none ∧ s.ensure x t = (s.sets.size, s.put x t ∅) := by
  unfold ensure
  cases found : (s.sheet x).find? t with
  | some r => exact .inl ⟨r, rfl, rfl⟩
  | none => exact .inr ⟨rfl, rfl⟩

theorem find?_put_self (there : x < s.lists.size) :
    ((s.put x t names).sheet x).find? t = some s.sets.size := by
  rw [find?_put there, if_pos rfl]

theorem alter_works (own : s.Private x) (t : AclType) (change : PrincipalSet → PrincipalSet) :
    Works x t s (s.alter x t change) := by
  rw [alter]
  rcases ensure_cases s x t with ⟨q, found, same⟩ | ⟨-, same⟩
  · rw [same]
    exact fill_works own found _
  · rw [same]
    have made := put_works own t ∅
    exact made.trans (fill_works made.own (find?_put_self own.there) _)

/-- It makes no difference whether an empty set was there. -/
theorem modify_put_empty {a : AllowList} (unmentioned : a.principals t = ∅)
    (change : PrincipalSet → PrincipalSet) : (a.put t ∅).modify t change = a.modify t change := by
  refine eq_of_actions ?_ fun u => ?_
  · rw [actions_modify, AllowList.put, actions_modify, actions_modify]
    split
    · rfl
    · rw [if_pos (List.mem_append_right _ List.mem_cons_self)]
  · rw [principals_modify, principals_modify, principals_put, principals_put,
      if_pos rfl, unmentioned]
    split <;> rfl

theorem list_alter (own : s.Private x) (t : AclType) (change : PrincipalSet → PrincipalSet) :
    (s.alter x t change).list x = (s.list x).modify t change := by
  rw [alter]
  rcases ensure_cases s x t with ⟨q, found, same⟩ | ⟨none, same⟩
  · rw [same]
    exact list_fill_self own found _
  · rw [same]
    dsimp only
    rw [list_fill_self (put_works own t ∅).own (find?_put_self own.there), list_put own.there]
    refine modify_put_empty ?_ _
    rw [principals_list, none]
    rfl

/-- Entries are merged one by one, as long as the list that is worked on holds none of their sets
for another action. -/
theorem list_foldl_mergeEntry {es : List (AclType × Ref)} (own : s.Private x)
    (distinct : (es.map Prod.fst).Nodup) (there : ∀ e ∈ es, e.2 < s.sets.size)
    (free : ∀ e ∈ es, ∀ u, (s.sheet x).find? u = some e.2 → u = e.1) :
    (es.foldl (·.mergeEntry x ·) s).Private x ∧
    (es.foldl (·.mergeEntry x ·) s).list x =
      (s.list x).mergeEntries (es.map fun e => (e.1, s.set e.2)) ∧
    ∀ y, y ≠ x → (es.foldl (·.mergeEntry x ·) s).list y = s.list y := by
  induction es generalizing s with
  | nil => exact ⟨own, rfl, fun _ _ => rfl⟩
  | cons e rest ih =>
    obtain ⟨t, r⟩ := e
    obtain ⟨fresh, distinct⟩ := List.nodup_cons.mp distinct
    have works : Works x t s (s.mergeEntry x (t, r)) := alter_works own t _
    have later : ∀ e ∈ rest, e.2 < s.sets.size :=
      fun e listed => there e (List.mem_cons_of_mem _ listed)
    have still : ∀ e ∈ rest, (s.mergeEntry x (t, r)).set e.2 = s.set e.2 := by
      intro e listed
      refine works.kept (later e listed) fun shared => ?_
      exact fresh (List.mem_map.mpr ⟨e, listed,
        (free e (List.mem_cons_of_mem _ listed) t shared).symm⟩)
    obtain ⟨owned, value, others⟩ := ih works.own distinct
      (fun e listed => Nat.lt_of_lt_of_le (later e listed) works.grows)
      fun e listed u shared =>
        free e (List.mem_cons_of_mem _ listed) u (works.held (later e listed) shared)
    refine ⟨owned, ?_, fun y other => (others y other).trans (works.others y other)⟩
    rw [List.foldl_cons, value,
      List.map_congr_left fun e listed => by rw [still e listed], mergeEntry,
      list_alter own]
    rfl

/-- **What merging into a private list comes to.** -/
theorem list_merge (own : s.Private x) (source : Ref) :
    (s.merge x source).Private x ∧ (s.merge x source).list x = (s.list x).merge (s.list source) ∧
      ∀ y, y ≠ x → (s.merge x source).list y = s.list y := by
  have held : ∀ e ∈ (s.sheet source).entries, (s.sheet source).find? e.1 = some e.2 :=
    fun e listed =>
      Assoc.lookup_of_mem (s.sheet source).distinct listed
  exact list_foldl_mergeEntry own (s.sheet source).distinct
    (fun e listed => s.held_sheet (held e listed))
    fun e listed u shared => (own.apart shared (held e listed)).2.symm

/-! ## Copies -/

theorem list_foldl_put (own : s.Private x) (es : List (AclType × PrincipalSet)) :
    (es.foldl (fun s e => s.put x e.1 e.2) s).Private x ∧
    (es.foldl (fun s e => s.put x e.1 e.2) s).list x =
      es.foldl (fun a e => a.put e.1 e.2) (s.list x) ∧
    ∀ y, y ≠ x → (es.foldl (fun s e => s.put x e.1 e.2) s).list y = s.list y := by
  induction es generalizing s with
  | nil => exact ⟨own, rfl, fun _ _ => rfl⟩
  | cons e rest ih =>
    have works := put_works own e.1 e.2
    obtain ⟨owned, value, others⟩ := ih works.own
    refine ⟨owned, ?_, fun y other => (others y other).trans (works.others y other)⟩
    rw [List.foldl_cons, value, list_put own.there]
    rfl

/-- A private list with this value was made, and all lists that there were are as they were. -/
structure Gains (s : Store) (a : AllowList) (made : Ref × Store) : Prop where
  own : made.2.Private made.1
  value : made.2.list made.1 = a
  new : s.lists.size ≤ made.1
  others : ∀ y, y ≠ made.1 → made.2.list y = s.list y
  spares : Spares [] s made.2

theorem new_gains (s : Store) : Gains s ∅ s.new :=
  ⟨private_new s, list_new s, Nat.le_refl _, fun y _ => list_new_old s y, new_spares s⟩

theorem place_gains (s : Store) (a : AllowList) : Gains s a (s.place a) := by
  obtain ⟨own, value, others⟩ := list_foldl_put (private_new s) a.entries
  have each : ∀ (s' : Store) (e : AclType × PrincipalSet),
      Spares [s.lists.size] s' (s'.put s.lists.size e.1 e.2) := fun s' e => put_spares s' _ e.1 e.2
  refine ⟨own, value.trans ?_, Nat.le_refl _,
    fun y other => (others y other).trans (list_new_old s y), ?_⟩
  · rw [list_new]
    exact ofEntries_entries a
  · exact (((new_spares s).mono (List.nil_subset _)).trans (.foldl each a.entries _)).of_new

/-- A copy is the value of the list, placed anew. -/
theorem copy_eq_place (s : Store) (x : Ref) : s.copy x = s.place (s.list x) := by
  have each : ∀ (es : List (AclType × Ref)) (s' : Store) (new : Ref),
      (∀ e ∈ es, e.2 < s'.sets.size ∧ s'.set e.2 = s.set e.2) →
      es.foldl (fun s e => s.put new e.1 (s.set e.2)) s' =
        (es.map fun e => (e.1, s.set e.2)).foldl (fun s e => s.put new e.1 e.2) s' := by
    intro es
    induction es with
    | nil => exact fun _ _ _ => rfl
    | cons e rest ih =>
      intro s' new same
      rw [List.foldl_cons, List.map_cons, List.foldl_cons, (same e List.mem_cons_self).2]
      refine ih _ new fun e' later => ?_
      obtain ⟨old, value⟩ := same e' (List.mem_cons_of_mem _ later)
      exact ⟨Nat.lt_of_lt_of_le old (grows_put s' new e.1 (s.set e.2)),
        (set_put_old old).trans value⟩
  have held : ∀ e ∈ (s.sheet x).entries, e.2 < s.sets.size := fun e listed =>
    s.held_sheet (Assoc.lookup_of_mem (s.sheet x).distinct listed)
  rw [copy, place]
  dsimp only
  rw [sheet_new, each (s.sheet x).entries s.new.2 s.new.1 fun e listed => ⟨held e listed, rfl⟩]
  rfl

theorem copy_gains (s : Store) (x : Ref) : Gains s (s.list x) (s.copy x) :=
  copy_eq_place s x ▸ place_gains s (s.list x)

/-- A copy that is handed out has the value of the list. -/
theorem list_give (s : Store) (x : Ref) : (s.give x).2.list (s.give x).1 = s.list x :=
  (list_tell _ _ _).trans (copy_gains s x).value

theorem give_there (s : Store) (x : Ref) : (s.give x).1 < (s.give x).2.lists.size :=
  Nat.lt_of_lt_of_le (copy_gains s x).own.there (tell_spares _ _).grows

theorem list_give_other (s : Store) (x : Ref) (old : y < s.lists.size) :
    (s.give x).2.list y = s.list y := by
  have copied := copy_gains s x
  exact (list_tell _ _ _).trans (copied.others y (Nat.ne_of_lt (Nat.lt_of_lt_of_le old copied.new)))

/-- Who knows of a list does not matter to what becomes of it. -/
theorem list_alter_congr (sets : s'.sets = s.sets) (lists : s'.lists = s.lists)
    (t : AclType) (change : PrincipalSet → PrincipalSet) :
    (s'.alter x t change).list y = (s.alter x t change).list y := by
  obtain ⟨_, _, _, _, _⟩ := s
  obtain ⟨_, _, _, _, _⟩ := s'
  cases sets
  cases lists
  unfold alter ensure sheet
  dsimp only
  split <;> rfl

/-- A copy that was handed out is changed as its value. -/
theorem list_alter_give (s : Store) (x : Ref) (t : AclType) (change : PrincipalSet → PrincipalSet) :
    ((s.give x).2.alter (s.give x).1 t change).list (s.give x).1 = (s.list x).modify t change := by
  have copied := copy_gains s x
  have same : (s.give x).2.sets = (s.copy x).2.sets ∧ (s.give x).2.lists = (s.copy x).2.lists := by
    unfold give tell
    dsimp only
    split <;> exact ⟨rfl, rfl⟩
  rw [list_alter_congr same.1 same.2]
  exact (list_alter copied.own t change).trans (by rw [copied.value])

/-- Whatever follows on a copy that was handed out, it was no private list. -/
theorem spares_of_given {s' : Store} {x : Ref} (rest : Spares [(s.give x).1] (s.give x).2 s') :
    Spares [] s s' := by
  have copied := copy_gains s x
  have given : Spares [(s.give x).1] s (s.give x).2 :=
    (copied.spares.mono (List.nil_subset _)).trans (tell_spares _ _)
  exact (given.trans rest).of_one fun own =>
    Nat.lt_irrefl _ (Nat.lt_of_lt_of_le own.there copied.new)

theorem give_spares (s : Store) (x : Ref) : Spares [] s (s.give x).2 :=
  spares_of_given (.refl _ _)

/-! ## From outside -/

theorem elim_spares {o : Option Ref} {work : Ref → Store}
    (spares : ∀ x, o = some x → Spares [] s (work x)) : Spares [] s (o.elim s work) := by
  cases o with
  | none => exact .refl _ s
  | some x => exact spares x rfl

/-- **Whatever is done from outside spares all private lists.** -/
theorem edit_spares (s : Store) (e : Edit) : Spares [] s (s.edit e) := by
  have hidden : ∀ {i x : Ref}, s.known[i]? = some x → ¬ s.Private x :=
    fun named own => own.unknown (List.mem_of_getElem? named)
  -- no private list holds a set of a known one
  have free : ∀ {i x : Ref} {t : AclType} {r : Ref}, s.known[i]? = some x →
    (s.sheet x).find? t = some r →
      ∀ {y}, s.Private y → ∀ u, (s.sheet y).find? u ≠ some r := by
    intro i x t r named found y own u shared
    exact hidden named ((own.apart shared found).1 ▸ own)
  cases e with
  | new => exact (((new_spares s).mono (List.nil_subset _)).trans (tell_spares _ _)).of_new
  | copy i => exact elim_spares fun x _ => give_spares s x
  | merge i j =>
    exact elim_spares fun x named => elim_spares fun y _ =>
      (merge_spares s x y).of_one (hidden named)
  | put i t names =>
    exact elim_spares fun x named => (put_spares s x t names).of_one (hidden named)
  | share i t j u =>
    refine elim_spares fun x named => elim_spares fun y source => ?_
    split
    · next r found =>
      exact (share_spares _ fun own _ => free source found own).of_one (hidden named)
    · exact .refl _ s
  | erase i t => exact elim_spares fun x named => (erase_spares s x t).of_one (hidden named)
  | alter i t change =>
    exact elim_spares fun x named => (alter_spares s x t change).of_one (hidden named)

end DagAccess.AllowList.Store
