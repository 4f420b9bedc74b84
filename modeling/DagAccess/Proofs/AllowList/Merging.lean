import DagAccess.Proofs.AllowList
import DagAccess.Proofs.Principal.Finite

/-!
# Merging allow-lists

An allow-list is determined by the order of its actions and the names for each of them
(`eq_of_actions`). Merging continues both kinds of lists in one way, `followedBy`: what is there
stays in its place, and what is new comes behind it in its order (`merge_iff_merged`). So the laws
of merging are those of `followedBy`: nothing changes when something is merged again
(`merge_merge_self`, `merge_self`), merging is associative (`merge_assoc`), and the order of the
lists matters for the order of their items only (`sameNames_merge`).
-/

namespace DagAccess

/-! ## Lists behind each other -/

section followedBy

variable {α : Type} [DecidableEq α] {xs ys zs : List α} {x : α}

/-- The first list, and behind it the items of the second one that it does not hold. -/
def followedBy (xs ys : List α) : List α :=
  xs ++ ys.filter (· ∉ xs)

theorem mem_followedBy : x ∈ followedBy xs ys ↔ x ∈ xs ∨ x ∈ ys := by
  by_cases there : x ∈ xs <;> simp [followedBy, there]

theorem followedBy_of_subset (included : ∀ y ∈ ys, y ∈ xs) : followedBy xs ys = xs := by
  have nothing : ys.filter (· ∉ xs) = [] :=
    List.filter_eq_nil_iff.mpr fun y there => by simpa using included y there
  rw [followedBy, nothing, List.append_nil]

theorem followedBy_assoc (xs ys zs : List α) :
    followedBy (followedBy xs ys) zs = followedBy xs (followedBy ys zs) := by
  have new : zs.filter (· ∉ followedBy xs ys) = (zs.filter (· ∉ ys)).filter (· ∉ xs) := by
    rw [List.filter_filter]
    refine List.filter_congr fun z _ => ?_
    simp [mem_followedBy]
  rw [followedBy, new, followedBy, followedBy, followedBy, List.filter_append, List.append_assoc]

/-- A new item is put behind the others before the rest follows. -/
theorem followedBy_cons (fresh : x ∉ ys) :
    followedBy (if x ∈ xs then xs else xs ++ [x]) ys = followedBy xs (x :: ys) := by
  by_cases there : x ∈ xs
  · rw [if_pos there, followedBy, followedBy, List.filter_cons_of_neg (by simp [there])]
  · have rest : ys.filter (· ∉ xs ++ [x]) = ys.filter (· ∉ xs) := by
      refine List.filter_congr fun y later => ?_
      have other : y ≠ x := fun same => fresh (same ▸ later)
      simp [other]
    rw [if_neg there, followedBy, followedBy, rest, List.filter_cons_of_pos (by simp [there]),
      List.append_assoc, List.singleton_append]

end followedBy

theorem PrincipalSet.toList_union (s t : PrincipalSet) :
    (s.union t).toList = followedBy s.toList t.toList := by
  rw [union, toList_insertAll_eq, eraseDups_toList]
  rfl

namespace AllowList

variable {a b c : AllowList} {t : AclType}

/-! ## Actions and names -/

/-- The actions that are mentioned, in the order in which they were first mentioned. -/
def actions (a : AllowList) : List AclType :=
  a.entries.map Prod.fst

/-- The entries are the actions in their order with their names. -/
theorem entries_eq_map (a : AllowList) :
    a.entries = a.actions.map fun t => (t, a.principals t) := by
  have each : ∀ e ∈ a.entries, (e.1, a.principals e.1) = e := by
    intro e there
    rw [principals, find?, Assoc.lookup_of_mem a.distinct there]
    rfl
  rw [actions, List.map_map]
  exact ((List.map_congr_left each).trans (List.map_id _)).symm

/-- Allow-lists are equal if they mention the same actions in one order, with the same names. -/
theorem eq_of_actions (order : a.actions = b.actions)
    (names : ∀ t, a.principals t = b.principals t) : a = b := by
  have entries : a.entries = b.entries := by
    rw [entries_eq_map, entries_eq_map, order]
    exact List.map_congr_left fun t _ => by rw [names t]
  obtain ⟨es, _⟩ := a
  obtain ⟨fs, _⟩ := b
  cases entries
  rfl

/-! ## Merging -/

theorem keys_alter (t : AclType) (f : PrincipalSet → PrincipalSet)
    (es : List (AclType × PrincipalSet)) :
    (alter t f es).map Prod.fst =
      if t ∈ es.map Prod.fst then es.map Prod.fst else es.map Prod.fst ++ [t] := by
  induction es with
  | nil => rfl
  | cons e rest ih =>
    obtain ⟨u, s⟩ := e
    rw [alter]
    by_cases here : u = t
    · rw [if_pos here, here]
      exact (if_pos List.mem_cons_self).symm
    · rw [if_neg here, List.map_cons, ih, List.map_cons]
      have passed : t ≠ u := Ne.symm here
      by_cases there : t ∈ rest.map Prod.fst
      · rw [if_pos there, if_pos (List.mem_cons_of_mem u there)]
      · have missing : t ∉ u :: rest.map Prod.fst := fun either =>
          (List.mem_cons.mp either).elim passed there
        rw [if_neg there, if_neg missing, List.cons_append]

theorem actions_modify (a : AllowList) (t : AclType) (f : PrincipalSet → PrincipalSet) :
    (a.modify t f).actions = if t ∈ a.actions then a.actions else a.actions ++ [t] :=
  keys_alter t f a.entries

/-- Each new action comes behind those that were there. -/
theorem actions_foldl_modify (change : PrincipalSet → PrincipalSet → PrincipalSet) (a : AllowList)
    {es : List (AclType × PrincipalSet)} (distinct : (es.map Prod.fst).Nodup) :
    (es.foldl (fun a e => a.modify e.1 (change e.2)) a).actions =
      followedBy a.actions (es.map Prod.fst) := by
  induction es generalizing a with
  | nil => exact (List.append_nil _).symm
  | cons e rest ih =>
    obtain ⟨fresh, distinct⟩ := List.nodup_cons.mp distinct
    rw [List.foldl_cons, ih _ distinct, actions_modify, followedBy_cons fresh]
    rfl

theorem actions_merge (a b : AllowList) : (a.merge b).actions = followedBy a.actions b.actions :=
  actions_foldl_modify (fun s names => names.union s) a b.distinct

/-- A list is what comes of assigning its sets one after the other. -/
theorem ofEntries_entries (a : AllowList) : ofEntries a.entries = a := by
  refine eq_of_actions ?_ fun t => ?_
  · have all : ∀ es : List AclType, es.filter (· ∉ ([] : List AclType)) = es := by simp
    exact (actions_foldl_modify (fun s _ => s) ∅ a.distinct).trans (all a.actions)
  · have names : a.principals t = (a.entries.lookup t).getD ∅ := rfl
    refine (principals_foldl_modify (fun s _ => s) ∅ a.distinct t).trans ?_
    rw [names]
    cases a.entries.lookup t <;> rfl

theorem toList_principals_merge (a b : AllowList) (t : AclType) :
    ((a.merge b).principals t).toList =
      followedBy (a.principals t).toList (b.principals t).toList := by
  rw [principals_merge, PrincipalSet.toList_union]

theorem mem_actions_merge : t ∈ (a.merge b).actions ↔ t ∈ a.actions ∨ t ∈ b.actions := by
  rw [actions_merge, mem_followedBy]

theorem mem_principals_merge {name : String} :
    name ∈ (a.merge b).principals t ↔ name ∈ a.principals t ∨ name ∈ b.principals t := by
  rw [principals_merge, PrincipalSet.mem_union]

/-- What merging the second list into the first one has to give: the actions of the first one and
behind them the new ones of the second, and for each action the names in the same way. -/
structure Merged (a b c : AllowList) : Prop where
  actions : c.actions = a.actions ++ b.actions.filter (· ∉ a.actions)
  names : ∀ t, (c.principals t).toList =
    (a.principals t).toList ++ (b.principals t).toList.filter (· ∉ (a.principals t).toList)

/-- Merging gives that, and nothing else is that. -/
theorem merge_iff_merged : c = a.merge b ↔ Merged a b c := by
  have merged : Merged a b (a.merge b) := ⟨actions_merge a b, toList_principals_merge a b⟩
  constructor
  · rintro rfl
    exact merged
  · intro other
    refine eq_of_actions (other.actions.trans merged.actions.symm) fun t => ?_
    exact PrincipalSet.eq_of_toList ((other.names t).trans (merged.names t).symm)

/-! ## Laws -/

/-- Nothing changes if all that is merged is there. -/
theorem merge_of_subset (actions : ∀ t ∈ b.actions, t ∈ a.actions)
    (names : ∀ t, ∀ name ∈ b.principals t, name ∈ a.principals t) : a.merge b = a := by
  refine eq_of_actions ?_ fun t => PrincipalSet.eq_of_toList ?_
  · rw [actions_merge, followedBy_of_subset actions]
  · rw [toList_principals_merge, followedBy_of_subset (names t)]

theorem merge_self (a : AllowList) : a.merge a = a :=
  merge_of_subset (fun _ there => there) fun _ _ there => there

/-- A list that was merged is not merged again. -/
theorem merge_merge_self (a b : AllowList) : (a.merge b).merge b = a.merge b := by
  refine merge_of_subset (fun t there => ?_) fun t name there => ?_
  · exact mem_actions_merge.mpr (.inr there)
  · exact mem_principals_merge.mpr (.inr there)

theorem merge_assoc (a b c : AllowList) : (a.merge b).merge c = a.merge (b.merge c) := by
  refine eq_of_actions ?_ fun t => PrincipalSet.eq_of_toList ?_
  · simp only [actions_merge, followedBy_assoc]
  · simp only [toList_principals_merge, followedBy_assoc]

/-- The same actions are mentioned, with the same names for each, perhaps in another order. -/
structure SameNames (a b : AllowList) : Prop where
  actions : a.actions.Perm b.actions
  names : ∀ t, (a.principals t).toList.Perm (b.principals t).toList

/-- As nothing is mentioned twice, it is enough that the same things are mentioned. -/
theorem sameNames_of_mem (actions : ∀ t, t ∈ a.actions ↔ t ∈ b.actions)
    (names : ∀ t name, name ∈ a.principals t ↔ name ∈ b.principals t) : SameNames a b where
  actions := (List.perm_ext_iff_of_nodup a.distinct b.distinct).mpr actions
  names t :=
    (List.perm_ext_iff_of_nodup (a.principals t).nodup (b.principals t).nodup).mpr (names t)

theorem SameNames.refl (a : AllowList) : SameNames a a :=
  ⟨.refl _, fun _ => .refl _⟩

theorem SameNames.mem_iff (same : SameNames a b) {name : String} :
    name ∈ a.principals t ↔ name ∈ b.principals t :=
  (same.names t).mem_iff

/-- Which of two lists is merged into the other one matters for the order only. -/
theorem sameNames_merge (a b : AllowList) : SameNames (a.merge b) (b.merge a) := by
  refine sameNames_of_mem (fun t => ?_) fun t name => ?_
  · rw [mem_actions_merge, mem_actions_merge]
    exact or_comm
  · rw [mem_principals_merge, mem_principals_merge]
    exact or_comm

/-- So does the order in which two lists are merged into a third one. -/
theorem sameNames_merge_merge (a b c : AllowList) :
    SameNames ((a.merge b).merge c) ((a.merge c).merge b) := by
  refine sameNames_of_mem (fun t => ?_) fun t name => ?_
  · simp only [mem_actions_merge]
    exact or_right_comm
  · simp only [mem_principals_merge]
    exact or_right_comm

end AllowList

end DagAccess
