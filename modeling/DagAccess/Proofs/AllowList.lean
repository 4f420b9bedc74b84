import DagAccess.AllowList
import DagAccess.Assoc
import DagAccess.Proofs.Principal

/-!
# What allow-lists allow

The names that an allow-list holds for an action, after each operation: only the action that is
changed has other names (`principals_modify`), and merging unites the names action by action
(`principals_merge`). What holds of all entries of two lists holds of all entries of the merged one,
if uniting keeps it (`All.merge`).
-/

namespace DagAccess.AllowList

theorem lookup_cons (u t : AclType) (s : PrincipalSet) (es : List (AclType × PrincipalSet)) :
    ((u, s) :: es).lookup t = if t = u then some s else es.lookup t := by
  by_cases h : t = u
  · simp [h]
  · simp [List.lookup_cons, h, beq_false_of_ne h]

theorem lookup_alter (t u : AclType) (f : PrincipalSet → PrincipalSet)
    (es : List (AclType × PrincipalSet)) :
    (alter t f es).lookup u = if u = t then some (f ((es.lookup t).getD ∅)) else es.lookup u := by
  induction es with
  | nil => simp [alter, lookup_cons]
  | cons e rest ih =>
    obtain ⟨v, s⟩ := e
    by_cases same : v = t
    · subst same
      by_cases h : u = v <;> simp [alter, lookup_cons, h]
    · have other : t ≠ v := Ne.symm same
      by_cases h : u = v
      · subst h
        simp [alter, same]
      · simp [alter, lookup_cons, same, other, h, ih]

/-- A change for one action leaves the names for all others. -/
theorem principals_modify (a : AllowList) (t u : AclType) (f : PrincipalSet → PrincipalSet) :
    (a.modify t f).principals u = if u = t then f (a.principals t) else a.principals u := by
  simp only [principals, find?, modify, lookup_alter]
  split <;> rfl

theorem principals_put (a : AllowList) (t u : AclType) (s : PrincipalSet) :
    (a.put t s).principals u = if u = t then s else a.principals u :=
  principals_modify a t u fun _ => s

/-- Where an action has no names yet, it makes no difference that an empty set is not put there. -/
theorem principals_put_unless_empty {a : AllowList} {t : AclType} (fresh : a.principals t = ∅)
    (s : PrincipalSet) (u : AclType) :
    (if s.isEmpty then a else a.put t s).principals u = if u = t then s else a.principals u := by
  by_cases empty : s.isEmpty = true
  · rw [if_pos empty]
    split
    · next same => rw [same, fresh, PrincipalSet.eq_empty_of_isEmpty empty]
    · rfl
  · rw [if_neg empty, principals_put]

/-- Where no action is mentioned twice, each entry changes the names that were there at first. -/
theorem principals_foldl_modify (change : PrincipalSet → PrincipalSet → PrincipalSet)
    (a : AllowList) {es : List (AclType × PrincipalSet)} (distinct : (es.map Prod.fst).Nodup)
    (t : AclType) :
    (es.foldl (fun a e => a.modify e.1 (change e.2)) a).principals t =
      (es.lookup t).elim (a.principals t) fun s => change s (a.principals t) := by
  induction es generalizing a with
  | nil => rfl
  | cons e rest ih =>
    obtain ⟨u, s⟩ := e
    obtain ⟨fresh, distinct⟩ := List.nodup_cons.mp distinct
    rw [List.foldl_cons, ih _ distinct, principals_modify, lookup_cons]
    by_cases h : t = u
    · -- the action is not mentioned again
      subst h
      have unmentioned : rest.lookup t = none := by
        rw [List.lookup_eq_none_iff]
        intro e mentioned
        have other : t ≠ e.1 := fun same =>
          fresh (List.mem_map.mpr ⟨e, mentioned, same.symm⟩)
        simpa using other
      simp [unmentioned]
    · simp [h]

/-- Merging unites the names for each action. -/
theorem principals_merge (a b : AllowList) (t : AclType) :
    (a.merge b).principals t = (a.principals t).union (b.principals t) := by
  rw [merge, mergeEntries,
    principals_foldl_modify (fun s names => names.union s) a b.distinct, principals,
    principals, find?, find?]
  cases b.entries.lookup t <;> rfl

/-! ## Entries -/

/-- Every entry has the property. -/
def All (Q : AclType → PrincipalSet → Prop) (a : AllowList) : Prop :=
  ∀ e ∈ a.entries, Q e.1 e.2

theorem mem_alter {t : AclType} {f : PrincipalSet → PrincipalSet}
    {es : List (AclType × PrincipalSet)} {e : AclType × PrincipalSet} (h : e ∈ alter t f es) :
    e ∈ es ∨ ∃ s, (s = ∅ ∨ (t, s) ∈ es) ∧ e = (t, f s) := by
  induction es with
  | nil => exact .inr ⟨∅, .inl rfl, List.mem_singleton.mp h⟩
  | cons first rest ih =>
    obtain ⟨u, s⟩ := first
    unfold alter at h
    by_cases same : u = t
    · subst same
      rw [if_pos rfl] at h
      rcases List.mem_cons.mp h with rfl | later
      · exact .inr ⟨s, .inr List.mem_cons_self, rfl⟩
      · exact .inl (List.mem_cons_of_mem _ later)
    · rw [if_neg same] at h
      rcases List.mem_cons.mp h with rfl | later
      · exact .inl List.mem_cons_self
      · rcases ih later with old | ⟨s', source, rfl⟩
        · exact .inl (List.mem_cons_of_mem _ old)
        · exact .inr ⟨s', source.imp_right (List.mem_cons_of_mem _), rfl⟩

namespace All

variable {Q R : AclType → PrincipalSet → Prop} {a b : AllowList}

theorem empty : All Q ∅ :=
  fun _ there => absurd there List.not_mem_nil

theorem mono (h : a.All Q) (weaker : ∀ t s, Q t s → R t s) : a.All R :=
  fun e there => weaker e.1 e.2 (h e there)

theorem modify (h : a.All Q) {t : AclType} {f : PrincipalSet → PrincipalSet}
    (changed : ∀ s, s = ∅ ∨ Q t s → Q t (f s)) : (a.modify t f).All Q := by
  intro e there
  rcases mem_alter there with old | ⟨s, source, rfl⟩
  · exact h e old
  · exact changed s (source.imp_right fun old => h (t, s) old)

theorem put (h : a.All Q) {t : AclType} {s : PrincipalSet} (holds : Q t s) : (a.put t s).All Q :=
  h.modify fun _ _ => holds

theorem mergeEntries (unites : ∀ t s s', s = ∅ ∨ Q t s → Q t s' → Q t (s.union s')) (h : a.All Q)
    {es : List (AclType × PrincipalSet)} (others : ∀ e ∈ es, Q e.1 e.2) :
    (a.mergeEntries es).All Q := by
  induction es generalizing a with
  | nil => exact h
  | cons e rest ih =>
    have first : (a.modify e.1 (·.union e.2)).All Q :=
      h.modify fun s old => unites e.1 s e.2 old (others e List.mem_cons_self)
    exact ih first fun e' later => others e' (List.mem_cons_of_mem e later)

theorem merge (unites : ∀ t s s', s = ∅ ∨ Q t s → Q t s' → Q t (s.union s')) (h : a.All Q)
    (other : b.All Q) : (a.merge b).All Q :=
  h.mergeEntries unites other

/-- An action that has names has an entry. -/
theorem of_mem_principals (h : a.All Q) {t : AclType} {name : String}
    (listed : name ∈ a.principals t) : Q t (a.principals t) := by
  rw [principals, find?] at listed ⊢
  cases found : a.entries.lookup t with
  | none =>
    rw [found] at listed
    exact absurd listed (PrincipalSet.not_mem_empty name)
  | some s => exact h (t, s) (Assoc.mem_of_lookup found)

end All

end DagAccess.AllowList
