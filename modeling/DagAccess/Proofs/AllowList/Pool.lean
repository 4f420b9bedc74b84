import DagAccess.AllowList.Pool
import DagAccess.Proofs.AllowList.Store

/-!
# Named lists do not share

In a pool that steps lead to, each name has a list of its own, which holds sets of its own
(`after_owned`): lists are placed and copied with new sets. So merging changes the list that is
merged into, to what merging values gives, and no other one (`find_merge`).
-/

namespace DagAccess.AllowList.Pool

variable {p : Pool} {id other : String}

/-- Each name has a private list, which has no other name. -/
structure Owned (p : Pool) : Prop where
  own : ∀ {id x}, p.names.lookup id = some x → p.store.Private x
  alone : ∀ {id other x}, p.names.lookup id = some x → p.names.lookup other = some x → other = id

/-- The lists with names stay as they are, but for those with these numbers. -/
theorem Owned.of_spares {s : Store} {but : List Ref} (owned : p.Owned)
    (spares : Store.Spares but p.store s) (rest : ∀ x ∈ but, s.Private x) :
    Owned { p with store := s } where
  own {id x} named := by
    by_cases listed : x ∈ but
    · exact rest x listed
    · exact (spares.spared (owned.own named) listed).1
  alone := owned.alone

theorem find_eq {x : Ref} (named : p.names.lookup id = some x) : p.find id = p.store.list x := by
  rw [find, named]
  rfl

theorem lookup_name (p : Pool) (id other : String) (made : Ref × Store) :
    (p.name id made).names.lookup other = if other = id then some made.1
      else p.names.lookup other := by
  rw [name, Assoc.lookup_put]
  by_cases same : other = id <;> simp [same]

/-- A name may be given to a list that is new. -/
theorem Owned.name {made : Ref × Store} {a : AllowList} (owned : p.Owned)
    (gains : p.store.Gains a made) (id : String) : (p.name id made).Owned := by
  have older : ∀ {other}, p.names.lookup other ≠ some made.1 := fun named =>
    Nat.lt_irrefl _ (Nat.lt_of_lt_of_le (owned.own named).there gains.new)
  refine ⟨fun {other x} named => ?_, fun {a b x} first second => ?_⟩
  · rw [lookup_name] at named
    split at named
    · exact Option.some.inj named ▸ gains.own
    · exact (gains.spares.spared (owned.own named) List.not_mem_nil).1
  · rw [lookup_name] at first second
    split at first <;> split at second
    · next here there => rw [here, there]
    · exact absurd (first ▸ second) older
    · exact absurd (second ▸ first) older
    · exact owned.alone first second

theorem find_name (owned : p.Owned) {made : Ref × Store} {a : AllowList}
    (gains : p.store.Gains a made) (different : other ≠ id) :
    (p.name id made).find other = p.find other := by
  rw [find, lookup_name, if_neg different, find]
  cases named : p.names.lookup other with
  | none => rfl
  | some x => exact (gains.spares.spared (owned.own named) List.not_mem_nil).2

/-- What becomes of a pool when a name is looked for that may have to be given. -/
structure Ensured (p : Pool) (id : String) (x : Ref) (q : Pool) : Prop where
  owned : q.Owned
  named : q.names.lookup id = some x
  names : ∀ {other y}, p.names.lookup other = some y → q.names.lookup other = some y
  same : ∀ other, q.find other = p.find other

theorem ensure_spec (owned : p.Owned) (id : String) :
    Ensured p id (p.ensure id).1 (p.ensure id).2 := by
  unfold ensure
  cases named : p.names.lookup id with
  | some x => exact ⟨owned, named, fun there => there, fun _ => rfl⟩
  | none =>
    have gains := Store.new_gains p.store
    refine ⟨owned.name gains id, ?_, ?_, fun other => ?_⟩
    · rw [lookup_name, if_pos rfl]
    · intro other y there
      rw [lookup_name, if_neg, there]
      rintro rfl
      rw [named] at there
      cases there
    · by_cases same : other = id
      · -- a name that was not given stood for the empty list before
        subst same
        rw [find, lookup_name, if_pos rfl, find, named]
        exact gains.value
      · exact find_name owned gains same

theorem alter_owned (owned : p.Owned) (id : String) (t : AclType)
    (change : PrincipalSet → PrincipalSet) : (p.alter id t change).Owned := by
  have found := ensure_spec owned id
  refine found.owned.of_spares (Store.alter_spares _ _ t change) fun x there => ?_
  rw [List.mem_singleton.mp there]
  exact (Store.alter_works (found.owned.own found.named) t change).own

/-- **Each step leaves each name a list of its own.** -/
theorem step_owned (owned : p.Owned) (x : Step) : (p.step x).Owned := by
  cases x with
  | new id entries =>
    exact owned.name (Store.place_gains _ _) id
  | copy id target =>
    exact (ensure_spec owned id).owned.name (Store.copy_gains _ _) target
  | merge id source =>
    have first := ensure_spec owned source
    have second := ensure_spec first.owned id
    refine second.owned.of_spares (Store.merge_spares _ _ _) fun x there => ?_
    rw [List.mem_singleton.mp there]
    exact (Store.list_merge (second.owned.own second.named) _).1
  | add id t name => exact alter_owned owned id t _
  | discard id t name => exact alter_owned owned id t _

/-- The pool after steps. -/
def after (p : Pool) (steps : List Step) : Pool :=
  steps.foldl step p

theorem after_owned (steps : List Step) : (after {} steps).Owned := by
  have each : ∀ (p : Pool), p.Owned → (p.after steps).Owned := by
    induction steps with
    | nil => exact fun _ owned => owned
    | cons x rest ih => exact fun p owned => ih (p.step x) (step_owned owned x)
  exact each {} ⟨nofun, nofun⟩

/-- Merging changes the list that is merged into, and no other one. -/
theorem find_merge (owned : p.Owned) (id source other : String) :
    (p.step (.merge id source)).find id = (p.find id).merge (p.find source) ∧
      (other ≠ id → (p.step (.merge id source)).find other = p.find other) := by
  have first := ensure_spec owned source
  have second := ensure_spec first.owned id
  obtain ⟨-, value, others⟩ := Store.list_merge (second.owned.own second.named) (p.ensure source).1
  have same : ∀ name, ((p.ensure source).2.ensure id).2.find name = p.find name := fun name =>
    (second.same name).trans (first.same name)
  refine ⟨?_, fun different => ?_⟩
  · rw [← same id, ← same source, find_eq second.named, find_eq (second.names first.named), ← value]
    exact find_eq second.named
  · rw [← same other, find, find]
    cases named : ((p.ensure source).2.ensure id).2.names.lookup other with
    | none =>
      have still : (p.step (.merge id source)).names.lookup other = none := named
      rw [still]
      rfl
    | some z =>
      have still : (p.step (.merge id source)).names.lookup other = some z := named
      rw [still]
      refine others z fun here => different ?_
      exact second.owned.alone second.named (here ▸ named)

end DagAccess.AllowList.Pool
