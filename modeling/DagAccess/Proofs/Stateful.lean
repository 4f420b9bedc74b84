import Mathlib.Data.List.Forall2

/-!
# Computations with faults over a state

Operations in a world, the loading of settings and the configuring of loggers have one form: from a
state they come to an outcome and a state, and a fault keeps what was done before it. Each building
block of such a computation has an equation for its run. A `Frame` is a relation between states that
runs may be confined to. Every building block keeps confinement, so an operation is confined if the
changes are that it makes by itself. Lists whose items are answered one by one come first.
-/

namespace DagAccess

/-! ## Lists of answers -/

section answers

variable {α β : Type} {f : α → Option β} {as : List α} {bs : List β}

/-- Where every item is answered, the answers are those of the items in their order. -/
theorem map_of_mapM (answered : as.mapM f = some bs) : as.map f = bs.map some := by
  induction as generalizing bs with
  | nil =>
    obtain rfl := Option.some.inj answered
    rfl
  | cons a as ih =>
    rw [List.mapM_cons] at answered
    obtain ⟨b, first, answered⟩ := Option.bind_eq_some_iff.mp answered
    obtain ⟨rest, later, whole⟩ := Option.bind_eq_some_iff.mp answered
    obtain rfl := Option.some.inj whole
    rw [List.map_cons, List.map_cons, first, ih later]

theorem exists_of_mapM_eq_none (failed : as.mapM f = none) : ∃ a ∈ as, f a = none := by
  induction as with
  | nil => cases failed
  | cons a rest ih =>
    rw [List.mapM_cons] at failed
    cases first : f a with
    | none => exact ⟨a, List.mem_cons_self, first⟩
    | some b =>
      rw [first] at failed
      cases later : rest.mapM f with
      | none =>
        obtain ⟨c, listed, none⟩ := ih later
        exact ⟨c, List.mem_cons_of_mem a listed, none⟩
      | some bs =>
        rw [later] at failed
        cases failed

end answers

/-! ## Outcomes -/

section outcomes

variable {ε α β : Type} {as : List α}

theorem bind_eq_ok_iff {outcome : Except ε α} {next : α → Except ε β} {b : β} :
    (outcome >>= next) = .ok b ↔ ∃ a, outcome = .ok a ∧ next a = .ok b := by
  cases outcome with
  | error fault => exact iff_of_false nofun (fun answered => nomatch answered.choose_spec.1)
  | ok a =>
    exact ⟨fun answered => ⟨a, rfl, answered⟩,
      fun ⟨_, same, answered⟩ => Except.ok.inj same ▸ answered⟩

/-- A list is answered if and only if all its items are. -/
theorem exists_mapM_iff {f : α → Except ε β} :
    (∃ bs, as.mapM f = .ok bs) ↔ ∀ a ∈ as, ∃ b, f a = .ok b := by
  induction as with
  | nil => exact iff_of_true ⟨[], rfl⟩ nofun
  | cons a rest ih =>
    rw [List.mapM_cons, List.forall_mem_cons, ← ih]
    cases f a with
    | error fault =>
      exact iff_of_false (fun answered => nomatch answered) (fun answered => nomatch answered.1)
    | ok b =>
      cases rest.mapM f with
      | error fault =>
        exact iff_of_false (fun answered => nomatch answered) (fun answered => nomatch answered.2)
      | ok bs => exact iff_of_true ⟨b :: bs, rfl⟩ ⟨⟨b, rfl⟩, bs, rfl⟩

/-- Where all items are answered, the answers are those of the items in their order. -/
theorem forall₂_of_mapM {f : α → Except ε β} {bs : List β} (answered : as.mapM f = .ok bs) :
    List.Forall₂ (fun a b => f a = .ok b) as bs := by
  induction as generalizing bs with
  | nil =>
    cases answered
    exact .nil
  | cons a rest ih =>
    rw [List.mapM_cons] at answered
    obtain ⟨b, first, answered⟩ := bind_eq_ok_iff.mp answered
    obtain ⟨others, later, whole⟩ := bind_eq_ok_iff.mp answered
    cases whole
    exact .cons first (ih later)

theorem forM_eq_ok_iff {f : α → Except ε Unit} : as.forM f = .ok () ↔ ∀ a ∈ as, f a = .ok () := by
  induction as with
  | nil => exact iff_of_true rfl nofun
  | cons a rest ih =>
    rw [List.forM, List.forall_mem_cons]
    cases f a with
    | error fault => exact iff_of_false nofun nofun
    | ok _ => exact ih.trans (iff_and_self.mpr fun _ => rfl)

end outcomes

/-! ## Computations -/

/-- From a state to an outcome and a state. -/
abbrev Stateful (ε σ α : Type) := ExceptT ε (StateM σ) α

/-- What may become of a state, as a relation that steps can be chained by. -/
structure Frame (σ : Type) where
  rel : σ → σ → Prop
  refl : ∀ s, rel s s
  trans : ∀ {s t u}, rel s t → rel t u → rel s u

namespace Stateful

variable {ε σ α β : Type}

theorem exists_error {outcome : Except ε α} (failed : outcome.isOk = false) :
    ∃ e, outcome = .error e := by
  cases outcome with
  | ok a => cases failed
  | error e => exact ⟨e, rfl⟩

/-! ## Runs -/

@[simp]
theorem pure_apply (a : α) (s : σ) : (pure a : Stateful ε σ α) s = (.ok a, s) := rfl

@[simp]
theorem get_apply (s : σ) : (get : Stateful ε σ σ) s = (.ok s, s) := rfl

@[simp]
theorem modify_apply (f : σ → σ) (s : σ) : (modify f : Stateful ε σ Unit) s = (.ok (), f s) := rfl

@[simp]
theorem lift_apply (outcome : Except ε α) (s : σ) :
    (liftM outcome : Stateful ε σ α) s = (outcome, s) := rfl

/-- The second computation runs in the state that the first one leaves, unless that one ends in a
fault. -/
theorem bind_apply (act : Stateful ε σ α) (next : α → Stateful ε σ β) (s : σ) :
    (act >>= next) s = match act s with
      | (.ok a, after) => next a after
      | (.error e, after) => (.error e, after) := by
  simp only [bind, ExceptT.bind, ExceptT.mk, StateT.bind, ExceptT.bindCont]
  rcases act s with ⟨outcome, after⟩
  cases outcome <;> rfl

/-- What follows a fault does not run. -/
theorem bind_error {act : Stateful ε σ α} {s : σ} {e : ε} (failed : (act s).1 = .error e)
    (next : α → Stateful ε σ β) : ((act >>= next) s).1 = .error e := by
  rw [bind_apply]
  rcases run : act s with ⟨outcome, after⟩
  rw [run] at failed
  obtain rfl : outcome = .error e := failed
  rfl

/-- A sequence answers only if both computations do. -/
theorem of_bind_ok {act : Stateful ε σ α} {next : α → Stateful ε σ β} {s after : σ} {b : β}
    (run : (act >>= next) s = (.ok b, after)) :
    ∃ a middle, act s = (.ok a, middle) ∧ next a middle = (.ok b, after) := by
  rw [bind_apply] at run
  rcases first : act s with ⟨outcome, middle⟩
  rw [first] at run
  cases outcome with
  | ok a => exact ⟨a, middle, rfl, run⟩
  | error e => cases run

theorem map_apply (f : α → β) (act : Stateful ε σ α) (s : σ) :
    (f <$> act) s = ((act s).1.map f, (act s).2) := by
  simp only [Functor.map, ExceptT.map, ExceptT.mk, StateT.bind, bind]
  rcases act s with ⟨outcome, after⟩
  cases outcome <;> rfl

theorem adapt_apply {δ : Type} (f : ε → δ) (act : Stateful ε σ α) (s : σ) :
    ExceptT.adapt f act s = ((act s).1.mapError f, (act s).2) := rfl

theorem tryCatch_apply (act : Stateful ε σ α) (handle : ε → Stateful ε σ α) (s : σ) :
    (tryCatch act handle) s = match act s with
      | (.ok a, after) => (.ok a, after)
      | (.error e, after) => handle e after := by
  simp only [tryCatch, tryCatchThe, MonadExceptOf.tryCatch, ExceptT.tryCatch, ExceptT.mk,
    StateT.bind, bind]
  rcases act s with ⟨outcome, after⟩
  cases outcome <;> rfl

theorem ite_apply (c : Prop) [Decidable c] (act other : Stateful ε σ α) (s : σ) :
    (if c then act else other) s = if c then act s else other s := by
  split <;> rfl

/-- A computation over a list answers what pure answers to its elements come to, if each element is
answered so wherever the invariant holds, and the invariant goes on to hold. -/
theorem filterMapM_answers {I : σ → Prop} {act : α → Stateful ε σ (Option β)}
    {answer : α → Except ε (Option β)}
    (each : ∀ a s, I s → ∃ after, act a s = (answer a, after) ∧ I after) :
    ∀ (as : List α) {s : σ}, I s →
      ∃ after, as.filterMapM act s = (as.filterMapM answer, after) ∧ I after
  | [], s, holds => ⟨s, rfl, holds⟩
  | a :: as, s, holds => by
    obtain ⟨next, run, still⟩ := each a s holds
    obtain ⟨after, rest, kept⟩ := filterMapM_answers each as still
    rw [List.filterMapM_cons, List.filterMapM_cons, bind_apply, run]
    cases answer a with
    | error e => exact ⟨next, rfl, still⟩
    | ok b =>
      cases b with
      | none => exact ⟨after, rest, kept⟩
      | some b =>
        refine ⟨after, ?_, kept⟩
        simp only [bind_apply, rest]
        cases as.filterMapM answer <;> rfl

/-- Steps that come to outcomes without touching the state come to one outcome for a whole list. -/
theorem mapM_apply {act : α → Stateful ε σ β} {answer : α → Except ε β} {s : σ}
    (each : ∀ a, act a s = (answer a, s)) (as : List α) : as.mapM act s = (as.mapM answer, s) := by
  induction as with
  | nil => rfl
  | cons a as ih =>
    rw [List.mapM_cons, List.mapM_cons, bind_apply, each]
    cases answer a with
    | error e => rfl
    | ok b =>
      simp only [bind_apply, ih]
      cases as.mapM answer <;> rfl

/-! ## Confined runs -/

/-- Every run leads to a state that the frame allows. -/
def Confined (F : Frame σ) (act : Stateful ε σ α) : Prop :=
  ∀ s, F.rel s (act s).2

namespace Confined

variable {F : Frame σ}

theorem pure (a : α) : Confined F (pure a : Stateful ε σ α) := fun s => F.refl s

theorem throw_bind (e : ε) (next : α → Stateful ε σ β) :
    Confined F ((throw e : Stateful ε σ α) >>= next) :=
  fun s => F.refl s

theorem throw (e : ε) : Confined F (throw e : Stateful ε σ α) := fun s => F.refl s

theorem get : Confined F (get : Stateful ε σ σ) := fun s => F.refl s

theorem modify {f : σ → σ} (allowed : ∀ s, F.rel s (f s)) :
    Confined F (modify f : Stateful ε σ Unit) :=
  allowed

theorem bind {act : Stateful ε σ α} {next : α → Stateful ε σ β} (first : Confined F act)
    (later : ∀ a, Confined F (next a)) : Confined F (act >>= next) := by
  intro s
  have step := first s
  rw [bind_apply]
  rcases run : act s with ⟨outcome, after⟩
  rw [run] at step
  cases outcome with
  | ok a => exact F.trans step (later a after)
  | error e => exact step

theorem map {f : α → β} {act : Stateful ε σ α} (confined : Confined F act) :
    Confined F (f <$> act) := by
  intro s
  rw [map_apply]
  exact confined s

theorem ite {c : Prop} [Decidable c] {act other : Stateful ε σ α} (yes : c → Confined F act)
    (no : ¬ c → Confined F other) : Confined F (if c then act else other) := by
  split
  · next h => exact yes h
  · next h => exact no h

theorem forM {act : α → Stateful ε σ PUnit} (each : ∀ a, Confined F (act a)) :
    ∀ as : List α, Confined F (as.forM act)
  | [] => pure PUnit.unit
  | a :: as => bind (each a) fun _ => forM each as

theorem mapM {act : α → Stateful ε σ β} (each : ∀ a, Confined F (act a)) :
    ∀ as : List α, Confined F (as.mapM act)
  | [] => pure []
  | a :: as => by
    rw [List.mapM_cons]
    exact bind (each a) fun _ => bind (mapM each as) fun _ => pure _

theorem filterMapM {act : α → Stateful ε σ (Option β)} (each : ∀ a, Confined F (act a)) :
    ∀ as : List α, Confined F (as.filterMapM act)
  | [] => pure []
  | a :: as => by
    rw [List.filterMapM_cons]
    refine bind (each a) fun b => ?_
    cases b with
    | none => exact filterMapM each as
    | some b => exact bind (filterMapM each as) fun _ => pure _

end Confined

/-! ## Results of runs -/

/-- Runs from states with `I` answer so that `Q` holds, or end with a fault that satisfies `P`. -/
def Yields (I : σ → Prop) (act : Stateful ε σ α) (Q : α → σ → Prop) (P : ε → Prop) : Prop :=
  ∀ s, I s → match act s with
    | (.ok a, after) => Q a after
    | (.error e, _) => P e

namespace Yields

variable {I : σ → Prop} {P : ε → Prop}

theorem pure {a : α} {Q : α → σ → Prop} (holds : ∀ s, I s → Q a s) :
    Yields I (pure a : Stateful ε σ α) Q P :=
  holds

theorem throw {e : ε} {Q : α → σ → Prop} (fault : P e) : Yields I (throw e : Stateful ε σ α) Q P :=
  fun _ _ => fault

theorem get {Q : σ → σ → Prop} (holds : ∀ s, I s → Q s s) : Yields I (get : Stateful ε σ σ) Q P :=
  holds

theorem modify {f : σ → σ} {Q : PUnit → σ → Prop} (holds : ∀ s, I s → Q ⟨⟩ (f s)) :
    Yields I (modify f : Stateful ε σ PUnit) Q P :=
  holds

/-- A frame is an invariant where any fault will do. -/
theorem of_confined {F : Frame σ} {act : Stateful ε σ α} (confined : Confined F act)
    (any : ∀ e, P e) (start : σ) : Yields (F.rel start) act (fun _ => F.rel start) P := by
  intro s allowed
  have run := confined s
  rcases here : act s with ⟨outcome, after⟩
  rw [here] at run
  cases outcome with
  | ok a => exact F.trans allowed run
  | error e => exact any e

theorem weaken {J : σ → Prop} {act : Stateful ε σ α} {Q R : α → σ → Prop} {P' : ε → Prop}
    (yields : Yields I act Q P) (start : ∀ s, J s → I s) (answers : ∀ a s, Q a s → R a s)
    (faults : ∀ e, P e → P' e) : Yields J act R P' := by
  intro s holds
  have run := yields s (start s holds)
  rcases here : act s with ⟨outcome, after⟩
  rw [here] at run
  cases outcome with
  | ok a => exact answers a after run
  | error e => exact faults e run

theorem faults {act : Stateful ε σ α} {Q : α → σ → Prop} {P' : ε → Prop} (yields : Yields I act Q P)
    (weaker : ∀ e, P e → P' e) : Yields I act Q P' :=
  yields.weaken (fun _ holds => holds) (fun _ _ holds => holds) weaker

/-- What does not speak of the state can be taken out of the invariant. -/
theorem of_and {act : Stateful ε σ α} {Q : α → σ → Prop} {fact : Prop}
    (yields : fact → Yields I act Q P) : Yields (fun s => I s ∧ fact) act Q P :=
  fun s both => yields both.2 s both.1

theorem of_exists {ι : Sort _} {J : ι → σ → Prop} {act : Stateful ε σ α} {Q : α → σ → Prop}
    (yields : ∀ i, Yields (J i) act Q P) : Yields (fun s => ∃ i, J i s) act Q P :=
  fun s ⟨i, holds⟩ => yields i s holds

theorem bind {act : Stateful ε σ α} {next : α → Stateful ε σ β} {Q : α → σ → Prop}
    {R : β → σ → Prop} (first : Yields I act Q P) (later : ∀ a, Yields (Q a) (next a) R P) :
    Yields I (act >>= next) R P := by
  intro s holds
  have step := first s holds
  rw [bind_apply]
  rcases run : act s with ⟨outcome, after⟩
  rw [run] at step
  cases outcome with
  | ok a => exact later a after step
  | error e => exact step

theorem map {f : α → β} {act : Stateful ε σ α} {Q : β → σ → Prop}
    (yields : Yields I act (fun a => Q (f a)) P) : Yields I (f <$> act) Q P := by
  intro s holds
  have run := yields s holds
  rw [map_apply]
  rcases here : act s with ⟨outcome, after⟩
  rw [here] at run
  cases outcome with
  | ok a => exact run
  | error e => exact run

/-- What is answered in the end was answered from some state with the invariant. -/
theorem answered {act : Stateful ε σ α} {Q : α → σ → Prop} (yields : Yields I act Q P) :
    Yields I act (fun a after => Q a after ∧ ∃ s, I s ∧ (act s).1 = .ok a) P := by
  intro s holds
  have run := yields s holds
  rcases here : act s with ⟨outcome, after⟩
  rw [here] at run
  cases outcome with
  | ok a => exact ⟨run, s, holds, congrArg Prod.fst here⟩
  | error e => exact run

theorem mapM {act : α → Stateful ε σ β} :
    ∀ as : List α, (∀ a ∈ as, Yields I (act a) (fun _ => I) P) →
      Yields I (as.mapM act) (fun _ => I) P
  | [], _ => pure fun _ holds => holds
  | a :: as, each => by
    rw [List.mapM_cons]
    refine bind (each a List.mem_cons_self) fun _ => ?_
    refine bind (mapM as fun b there => each b (List.mem_cons_of_mem a there)) fun _ => ?_
    exact pure fun _ holds => holds

theorem filterMapM {act : α → Stateful ε σ (Option β)}
    (each : ∀ a, Yields I (act a) (fun _ => I) P) :
    ∀ as : List α, Yields I (as.filterMapM act) (fun _ => I) P
  | [] => pure fun _ holds => holds
  | a :: as => by
    rw [List.filterMapM_cons]
    refine bind (each a) fun b => ?_
    cases b with
    | none => exact filterMapM each as
    | some b => exact bind (filterMapM each as) fun _ => pure fun _ holds => holds

end Yields

end Stateful

end DagAccess
