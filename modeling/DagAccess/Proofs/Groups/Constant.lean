import DagAccess.Proofs.Groups.History
import Mathlib.Data.List.Basic
import Mathlib.Logic.Relation

/-!
# Providers that do not change their mind

A provider is `Constant` for a user if it gives one outcome however often and whenever it is asked.
What may happen before is a chain of `Turn`s: lookups of any users, and changes to anything but the
machine, the provider and those behind it, so the clock may go anywhere. A cache in front of a
constant provider `Mirrors` it: whatever it remembers of the user is the outcome. This is kept by
every turn and by every invalidation (`Mirrors.turns`, `Mirrors.invalidate`), so the cache is
constant as well (`Mirrors.constant`).
-/

namespace DagAccess.Groups

open Relation (ReflTransGen)

/-! ## Constant providers -/

/-- Something happens to a world with a provider in it. -/
inductive Turn (id : ProviderId) : World → World → Prop
  | asked (w : World) (user : String) : Turn id w (lookup id user w).2
  /-- The machine, the provider and those behind it stay as they are. -/
  | aside {w v : World} (host : v.host = w.host)
      (same : ∀ j ≤ id, v.providers[j]? = w.providers[j]?) : Turn id w v

/-- From now on the provider gives this outcome for the user. -/
def Constant (id : ProviderId) (user : String) (outcome : Except Fault PrincipalSet) (w : World) :
    Prop :=
  ∀ v, ReflTransGen (Turn id) w v → (lookup id user v).1 = outcome

variable {id inner : ProviderId} {lifetime : Int} {user : String}
  {outcome : Except Fault PrincipalSet} {w v : World}

theorem Turn.of_unlogged (same : v.unlogged = w.unlogged) : Turn id w v := by
  refine .aside (World.eq_host_of_unlogged same) fun j _ => ?_
  rw [World.eq_providers_of_unlogged same]

/-- To a provider behind a cache it makes no difference what the cache holds. -/
theorem Turn.alterCache (behind : inner < id) (w : World) (f : Cache → Cache) :
    Turn inner w (w.alterCache id f) := by
  refine .aside rfl fun j small => providers_alterCache_other ?_ f
  exact Nat.ne_of_gt (Nat.lt_of_le_of_lt small behind)

theorem Constant.answer (h : Constant id user outcome w) : (lookup id user w).1 = outcome :=
  h w .refl

theorem Constant.later (h : Constant id user outcome w) (turns : ReflTransGen (Turn id) w v) :
    Constant id user outcome v :=
  fun u more => h u (turns.trans more)

theorem Constant.turn (h : Constant id user outcome w) (turn : Turn id w v) :
    Constant id user outcome v :=
  h.later (.single turn)

/-- What a script has for its users stays if nobody has a second outcome. -/
theorem outcomes_next {s : Script} (single : ∀ e ∈ s.outcomes, e.2.length ≤ 1) (user : String) :
    (s.next user).2.outcomes = s.outcomes := by
  unfold Script.next
  split
  · rfl
  · rfl
  · rfl
  · next first rest more found =>
    have few := single _ (Assoc.mem_of_lookup found)
    cases rest with
    | nil => exact absurd rfl more
    | cons second others => simp at few

theorem next_congr {s s' : Script} (same : s'.outcomes = s.outcomes) (user : String) :
    (s'.next user).1 = (s.next user).1 := by
  unfold Script.next
  rw [same]
  split <;> rfl

/-- A script in which nobody has a second outcome is constant for every user. -/
theorem constant_script {s : Script} (kind : w.providers[id]? = some (.script s))
    (single : ∀ e ∈ s.outcomes, e.2.length ≤ 1) (user : String) :
    Constant id user (s.next user).1.result w := by
  intro v turns
  have goesOn : ∃ s', v.providers[id]? = some (.script s') ∧ s'.outcomes = s.outcomes := by
    induction turns with
    | refl => exact ⟨s, kind, rfl⟩
    | tail _ turn ih =>
      obtain ⟨s', kind', same⟩ := ih
      cases turn with
      | asked other =>
        have bound := (Array.getElem?_eq_some_iff.mp kind').1
        rw [lookup_script kind']
        refine ⟨_, Array.getElem?_setIfInBounds_self_of_lt bound, ?_⟩
        rw [outcomes_next (same ▸ single), same]
      | aside host still => exact ⟨s', (still id (Nat.le_refl id)).trans kind', same⟩
  obtain ⟨s', kind', same⟩ := goesOn
  rw [lookup_script kind', next_congr same]

/-- A table is constant for every user. -/
theorem constant_table {groups : List (String × PrincipalSet)}
    (kind : w.providers[id]? = some (.table groups)) (user : String) :
    Constant id user (.ok ((groups.lookup user).getD ∅)) w := by
  intro v turns
  have still : v.providers[id]? = some (.table groups) := by
    induction turns with
    | refl => exact kind
    | tail _ turn ih =>
      cases turn with
      | asked other => rw [lookup_table ih]; exact ih
      | aside host same => exact (same id (Nat.le_refl id)).trans ih
  rw [lookup_table still]

/-- Whatever a function has for some users, a provider can be constant that way. -/
theorem exists_constant (id : ProviderId) (groupsOf : String → Except Fault PrincipalSet)
    (users : List String) : ∃ w, ∀ user ∈ users, Constant id user (groupsOf user) w := by
  let s : Script := { name := "", outcomes := users.map fun user => (user, [⟨0, groupsOf user⟩]) }
  let w : World := { World.start {} 0 with providers := Array.replicate (id + 1) (.script s) }
  have kind : w.providers[id]? = some (.script s) := by simp [w]
  have single : ∀ e ∈ s.outcomes, e.2.length ≤ 1 := by
    intro e there
    obtain ⟨user, -, rfl⟩ := List.mem_map.mp there
    exact Nat.le_refl 1
  refine ⟨w, fun user named => ?_⟩
  have found : s.outcomes.lookup user = some [⟨0, groupsOf user⟩] :=
    List.lookup_graph (fun user => [(⟨0, groupsOf user⟩ : Outcome)]) named
  have constant := constant_script kind single user
  rw [Script.next, found] at constant
  exact constant

/-! ## Caches -/

/-- A cache in front of a constant provider remembers nothing of the user but the outcome. -/
structure Mirrors (id inner : ProviderId) (lifetime : Int) (user : String)
    (outcome : Except Fault PrincipalSet) (w : World) : Prop where
  order : inner < id
  contents : ∃ c, w.providers[id]? = some (.cached inner lifetime c) ∧
    ∀ e ∈ c, e.user = user → outcome = .ok e.groups
  constant_behind : Constant inner user outcome w

namespace Mirrors

theorem start (kind : w.providers[id]? = some (.cached inner lifetime [])) (order : inner < id)
    (constant : Constant inner user outcome w) : Mirrors id inner lifetime user outcome w :=
  ⟨order, ⟨[], kind, fun _ there => absurd there List.not_mem_nil⟩, constant⟩

/-- A lookup of any user, also of this one, who is answered with the outcome. -/
theorem lookup (h : Mirrors id inner lifetime user outcome w) (other : String) :
    Mirrors id inner lifetime user outcome (lookup id other w).2 ∧
      (other = user → (Groups.lookup id other w).1 = outcome) := by
  obtain ⟨order, ⟨c, kind, right⟩, constant⟩ := h
  -- `other` may be the user: then what is remembered, or else the provider, gives the outcome
  have kept : ∀ e ∈ c.expire lifetime w.clock, e.user = user → outcome = .ok e.groups :=
    fun e there => right e (List.dropWhile_subset _ there)
  have emptied := Turn.alterCache order w (·.expire lifetime w.clock)
  have kind' := providers_alterCache_self kind (·.expire lifetime w.clock)
  rw [lookup_cached kind order]
  simp only
  cases found : (c.expire lifetime w.clock).find? other with
  | some groups =>
    refine ⟨⟨order, ⟨_, kind', kept⟩, constant.turn emptied⟩, ?_⟩
    rintro rfl
    obtain ⟨e, first, rfl⟩ := Option.map_eq_some_iff.mp found
    have named : e.user = other := by simpa using List.find?_some first
    exact (kept e (List.mem_of_find?_eq_some first) named).symm
  | none =>
    have steady := constant.turn emptied
    have after := steady.turn (.asked _ other)
    have told : other = user →
        (Groups.lookup inner other (w.alterCache id (·.expire lifetime w.clock))).1 = outcome := by
      rintro rfl
      exact steady.answer
    -- the provider behind leaves the contents alone
    have untouched :=
      lookup_providers inner other (w.alterCache id (·.expire lifetime w.clock)) order
    rw [kind'] at untouched
    rcases run : Groups.lookup inner other (w.alterCache id (·.expire lifetime w.clock))
      with ⟨answer, v⟩
    rw [run] at after told untouched
    cases answer with
    | error fault => exact ⟨⟨order, ⟨_, untouched, kept⟩, after⟩, told⟩
    | ok groups =>
      have stored := after.turn (.alterCache order v (·.store other w.clock groups))
      refine ⟨⟨order, ⟨_, providers_alterCache_self untouched _, ?_⟩, stored⟩, told⟩
      intro e there named
      rcases List.mem_append.mp there with old | new
      · exact kept e (Cache.mem_forget.mp old).1 named
      · obtain rfl := List.mem_singleton.mp new
        exact (told named).symm

theorem turn (h : Mirrors id inner lifetime user outcome w) (turn : Turn id w v) :
    Mirrors id inner lifetime user outcome v := by
  cases turn with
  | asked other => exact (h.lookup other).1
  | aside host same =>
    obtain ⟨order, ⟨c, kind, right⟩, constant⟩ := h
    refine ⟨order, ⟨c, (same id (Nat.le_refl id)).trans kind, right⟩,
      constant.turn (.aside host ?_)⟩
    exact fun j small => same j (Nat.le_trans small (Nat.le_of_lt order))

theorem turns (h : Mirrors id inner lifetime user outcome w) (turns : ReflTransGen (Turn id) w v) :
    Mirrors id inner lifetime user outcome v := by
  induction turns with
  | refl => exact h
  | tail _ step ih => exact ih.turn step

/-- An invalidation only drops entries. -/
theorem invalidate (h : Mirrors id inner lifetime user outcome w) (which : Option String) :
    Mirrors id inner lifetime user outcome (invalidate id which w).2 := by
  obtain ⟨order, ⟨c, kind, right⟩, constant⟩ := h
  rw [run_invalidate]
  refine ⟨order, ⟨_, providers_alterCache_self kind _, ?_⟩, constant.turn (.alterCache order w _)⟩
  cases which with
  | none => exact fun e there => absurd there List.not_mem_nil
  | some other => exact fun e there => right e (Cache.mem_forget.mp there).1

/-- A cache in front of a constant provider is constant. -/
theorem constant (h : Mirrors id inner lifetime user outcome w) : Constant id user outcome w :=
  fun _ turns => ((h.turns turns).lookup user).2 rfl

end Mirrors

end DagAccess.Groups
