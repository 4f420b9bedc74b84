import DagAccess.Proofs.Groups.Cache
import DagAccess.Proofs.Groups.Lookup

/-!
# Runs of a cache

`Run` describes what may happen to a world with a cache in it: lookups and invalidations through the
cache in any order, and between them anything that leaves the cache alone and does not turn back the
clock, so the provider behind the cache may change its answers as it likes. Along with the world
goes the history of the cache, in which a lookup is noted if the provider was asked (`asks`) and
answered. Each step keeps the agreement of cache and history (`Run.knows`). Hence
`lookup_eq_history`: a lookup asks the provider unless the history has an answer that did not
expire, and that is its answer.
-/

namespace DagAccess.Groups

/-! ## Asking behind a cache -/

/-- A lookup of the user asks the provider behind the cache, as the cache has nothing left for the
user after dropping what has expired. -/
def asks (id : ProviderId) (user : String) (w : World) : Bool :=
  match w.providers[id]? with
  | some (.cached _ lifetime c) => ((c.expire lifetime w.clock).find? user).isNone
  | _ => false

/-- What a lookup adds to the history: an answer that the provider gave. -/
def noted (id : ProviderId) (user : String) (w : World) : History :=
  if asks id user w then
    match (lookup id user w).1 with
    | .ok groups => [.found user w.clock groups]
    | .error _ => []
  else []

/-- The worlds and histories that a new cache in front of a provider can come to. Between two uses
of the cache anything may happen, but not to the cache, and the clock does not go back. -/
inductive Run (id inner : ProviderId) (lifetime : Int) : World → History → Prop
  | start {w} (kind : w.providers[id]? = some (.cached inner lifetime [])) (behind : inner < id) :
      Run id inner lifetime w []
  | elapse {w w' h} (run : Run id inner lifetime w h) (same : w'.providers[id]? = w.providers[id]?)
      (later : w.clock ≤ w'.clock) : Run id inner lifetime w' h
  | lookup {w h} (run : Run id inner lifetime w h) (user : String)
      (later : w.clock ≤ (lookup id user w).2.clock) :
      Run id inner lifetime (lookup id user w).2 (noted id user w ++ h)
  | invalidate {w h} (run : Run id inner lifetime w h) (user : Option String) :
      Run id inner lifetime (invalidate id user w).2 (.dropped user :: h)

variable {id inner : ProviderId} {lifetime : Int} {w w' : World} {h : History}

/-! ## One lookup -/

theorem run_invalidate (id : ProviderId) (user : Option String) (w : World) :
    invalidate id user w = (.ok (), w.alterCache id fun c => match user with
      | none => []
      | some user => c.forget user) :=
  run_modifyCache id _ w

/-- A lookup behind the cache leaves the contents alone. -/
theorem contents_behind {c : Cache} (kind : w.providers[id]? = some (.cached inner lifetime c))
    (behind : inner < id) (kept : Cache) (user : String) :
    (lookup inner user (w.alterCache id fun _ => kept)).2.providers[id]? =
      some (.cached inner lifetime kept) := by
  rw [lookup_providers inner user _ behind]
  exact providers_alterCache_self kind fun _ => kept

section Lookup

variable {c : Cache} (kind : w.providers[id]? = some (.cached inner lifetime c)) (sorted : c.Sorted)
include kind sorted

theorem asks_iff (user : String) :
    asks id user w = true ↔ (c.unexpired lifetime w.clock).find? user = none := by
  rw [asks, kind, ← Cache.expire_eq_unexpired sorted]
  exact Option.isNone_iff_eq_none

/-- What is left for the user is the answer. -/
theorem lookup_hit (behind : inner < id) {user : String} {groups : PrincipalSet}
    (hit : (c.unexpired lifetime w.clock).find? user = some groups) :
    lookup id user w = (.ok groups, w.alterCache id fun _ => c.unexpired lifetime w.clock) := by
  rw [lookup_cached kind behind, Cache.expire_eq_unexpired sorted, alterCache_eq kind,
    Cache.expire_eq_unexpired sorted]
  simp only [hit]

/-- If nothing is left for the user, the provider behind is asked, and its answer is added. -/
theorem lookup_miss (behind : inner < id) {user : String}
    (miss : (c.unexpired lifetime w.clock).find? user = none) :
    lookup id user w =
      match lookup inner user (w.alterCache id fun _ => c.unexpired lifetime w.clock) with
      | (.ok groups, after) => (.ok groups,
          after.alterCache id fun _ => c.unexpired lifetime w.clock ++ [⟨user, w.clock, groups⟩])
      | (.error fault, after) => (.error fault, after) := by
  have contents := contents_behind kind behind (c.unexpired lifetime w.clock) user
  rw [lookup_cached kind behind, Cache.expire_eq_unexpired sorted, alterCache_eq kind,
    Cache.expire_eq_unexpired sorted]
  simp only [miss]
  rcases run : lookup inner user (w.alterCache id fun _ => c.unexpired lifetime w.clock)
    with ⟨outcome, after⟩
  cases outcome with
  | error fault => rfl
  | ok groups =>
    rw [run] at contents
    simp only [alterCache_eq contents, Cache.store_eq_append miss]

/-- All that a lookup can do. -/
theorem lookup_cases (behind : inner < id) (user : String) :
    (∃ groups, asks id user w = false ∧
      lookup id user w = (.ok groups, w.alterCache id fun _ => c.unexpired lifetime w.clock)) ∨
    (∃ groups after, asks id user w = true ∧
      lookup inner user (w.alterCache id fun _ => c.unexpired lifetime w.clock) =
        (.ok groups, after) ∧
      after.providers[id]? = some (.cached inner lifetime (c.unexpired lifetime w.clock)) ∧
      lookup id user w = (.ok groups,
        after.alterCache id fun _ => (c.unexpired lifetime w.clock).store user w.clock groups)) ∨
    (∃ fault after, asks id user w = true ∧
      lookup inner user (w.alterCache id fun _ => c.unexpired lifetime w.clock) =
        (.error fault, after) ∧
      after.providers[id]? = some (.cached inner lifetime (c.unexpired lifetime w.clock)) ∧
      lookup id user w = (.error fault, after)) := by
  cases found : (c.unexpired lifetime w.clock).find? user with
  | some groups =>
    have kept : asks id user w = false := by
      rw [Bool.eq_false_iff, ne_eq, asks_iff kind sorted, found]
      exact Option.some_ne_none groups
    exact .inl ⟨groups, kept, lookup_hit kind sorted behind found⟩
  | none =>
    have asked : asks id user w = true := (asks_iff kind sorted user).mpr found
    have contents := contents_behind kind behind (c.unexpired lifetime w.clock) user
    have run := lookup_miss kind sorted behind found
    rcases answer : lookup inner user (w.alterCache id fun _ => c.unexpired lifetime w.clock)
      with ⟨outcome, after⟩
    rw [answer] at contents run
    cases outcome with
    | ok groups =>
      refine .inr (.inl ⟨groups, after, asked, rfl, contents, ?_⟩)
      rw [run, Cache.store_eq_append found]
    | error fault => exact .inr (.inr ⟨fault, after, asked, rfl, contents, run⟩)

/-- A fault leaves what has not expired. -/
theorem contents_of_fault (behind : inner < id) {user : String} {fault : Fault}
    (failed : (lookup id user w).1 = .error fault) :
    (lookup id user w).2.providers[id]? =
      some (.cached inner lifetime (c.unexpired lifetime w.clock)) := by
  rcases lookup_cases kind sorted behind user
    with ⟨groups, -, run⟩ | ⟨groups, after, -, -, -, run⟩ |
    ⟨cause, after, -, -, contents, run⟩
  · rw [run] at failed
    cases failed
  · rw [run] at failed
    cases failed
  · rw [run]
    exact contents

/-- A script behind the cache notes the user if it is asked. -/
theorem script_behind (behind : inner < id) {s : Script}
    (script : w.providers[inner]? = some (.script s)) (user : String) :
    ∃ s', (lookup id user w).2.providers[inner]? = some (.script s') ∧
      s'.asked = if asks id user w then s.asked ++ [user] else s.asked := by
  have other : id ≠ inner := Nat.ne_of_gt behind
  have same : (w.alterCache id fun _ => c.unexpired lifetime w.clock).providers[inner]? =
      some (.script s) :=
    (providers_alterCache_other other _).trans script
  have inBounds := (Array.getElem?_eq_some_iff.mp same).1
  rcases lookup_cases kind sorted behind user with ⟨groups, kept, run⟩ |
    ⟨groups, after, asked, answer, -, run⟩ | ⟨fault, after, asked, answer, -, run⟩
  · rw [run, kept]
    exact ⟨s, same, rfl⟩
  · rw [lookup_script same] at answer
    obtain ⟨-, rfl⟩ := Prod.mk.inj answer
    rw [run, asked, providers_alterCache_other other]
    exact ⟨_, Array.getElem?_setIfInBounds_self_of_lt inBounds, asked_next s user⟩
  · rw [lookup_script same] at answer
    obtain ⟨-, rfl⟩ := Prod.mk.inj answer
    rw [run, asked]
    exact ⟨_, Array.getElem?_setIfInBounds_self_of_lt inBounds, asked_next s user⟩

end Lookup

/-! ## Runs -/

/-- The world has a cache in front of a provider, and it knows what the history says. -/
def Knows (id inner : ProviderId) (lifetime : Int) (w : World) (h : History) : Prop :=
  inner < id ∧ ∃ c, w.providers[id]? = some (.cached inner lifetime c) ∧ c.Agrees lifetime w.clock h

namespace Knows

theorem elapse (knows : Knows id inner lifetime w h) (same : w'.providers[id]? = w.providers[id]?)
    (later : w.clock ≤ w'.clock) : Knows id inner lifetime w' h := by
  obtain ⟨behind, c, kind, agrees⟩ := knows
  exact ⟨behind, c, same.trans kind, agrees.elapse later⟩

theorem invalidate (knows : Knows id inner lifetime w h) (user : Option String) :
    Knows id inner lifetime (invalidate id user w).2 (.dropped user :: h) := by
  obtain ⟨behind, c, kind, agrees⟩ := knows
  refine ⟨behind, _, by rw [run_invalidate]; exact providers_alterCache_self kind _, ?_⟩
  cases user with
  | none => exact .clear lifetime w.clock h
  | some user => exact agrees.forget user

theorem lookup (knows : Knows id inner lifetime w h) (user : String)
    (later : w.clock ≤ (lookup id user w).2.clock) :
    Knows id inner lifetime (lookup id user w).2 (noted id user w ++ h) := by
  obtain ⟨behind, c, kind, agrees⟩ := knows
  have kept := agrees.unexpired
  rcases lookup_cases kind agrees.sorted behind user with ⟨groups, silent, run⟩ |
    ⟨groups, after, asked, -, contents, run⟩ | ⟨fault, after, asked, -, contents, run⟩
  · rw [noted, silent, run]
    exact ⟨behind, _, providers_alterCache_self kind _, kept⟩
  · rw [noted, asked, run]
    rw [run] at later
    -- the entry bears the time before the lookup, which may have taken a while
    exact ⟨behind, _, providers_alterCache_self contents _, (kept.store user groups).elapse later⟩
  · rw [noted, asked, run]
    rw [run] at later
    exact ⟨behind, _, contents, kept.elapse later⟩

end Knows

/-- What is known at the start of a run stays known. -/
theorem Run.knows (run : Run id inner lifetime w h) : Knows id inner lifetime w h := by
  induction run with
  | start kind behind => exact ⟨behind, [], kind, .start lifetime _⟩
  | elapse _ same later ih => exact ih.elapse same later
  | lookup _ user later ih => exact ih.lookup user later
  | invalidate _ user ih => exact ih.invalidate user

/-- **A cache answers as its history says.** -/
theorem lookup_eq_history (run : Run id inner lifetime w h) (user : String) :
    ∃ c, w.providers[id]? = some (.cached inner lifetime c) ∧
      -- the provider is not asked exactly if the history has an answer that did not expire
      (asks id user w = false ↔ ∃ began groups,
        h.latest user = some (.found user began groups) ∧ w.clock - began < lifetime) ∧
      -- that is the answer then
      (∀ began groups, h.latest user = some (.found user began groups) →
        w.clock - began < lifetime →
        lookup id user w = (.ok groups, w.alterCache id fun _ => c.unexpired lifetime w.clock)) ∧
      -- else the provider is asked once, and its answer is stored
      (asks id user w = true → lookup id user w =
        match lookup inner user (w.alterCache id fun _ => c.unexpired lifetime w.clock) with
        | (.ok groups, after) => (.ok groups,
            after.alterCache id fun _ => c.unexpired lifetime w.clock ++ [⟨user, w.clock, groups⟩])
        | (.error fault, after) => (.error fault, after)) ∧
      (∀ s, w.providers[inner]? = some (.script s) →
        ∃ s', (lookup id user w).2.providers[inner]? = some (.script s') ∧
          s'.asked = if asks id user w then s.asked ++ [user] else s.asked) ∧
      -- but nothing is stored on a fault
      ∀ fault, (lookup id user w).1 = .error fault →
        (lookup id user w).2.providers[id]? =
          some (.cached inner lifetime (c.unexpired lifetime w.clock)) := by
  obtain ⟨behind, c, kind, agrees⟩ := run.knows
  have sorted := agrees.sorted
  refine ⟨c, kind, ?_, ?_, ?_, ?_, ?_⟩
  · rw [Bool.eq_false_iff, ne_eq, asks_iff kind sorted, ← ne_eq, Option.ne_none_iff_exists']
    simp only [agrees.find?_unexpired_iff]
    exact exists_comm
  · intro began groups last young
    exact lookup_hit kind sorted behind (agrees.find?_unexpired_iff.mpr ⟨began, last, young⟩)
  · exact fun asked => lookup_miss kind sorted behind ((asks_iff kind sorted user).mp asked)
  · exact fun s script => script_behind kind sorted behind script user
  · exact fun fault failed => contents_of_fault kind sorted behind failed

/-- The answer of a slow lookup that began at 5 is kept at 8, though the provider would fail by
now. -/
theorem lookup_eq_history_slow :
    ∃ w h, Run 1 0 10 w h ∧ w.clock = 8 ∧ h = [.found "alice" 5 (.ofList ["staff"])] ∧
      (lookup 0 "alice" w).1 = .error .groupList ∧
      (lookup 1 "alice" w).1 = .ok (.ofList ["staff"]) := by
  let s : Script :=
    { name := "", outcomes := [("alice", [⟨3, .ok (.ofList ["staff"])⟩, ⟨0, .error .groupList⟩])] }
  let w : World := { World.start {} 5 with providers := #[.script s, .cached 0 10 []] }
  let after : World := { w with
    clock := 8
    providers := #[.script (s.next "alice").2, .cached 0 10 [⟨"alice", 5, .ofList ["staff"]⟩]] }
  have kind : w.providers[1]? = some (.cached 0 10 []) := rfl
  have nothing : (Cache.unexpired [] 10 w.clock).find? "alice" = none := rfl
  have script : (w.alterCache 1 fun _ => Cache.unexpired [] 10 w.clock).providers[0]? =
      some (.script s) :=
    rfl
  have answered : lookup 1 "alice" w = (.ok (.ofList ["staff"]), after) := by
    rw [lookup_miss kind .nil (by decide) nothing, lookup_script script]
    rfl
  have history : noted 1 "alice" w = [.found "alice" 5 (.ofList ["staff"])] := by
    rw [noted, answered]
    rfl
  have run : Run 1 0 10 after [.found "alice" 5 (.ofList ["staff"])] := by
    have step := Run.lookup (.start kind (by decide)) "alice" (by rw [answered]; decide)
    rw [answered, history] at step
    exact step
  obtain ⟨c, -, -, kept, -⟩ := lookup_eq_history run "alice"
  refine ⟨after, _, run, rfl, rfl, ?_, ?_⟩
  · have next : after.providers[0]? = some (.script (s.next "alice").2) := rfl
    rw [lookup_script next]
    rfl
  · rw [kept 5 (.ofList ["staff"]) rfl (by decide)]

end DagAccess.Groups
