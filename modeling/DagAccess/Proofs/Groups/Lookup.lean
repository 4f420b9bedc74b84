import DagAccess.Groups.Lookup
import DagAccess.Proofs.Act

/-!
# Runs of group lookups

What a lookup answers and what it leaves behind, by kind of provider: `lookup_script` for scripts,
and `lookup_cached` for caches, in terms of the lookup behind the cache. A lookup changes only the
provider that it asks and those behind it, which have smaller numbers (`lookup_providers`).
-/

namespace DagAccess

namespace Groups

/-- Changes the contents of a cache and nothing else. -/
def Provider.mapCache (f : Cache → Cache) : Provider → Provider
  | .cached inner lifetime c => .cached inner lifetime (f c)
  | p => p

end Groups

/-- The world with other contents of a cache. -/
def World.alterCache (w : World) (id : Groups.ProviderId) (f : Groups.Cache → Groups.Cache) :
    World :=
  { w with providers := w.providers.modify id (Groups.Provider.mapCache f) }

namespace Groups

/-! ## Caches in a world -/

theorem providers_alterCache (w : World) (id j : ProviderId) (f : Cache → Cache) :
    (w.alterCache id f).providers[j]? =
      if id = j then (w.providers[j]?).map (Provider.mapCache f) else w.providers[j]? := by
  rw [World.alterCache, Array.getElem?_modify]

theorem providers_alterCache_self {w : World} {id inner : ProviderId} {lifetime : Int} {c : Cache}
    (h : w.providers[id]? = some (.cached inner lifetime c)) (f : Cache → Cache) :
    (w.alterCache id f).providers[id]? = some (.cached inner lifetime (f c)) := by
  rw [providers_alterCache, if_pos rfl, h]
  rfl

theorem providers_alterCache_other {w : World} {id j : ProviderId} (h : id ≠ j)
    (f : Cache → Cache) : (w.alterCache id f).providers[j]? = w.providers[j]? := by
  rw [providers_alterCache, if_neg h]

/-- Only what becomes of the contents counts. -/
theorem alterCache_eq {w : World} {id inner : ProviderId} {lifetime : Int} {c : Cache}
    (h : w.providers[id]? = some (.cached inner lifetime c)) (f : Cache → Cache) :
    w.alterCache id f = w.alterCache id fun _ => f c := by
  have same : (w.alterCache id f).providers = (w.alterCache id fun _ => f c).providers := by
    apply Array.ext_getElem?
    intro j
    rw [providers_alterCache, providers_alterCache]
    by_cases here : id = j
    · rw [if_pos here, if_pos here, ← here, h]
      rfl
    · rw [if_neg here, if_neg here]
  exact congrArg (fun providers => { w with providers }) same

@[simp]
theorem run_modifyCache (id : ProviderId) (f : Cache → Cache) (w : World) :
    modifyCache id f w = (.ok (), w.alterCache id f) := by
  have same : (fun p : Provider => match p with
      | .cached inner lifetime c => .cached inner lifetime (f c)
      | p => p) = Provider.mapCache f := by
    funext p
    cases p <;> rfl
  rw [World.alterCache, ← same]
  rfl

theorem run_cacheOf {w : World} {id inner : ProviderId} {lifetime : Int} {c : Cache}
    (h : w.providers[id]? = some (.cached inner lifetime c)) : cacheOf id w = (.ok c, w) := by
  simp only [cacheOf, Act.run_bind, Act.run_get, h, Act.run_pure]

/-! ## Lookups by kind of provider -/

/-- A script answers with its next outcome, and notes the user. -/
theorem lookup_script {w : World} {id : ProviderId} {s : Script}
    (h : w.providers[id]? = some (.script s)) (user : String) :
    lookup id user w = ((s.next user).1.result,
      { w with
        providers := w.providers.setIfInBounds id (.script (s.next user).2)
        clock := w.clock + (s.next user).1.advance }) := by
  rw [lookup]
  simp only [Act.run_bind, Act.run_get, h, lookupScript, replace, Act.run_modify, Act.run_of]

theorem lookup_table {w : World} {id : ProviderId} {groups : List (String × PrincipalSet)}
    (h : w.providers[id]? = some (.table groups)) (user : String) :
    lookup id user w = (.ok ((groups.lookup user).getD ∅), w) := by
  rw [lookup]
  simp only [Act.run_bind, Act.run_get, h, Act.run_pure]

theorem lookup_command {w : World} {id : ProviderId} {words : List String}
    (h : w.providers[id]? = some (.command words)) (user : String) :
    lookup id user w = (fromCommand w.host.commands words user, w) := by
  rw [lookup]
  simp only [Act.run_bind, Act.run_get, h, Act.run_of]

theorem lookup_accounts {w : World} {id : ProviderId} (h : w.providers[id]? = some .accounts)
    (user : String) : lookup id user w = lookupAccount user w := by
  rw [lookup]
  simp only [Act.run_bind, Act.run_get, h]

/-- A script notes every user that it is asked for. -/
theorem asked_next (s : Script) (user : String) : (s.next user).2.asked = s.asked ++ [user] := by
  unfold Script.next
  split <;> rfl

/-- Every outcome of a lookup happens in some world. -/
theorem exists_lookup_eq (id : ProviderId) (user : String) (outcome : Except Fault PrincipalSet) :
    ∃ w, (lookup id user w).1 = outcome := by
  let s : Script := { name := "", outcomes := [(user, [⟨0, outcome⟩])] }
  let w : World := { World.start {} 0 with providers := Array.replicate (id + 1) (.script s) }
  have kind : w.providers[id]? = some (.script s) := by simp [w]
  refine ⟨w, ?_⟩
  rw [lookup_script kind]
  simp [s, Script.next]

/-- A cache first drops what has expired at its front. It answers what is left for the user;
otherwise it asks the provider behind it, once, and stores the answer unless that is a fault. -/
theorem lookup_cached {w : World} {id inner : ProviderId} {lifetime : Int} {c : Cache}
    (h : w.providers[id]? = some (.cached inner lifetime c)) (behind : inner < id) (user : String) :
    lookup id user w =
      let expired := w.alterCache id (·.expire lifetime w.clock)
      match (c.expire lifetime w.clock).find? user with
      | some groups => (.ok groups, expired)
      | none =>
        match lookup inner user expired with
        | (.ok groups, after) => (.ok groups, after.alterCache id (·.store user w.clock groups))
        | (.error fault, after) => (.error fault, after) := by
  rw [lookup]
  have contents := run_cacheOf (providers_alterCache_self h (·.expire lifetime w.clock))
  simp only [Act.run_bind, Act.run_get, h, run_modifyCache, contents]
  cases (c.expire lifetime w.clock).find? user with
  | some groups => rfl
  | none =>
    simp only [dif_pos behind, Act.run_bind]
    rcases lookup inner user (w.alterCache id (·.expire lifetime w.clock)) with ⟨outcome, after⟩
    cases outcome <;> rfl

/-! ## The frame of a lookup -/

theorem lookupAccount_answer (user : String) (w : World) :
    (lookupAccount user w).1 = fromAccounts w.host.accounts user := by
  simp only [lookupAccount, Act.run_bind, Act.run_get]
  cases namelessGroup? w.host.accounts user <;> simp [Act.run_bind]

theorem lookupAccount_providers (user : String) (w : World) :
    (lookupAccount user w).2.providers = w.providers := by
  simp only [lookupAccount, Act.run_bind, Act.run_get]
  cases namelessGroup? w.host.accounts user <;> simp [Act.run_bind]

/-- Providers with greater numbers than the one that is asked stay as they are. -/
theorem lookup_providers (id : ProviderId) (user : String) (w : World) {j : ProviderId}
    (h : id < j) : (lookup id user w).2.providers[j]? = w.providers[j]? := by
  -- by strong induction on the number: a cache passes the question on to a smaller one
  induction id using Nat.strongRecOn generalizing w with
  | _ id ih =>
    have other : id ≠ j := Nat.ne_of_lt h
    cases kind : w.providers[id]? with
    | none =>
      rw [lookup]
      simp only [Act.run_bind, Act.run_get, kind, Act.run_throw]
    | some p =>
      cases p with
      | accounts => rw [lookup_accounts kind, lookupAccount_providers]
      | command words => rw [lookup_command kind]
      | table groups => rw [lookup_table kind]
      | script s => rw [lookup_script kind, Array.getElem?_setIfInBounds_ne other]
      | cached inner lifetime c =>
        by_cases behind : inner < id
        · have inside := ih inner behind (w.alterCache id (·.expire lifetime w.clock))
            (Nat.lt_trans behind h)
          rw [providers_alterCache_other other] at inside
          rw [lookup_cached kind behind]
          simp only
          split
          · exact providers_alterCache_other other _
          · split
            · next run =>
              rw [run] at inside
              rw [providers_alterCache_other other]
              exact inside
            · next run =>
              rw [run] at inside
              exact inside
        · have contents := run_cacheOf (providers_alterCache_self kind (·.expire lifetime w.clock))
          rw [lookup]
          simp only [Act.run_bind, Act.run_get, kind, run_modifyCache, contents, dif_neg behind]
          cases (c.expire lifetime w.clock).find? user with
          | none => exact providers_alterCache_other other _
          | some groups => exact providers_alterCache_other other _

end Groups

end DagAccess
