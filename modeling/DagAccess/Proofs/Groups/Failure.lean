import DagAccess.Proofs.Groups.Command
import DagAccess.Proofs.Groups.History
import Mathlib.Data.List.TakeWhile

/-!
# Lookups that fail

A `Stack` is a provider of the process, which reads accounts, runs a command or holds a table, with
caches in front of it. If a lookup through a stack fails, every cache of the stack was asked and had
nothing for the user, so each one has lost the expired entries at its front and kept all others, and
the fault is one that leaves the user without groups, as long as the system can be asked for that
user at all (`Stack.of_fault`). A cache whose clock never went back has then lost exactly what had
expired (`Run.expire_eq`).
-/

namespace DagAccess.Groups

/-- The number is that of a provider of the process behind these caches. -/
inductive Stack (w : World) : ProviderId → Provider → List ProviderId → Prop
  | accounts {id} (kind : w.providers[id]? = some .accounts) : Stack w id .accounts []
  | command {id words} (kind : w.providers[id]? = some (.command words)) :
      Stack w id (.command words) []
  | table {id groups} (kind : w.providers[id]? = some (.table groups)) :
      Stack w id (.table groups) []
  | cache {id inner base lifetime c caches}
      (kind : w.providers[id]? = some (.cached inner lifetime c)) (order : inner < id)
      (behind : Stack w inner base caches) : Stack w id base (id :: caches)

/-- The provider can ask for the user: if it runs a command, then the system can be given that. -/
def Provider.CanAsk (user : String) : Provider → Prop
  | .command words => Command.Sayable (words ++ [user])
  | _ => True

variable {id inner : ProviderId} {base : Provider} {lifetime : Int} {caches : List ProviderId}
  {user : String} {w v : World}

/-- Only the provider and those behind it matter. -/
theorem Stack.congr (stack : Stack w id base caches)
    (same : ∀ j ≤ id, v.providers[j]? = w.providers[j]?) : Stack v id base caches := by
  induction stack with
  | accounts kind => exact .accounts ((same _ (Nat.le_refl _)).trans kind)
  | command kind => exact .command ((same _ (Nat.le_refl _)).trans kind)
  | table kind => exact .table ((same _ (Nat.le_refl _)).trans kind)
  | cache kind order _ ih =>
    refine .cache ((same _ (Nat.le_refl _)).trans kind) order (ih fun j small => same j ?_)
    exact Nat.le_trans small (Nat.le_of_lt order)

theorem Stack.le_of_mem (stack : Stack w id base caches) {j : ProviderId} (there : j ∈ caches) :
    j ≤ id := by
  induction stack with
  | accounts _ => cases there
  | command _ => cases there
  | table _ => cases there
  | cache _ order _ ih =>
    rcases List.mem_cons.mp there with rfl | deeper
    · exact Nat.le_refl j
    · exact Nat.le_trans (ih deeper) (Nat.le_of_lt order)

/-- What a cache holds does not matter. -/
theorem Stack.after_alterCache (stack : Stack w id base caches) (j : ProviderId)
    (f : Cache → Cache) : Stack (w.alterCache j f) id base caches := by
  -- providers other than caches stay as they are
  have plain : ∀ {i : ProviderId} {p : Provider}, w.providers[i]? = some p →
      (∀ inner lifetime c, p ≠ .cached inner lifetime c) →
        (w.alterCache j f).providers[i]? = some p := by
    intro i p kind other
    rw [providers_alterCache, kind]
    split
    · cases p with
      | cached inner lifetime c => exact absurd rfl (other inner lifetime c)
      | _ => rfl
    · rfl
  induction stack with
  | accounts kind => exact .accounts (plain kind nofun)
  | command kind => exact .command (plain kind nofun)
  | table kind => exact .table (plain kind nofun)
  | @cache id inner base lifetime c caches kind order _ ih =>
    have here : (w.alterCache j f).providers[id]? =
        some (.cached inner lifetime (if j = id then f c else c)) := by
      rw [providers_alterCache, kind]
      split <;> rfl
    exact .cache here order ih

/-- A stack is still one after a lookup. -/
theorem Stack.after_lookup (stack : Stack w id base caches) (user : String) :
    Stack (lookup id user w).2 id base caches := by
  -- by induction on the caches, as the one that is asked alters itself before it asks what is
  -- behind it
  induction caches generalizing id w with
  | nil =>
    cases stack with
    | accounts kind =>
      rw [lookup_accounts kind]
      exact (Stack.accounts kind).congr fun j _ => by rw [lookupAccount_providers]
    | command kind =>
      rw [lookup_command kind]
      exact .command kind
    | table kind =>
      rw [lookup_table kind]
      exact .table kind
  | cons top rest ih =>
    cases stack with
    | @cache _ inner _ lifetime c _ kind order behind =>
      rw [lookup_cached kind order]
      dsimp only
      split
      · exact (Stack.cache kind order behind).after_alterCache top _
      · have deeper := ih (behind.after_alterCache top (·.expire lifetime w.clock))
        have here :=
          lookup_providers inner user (w.alterCache top (·.expire lifetime w.clock)) order
        rw [providers_alterCache_self kind] at here
        rcases run : lookup inner user (w.alterCache top (·.expire lifetime w.clock))
          with ⟨outcome, after⟩
        rw [run] at deeper here
        have still : Stack after top base (top :: rest) := .cache here order deeper
        cases outcome with
        | ok groups => exact still.after_alterCache top _
        | error fault => exact still

/-! ## Faults -/

theorem fault_of_accounts {a : Accounts} {fault : Fault}
    (failed : fromAccounts a user = .error fault) : fault.leavesNoGroups = true := by
  unfold fromAccounts at failed
  split at failed
  · obtain rfl := Except.error.inj failed
    rfl
  · cases failed

theorem fault_of_command {os : Command.Outcomes} {words : List String} {fault : Fault}
    (failed : fromCommand os words user = .error fault) :
    fault.leavesNoGroups = true ∨ fault = .unspeakable ∧
    ¬ (Provider.command words).CanAsk user := by
  unfold fromCommand at failed
  split at failed
  · cases failed
  · obtain rfl := Except.error.inj failed
    exact .inl rfl
  · next refused =>
    obtain rfl := Except.error.inj failed
    exact .inr ⟨rfl, Command.run_unspeakable_iff.mp refused⟩

/-- A provider at a time, after what has expired at the front of a cache is dropped. -/
def Provider.expire (now : Int) : Provider → Provider
  | .cached inner lifetime c => .cached inner lifetime (c.expire lifetime now)
  | p => p

/-- A lookup that fails leaves the user without groups if the system can be asked, and drops what
has expired from the caches that it went through. -/
theorem Stack.of_fault (stack : Stack w id base caches) {fault : Fault}
    (failed : lookup id user w = (.error fault, v)) :
    (fault.leavesNoGroups = true ∨ fault = .unspeakable ∧ ¬ base.CanAsk user) ∧
    ∀ j, v.providers[j]? =
      if j ∈ caches then (w.providers[j]?).map (Provider.expire w.clock) else w.providers[j]? := by
  -- from the outermost cache inwards; the others see the world that it leaves
  induction caches generalizing id w with
  | nil =>
    cases stack with
    | accounts kind =>
      rw [lookup_accounts kind] at failed
      have answer := lookupAccount_answer user w
      have providers := lookupAccount_providers user w
      rw [failed] at answer providers
      exact ⟨.inl (fault_of_accounts answer.symm), fun j => congrArg (·[j]?) providers⟩
    | command kind =>
      rw [lookup_command kind] at failed
      obtain ⟨answer, rfl⟩ := Prod.mk.inj failed
      exact ⟨fault_of_command answer, fun j => rfl⟩
    | table kind =>
      rw [lookup_table kind] at failed
      cases failed
  | cons top caches ih =>
    cases stack with
    | @cache _ inner _ lifetime c _ kind order behind =>
      have other : ∀ j ≤ inner, top ≠ j :=
        fun j small => Nat.ne_of_gt (Nat.lt_of_le_of_lt small order)
      have elsewhere : ∀ j, top ≠ j →
          (w.alterCache top (·.expire lifetime w.clock)).providers[j]? = w.providers[j]? :=
        fun j different => providers_alterCache_other different _
      rw [lookup_cached kind order] at failed
      simp only at failed
      split at failed
      · cases failed
      · split at failed
        · cases failed
        · next cause after run =>
          obtain ⟨same, rfl⟩ := Prod.mk.inj failed
          obtain rfl := Except.error.inj same
          have deeper := behind.congr fun j small => elsewhere j (other j small)
          obtain ⟨noGroups, others⟩ := ih deeper run
          refine ⟨noGroups, fun j => ?_⟩
          rw [others j]
          by_cases here : j = top
          · -- the caches behind have smaller numbers
            have notBehind : j ∉ caches := fun there => other j (deeper.le_of_mem there) here.symm
            rw [if_neg notBehind, if_pos (here ▸ List.mem_cons_self), here, kind,
              providers_alterCache_self kind]
            rfl
          · rw [elsewhere j (Ne.symm here)]
            simp only [List.mem_cons, here, false_or]
            rfl

/-! ## What caches keep -/

namespace Cache

variable {c : Cache} {now : Int}

theorem expire_sublist (c : Cache) (lifetime now : Int) : (c.expire lifetime now).Sublist c :=
  List.dropWhile_sublist _

/-- Whatever is dropped has expired. -/
theorem expired_of_dropped {e : CacheEntry} (there : e ∈ c) (dropped : e ∉ c.expire lifetime now) :
    lifetime ≤ now - e.fetched := by
  rw [← List.takeWhile_append_dropWhile (p := isExpired lifetime now) (l := c)] at there
  have front := (List.mem_append.mp there).resolve_right dropped
  have old : isExpired lifetime now e = true := List.mem_takeWhile_imp front
  exact of_decide_eq_true old

end Cache

/-- Where the clock never went back, everything that has expired is dropped. -/
theorem Run.expire_eq {h : History} (run : Run id inner lifetime w h) {c : Cache}
    (kind : w.providers[id]? = some (.cached inner lifetime c)) (now : Int) :
    c.expire lifetime now = c.unexpired lifetime now := by
  obtain ⟨-, c', kind', agrees⟩ := run.knows
  rw [kind] at kind'
  cases kind'
  exact Cache.expire_eq_unexpired agrees.sorted

end DagAccess.Groups
