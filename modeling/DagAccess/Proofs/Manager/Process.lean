import DagAccess.Manager.Check
import DagAccess.Proofs.Groups.Failure
import DagAccess.Proofs.Manager.Making
import DagAccess.Proofs.Settings.Fresh

/-!
# The manager of a new process

What a new process makes of its settings: a provider of groups that is one of the process behind at
most one cache, and runs the usual command if it runs one (`configured_yields`), so that checks
answer; and a manager for the user that was named or that runs the process (`ofProcess_yields`). It
may end with one of a few faults instead (`NoManager`).
-/

namespace DagAccess

open Stateful (Yields)
open Settings (Fresh New NoInt Refused)

variable {component : String} {v : World} {P : Fault → Prop}

namespace Groups

/-- The number is that of a provider of the process, perhaps behind caches. If it runs a command,
then the usual one. -/
def Served (w : World) (id : ProviderId) : Prop :=
  ∃ base caches, Stack w id base caches ∧ ∀ words, base = .command words → words = usualCommand

theorem Served.congr {w : World} {id : ProviderId} (served : Served w id)
    (same : ∀ j ≤ id, v.providers[j]? = w.providers[j]?) : Served v id := by
  obtain ⟨base, caches, stack, usual⟩ := served
  exact ⟨base, caches, stack.congr same, usual⟩

/-- Only a user whose name holds a NUL cannot be asked for in the usual words. -/
theorem holdsNul_of_not_canAsk {base : Provider} {user : String}
    (usual : ∀ words, base = .command words → words = usualCommand) (cannot : ¬ base.CanAsk user) :
    Command.holdsNul user = true := by
  cases base with
  | command words =>
    obtain rfl := usual words rfl
    by_contra free
    refine cannot fun word there => ?_
    rcases List.mem_append.mp there with there | there
    · exact (by decide : Command.Sayable usualCommand) word there
    · rw [List.mem_singleton.mp there]
      exact Bool.eq_false_iff.mpr free
  | _ => exact absurd trivial cannot

/-- A cache may be put in front of a provider that was added last. -/
theorem Served.push {providers : Array Provider} {p : Provider}
    (served : Served { v with providers := providers.push p } providers.size) (lifetime : Int) :
    Served { v with providers := (providers.push p).push (.cached providers.size lifetime []) }
      (providers.push p).size := by
  obtain ⟨base, caches, stack, usual⟩ := served
  have order : providers.size < (providers.push p).size := by
    rw [Array.size_push]
    exact Nat.lt_succ_self _
  refine ⟨base, _, .cache Array.getElem?_push_size order (stack.congr fun j small => ?_), usual⟩
  have old : j ≠ (providers.push p).size := Nat.ne_of_lt (Nat.lt_of_le_of_lt small order)
  exact (Array.getElem?_push).trans (if_neg old)

/-- In a new process there is a provider that is one of the process, perhaps behind caches. -/
def Backed (component : String) (host : Host) (id : ProviderId) (w : World) : Prop :=
  ∃ v, Fresh component v w ∧ v.host = host ∧ Served v id

theorem Backed.logged {id : ProviderId} {host : Host} (w : World) (n : Logging.Notice)
    (backed : Backed component host id w) : Backed component host id (w.logged n) := by
  obtain ⟨v, fresh, rest⟩ := backed
  exact ⟨v, fresh.logged n, rest⟩

theorem Backed.host {id : ProviderId} {host : Host} {w : World}
    (backed : Backed component host id w) : w.host = host := by
  obtain ⟨v, fresh, rfl, -⟩ := backed
  exact fresh.host

end Groups

namespace Manager

open Groups (Backed ProviderId)

section Steps

variable {host : Host} {provider : ProviderId} {m : Manager}

/-- A manager with the usual parser and lists of its own is there, and its lookups of groups go
through a stack. -/
structure StandsIn (v : World) (m : Manager) (id : ManagerId) (p : Stored) : Prop where
  found : v.managers[id]? = some p
  standard : p.parser = .standard
  owns : p.Owns v.lists
  value : p.manager v.lists = m
  served : Groups.Served v m.provider

/-- Such a manager is there, and settings may have been looked up. -/
def Stands (component : String) (host : Host) (m : Manager) (id : ManagerId) (w : World) : Prop :=
  ∃ v p, Fresh component v w ∧ v.host = host ∧ StandsIn v m id p

/-- A manager that was added stands where the provider of groups was there before. -/
theorem Added.stands {p : Stored} {w after : World} (added : Added w p after)
    (standard : p.parser = .standard) (backed : Backed component host p.provider w) :
    Stands component host (p.manager after.lists) w.managers.size after := by
  obtain ⟨v, fresh, here, served⟩ := backed
  have again : Fresh component
      { v with lists := after.lists, managers := after.managers, readings := after.readings }
      after := by
    refine ⟨?_, ?_, ?_⟩
    · rw [added.whole, fresh.same]
    · rw [added.whole]
      exact fresh.paths
    · rw [added.whole]
      exact fresh.whole
  exact ⟨_, p, again, here, added.found, standard, added.owns, rfl, served.congr fun _ _ => rfl⟩

theorem Stands.served {id : ManagerId} {w : World} (stands : Stands component host m id w) :
    Groups.Served w m.provider := by
  obtain ⟨v, p, fresh, -, stands⟩ := stands
  exact stands.served.congr fun j _ => by rw [fresh.same]

end Steps

/-- The manager was made as the settings of a component say, for this user, or for the one running
the process if none is given. -/
inductive MadeBy (component amUser : String) (host : Host) (m : Manager) : Prop
  | intro {provider : ProviderId} {user : String} {conf : Options} {v w : World}
      (before : New component host v)
      (configured : (Groups.configured component v).1 = .ok provider)
      (owner : if amUser = "" then userOf host = some user else user = amUser)
      (after : New component host w) (options : (Settings.aclOptions component w).1 = .ok conf)
      (made : make .standard (some provider) user (some conf) = .ok m)

end Manager

end DagAccess
