import DagAccess.Proofs.Manager.Frame
import DagAccess.Proofs.Manager.Making

/-!
# Managers are only added

Where every manager has lists of its own, no operation changes a manager that is there, and the
managers that operations add were made from options or derived from a manager with a smaller number
and have lists of their own again (`Grows`). Every operation is confined to that, whatever parsers
do to the lists that they know.
-/

namespace DagAccess

open AllowList.Store (Spares)
open Stateful (Confined)

/-- Every manager has lists of its own. -/
structure World.Apart (w : World) : Prop where
  owns : ∀ {n : ManagerId} {m : Manager.Stored}, w.managers[n]? = some m → m.Owns w.lists

namespace Manager

/-! ## Growth -/

/-- The manager was made from options, or derived from a manager with a smaller number, of what its
parser answered at that time. -/
def Issued (w : World) (n : ManagerId) (m : Stored) : Prop :=
  ∃ asked, (∃ provider amUser conf,
      make (m.parser.reader asked) provider amUser conf = .ok (m.manager w.lists)) ∨
    ∃ k p dagUser conf, k < n ∧ w.managers[k]? = some p ∧ p.parser = m.parser ∧
      (p.manager w.lists).forDag (m.parser.reader asked) dagUser conf = .ok (m.manager w.lists)

/-- Managers that were there stay as they are, new ones were issued, and all have lists of their
own. -/
structure Grows (before after : World) : Prop where
  apart : after.Apart
  kept : ∀ {n : ManagerId} {m : Stored}, before.managers[n]? = some m →
    after.managers[n]? = some m ∧ m.manager after.lists = m.manager before.lists
  issued : ∀ {n : ManagerId} {m : Stored}, before.managers.size ≤ n → after.managers[n]? = some m →
    Issued after n m

variable {v w : World}

theorem Issued.mono {n : ManagerId} {m : Stored} (issued : Issued v n m)
    (kept : ∀ {k : ManagerId} {p : Stored}, v.managers[k]? = some p →
      w.managers[k]? = some p ∧ p.manager w.lists = p.manager v.lists)
    (there : v.managers[n]? = some m) : Issued w n m := by
  have same := (kept there).2
  obtain ⟨asked, issued⟩ := issued
  refine ⟨asked, ?_⟩
  rcases issued
    with ⟨provider, amUser, conf, made⟩ | ⟨k, p, dagUser, conf, smaller, found, parser, derived⟩
  · exact .inl ⟨provider, amUser, conf, same ▸ made⟩
  · obtain ⟨still, parent⟩ := kept found
    exact .inr ⟨k, p, dagUser, conf, smaller, still, parser, by rw [same, parent]; exact derived⟩

/-- Where only private lists stay as they are and no manager is added, nothing becomes of
managers. -/
theorem Grows.of_spares (apart : v.Apart) (managers : w.managers = v.managers)
    (spares : Spares [] v.lists w.lists) : Grows v w where
  apart := by
    refine ⟨fun {n m} there => ?_⟩
    rw [managers] at there
    exact ((apart.owns there).spared spares).1
  kept {n m} there := ⟨managers ▸ there, ((apart.owns there).spared spares).2⟩
  issued {n m} new there := by
    rw [managers, Array.getElem?_eq_none new] at there
    cases there

theorem Grows.trans {u : World} (first : Grows u v) (second : Grows v w) : Grows u w where
  apart := second.apart
  kept there := by
    obtain ⟨still, same⟩ := first.kept there
    obtain ⟨last, value⟩ := second.kept still
    exact ⟨last, value.trans same⟩
  issued {n m} new there := by
    -- a manager that is new at the end was added by the first step or by the second one
    by_cases old : n < v.managers.size
    · have before : v.managers[n]? = some v.managers[n] := Array.getElem?_eq_getElem old
      obtain rfl : v.managers[n] = m := Option.some.inj ((second.kept before).1.symm.trans there)
      exact (first.issued new before).mono second.kept before
    · exact second.issued (Nat.le_of_not_lt old) there

theorem getElem?_push_old {m k : Stored} {ms : Array Stored} {n : ManagerId}
    (there : ms[n]? = some k) : (ms.push m)[n]? = some k := by
  have bound : n < ms.size := (Array.getElem?_eq_some_iff.mp there).1
  rw [Array.getElem?_push, if_neg (Nat.ne_of_lt bound), there]

theorem Added.grows {m : Stored} (apart : v.Apart) (added : Added v m w)
    (issued : Issued w v.managers.size m) : Grows v w := by
  have only : ∀ {n : ManagerId} {k : Stored}, w.managers[n]? = some k →
      n = v.managers.size ∧ k = m ∨ v.managers[n]? = some k := by
    intro n k there
    rw [added.managers_eq, Array.getElem?_push] at there
    split at there
    · next last => exact .inl ⟨last, (Option.some.inj there).symm⟩
    · exact .inr there
  refine ⟨⟨fun {n k} there => ?_⟩,
    fun {n k} there => ⟨?_, ((apart.owns there).spared added.spares).2⟩, ?_⟩
  · rcases only there with ⟨-, rfl⟩ | old
    · exact added.owns
    · exact ((apart.owns old).spared added.spares).1
  · rw [added.managers_eq]
    exact getElem?_push_old there
  · intro n k new there
    rcases only there with ⟨rfl, rfl⟩ | old
    · exact issued
    · rw [Array.getElem?_eq_none new] at old
      cases old

end Manager

open Manager (Grows)

/-- Managers are only added where all have lists of their own. -/
def World.growing : Frame World where
  rel before after := before.Apart → Grows before after
  refl _ apart := .of_spares apart rfl (.refl _ _)
  trans first second apart := (first apart).trans (second (first apart).apart)

theorem World.growing_of_same {v w : World} (lists : w.lists = v.lists)
    (managers : w.managers = v.managers) : growing.rel v w :=
  fun apart => .of_spares apart managers (lists ▸ .refl _ _)

theorem World.growing_freesWork : World.growing.FreesWork :=
  ⟨fun _ lists managers => growing_of_same lists managers, fun _ _ => growing_of_same rfl rfl⟩

theorem World.growing_of_sparing {v w : World} (sparing : (World.sparing []).rel v w) :
    growing.rel v w :=
  fun apart => .of_spares apart (by rw [sparing.1]) sparing.2

theorem Act.restart_grows : Confined World.growing Act.restart :=
  fun _ => World.growing_of_same rfl rfl

namespace Manager

theorem create_grows (parser : Parser) (provider : Option Groups.ProviderId) (amUser : String)
    (conf : Option Options) : Confined World.growing (create parser provider amUser conf) := by
  intro w
  have makes := create_makes parser provider amUser conf w
  generalize create parser provider amUser conf w = result at makes ⊢
  cases makes with
  | refused => exact World.growing.refl w
  | failed _ sparing => exact World.growing_of_sparing sparing
  | made same made added =>
    subst same
    exact fun apart => added.grows apart ⟨_, .inl ⟨provider, amUser, conf, made⟩⟩

theorem derive_grows (parent : ManagerId) (dagUser : String) (conf : Option Options) :
    Confined World.growing (derive parent dagUser conf) := by
  intro w apart
  cases found : w.managers[parent]? with
  | none =>
    have missing : derive parent dagUser conf w = (.error (.noObject "manager"), w) := by
      unfold derive find
      simp only [Act.run_bind, Act.run_get, found, Act.run_throw]
    rw [missing]
    exact World.growing.refl w apart
  | some p =>
    have makes := derive_makes found (apart.owns found) dagUser conf
    have older : parent < w.managers.size := (Array.getElem?_eq_some_iff.mp found).1
    generalize derive parent dagUser conf w = result at makes ⊢
    cases makes with
    | refused => exact World.growing.refl w apart
    | failed _ sparing => exact World.growing_of_sparing sparing apart
    | made same made added =>
      have still := added.managers_eq ▸ getElem?_push_old found
      refine added.grows apart ⟨{ w with lists := p.copied w.lists },
        .inr ⟨parent, p, dagUser, conf, older, still, same.symm, ?_⟩⟩
      rw [same, ((apart.owns found).spared added.spares).2]
      exact made

theorem ofProcess_grows (amUser component : String) :
    Confined World.growing (ofProcess amUser component) :=
  World.growing_freesWork.ofProcess create_grows amUser component

end Manager

/-! ## The command -/

namespace Check

theorem decide_grows (q : Request) : Confined World.growing (decide q) := by
  have work := World.growing_freesWork
  have manager : Confined World.growing (manager q) :=
    Frame.FreesLookups.manager (Manager.ofProcess_grows _ _) Manager.derive_grows
  unfold decide
  refine .bind (Act.confined_attempt manager) fun outcome => ?_
  split
  · exact .bind (work.log _ _ _) fun _ => .pure _
  · exact .throw _
  · split
    · exact .bind (work.freesLookups.commandCheck _ _ _) fun _ => .pure _
    · exact .throw _

theorem run_grows (arguments : List String) : Confined World.growing (run arguments) := by
  have work := World.growing_freesWork
  refine work.freesQuiet.run arguments fun r _ => work.freesQuiet.answer ?_
  exact .ite (fun _ => decide_grows _) fun _ => work.tagged _ (decide_grows _)

theorem main_grows (arguments : List String) : Confined World.growing (main arguments) := by
  have work := World.growing_freesWork
  exact .bind Act.restart_grows fun _ => .bind (.map (work.startLogging _)) fun _ =>
    run_grows arguments

end Check

end DagAccess
