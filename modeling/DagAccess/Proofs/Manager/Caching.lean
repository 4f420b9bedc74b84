import DagAccess.Proofs.Groups.Constant
import DagAccess.Proofs.Manager.Derivation

/-!
# Caches do not change decisions

Managers that share a cache are asked `Question`s; between them lookups are invalidated and the
clock is set to any time. If the provider behind the cache is constant for the users that the
questions are about, every question is answered as if its manager had no cache and nothing else had
happened (`answers_eq_uncached`). For a check asks the provider or leaves it alone (`check_turns`),
and the answer to a question depends on its manager's rules and on what a constant provider says
(`Question.ask_via`).
-/

namespace DagAccess.Manager

open Groups (Constant Turn ProviderId)
open Relation (ReflTransGen)

/-! ## Checks and the provider -/

/-- A check asks the provider or leaves it alone. -/
theorem check_turns (m : Manager) (user : String) (t : AclType) (w : World) :
    ReflTransGen (Turn m.provider) w (m.check user t w).2 := by
  by_cases needs : m.NeedsGroups user t
  · exact .tail (.single (.asked w user)) (.of_unlogged (check_needed needs w).2)
  · exact .single (.of_unlogged (check_unlogged needs w))

theorem run_checkDag (m : Manager) (user : String) (r : Right) (w : World) :
    m.checkDag user r w = match m.check user (.ofAm r) w with
      | (.ok true, after) => (.ok true, after)
      | (.ok false, after) => m.check user (.ofDag r) after
      | (.error fault, after) => (.error fault, after) := by
  rw [checkDag, Act.run_bind]
  rcases m.check user (.ofAm r) w with ⟨outcome, after⟩
  cases outcome with
  | error fault => rfl
  | ok granted => cases granted <;> rfl

theorem checkDag_turns (m : Manager) (user : String) (r : Right) (w : World) :
    ReflTransGen (Turn m.provider) w (m.checkDag user r w).2 := by
  have first := m.check_turns user (.ofAm r) w
  rw [run_checkDag]
  rcases run : m.check user (.ofAm r) w with ⟨outcome, after⟩
  rw [run] at first
  cases outcome with
  | error fault => exact first
  | ok granted =>
    cases granted with
    | true => exact first
    | false => exact first.trans (m.check_turns user (.ofDag r) after)

theorem checkAction_turns (m : Manager) (user : String) (t : AclType) (w : World) :
    ReflTransGen (Turn m.provider) w (m.checkAction user t w).2 := by
  cases t with
  | amView => exact m.check_turns user .amView w
  | amModify => exact m.check_turns user .amModify w
  | dagView => exact m.checkDag_turns user .view w
  | dagModify => exact m.checkDag_turns user .modify w

section Congruence

variable {m m' : Manager} {user : String} {outcome : Except Fault PrincipalSet} {w w' : World}
  (ruling : ∀ t, m'.rule user t = m.rule user t) (constant : Constant m.provider user outcome w)
  (constant' : Constant m'.provider user outcome w')
include ruling constant constant'

/-- Managers with the same rules decide alike if their providers say the same about the user. -/
theorem check_constant (t : AclType) : (m'.check user t w').1 = (m.check user t w).1 :=
  check_congr (ruling t) (constant'.answer.trans constant.answer.symm)

theorem checkDag_constant (r : Right) : (m'.checkDag user r w').1 = (m.checkDag user r w).1 := by
  have am := check_constant ruling constant constant' (.ofAm r)
  have later := constant.later (m.check_turns user (.ofAm r) w)
  have later' := constant'.later (m'.check_turns user (.ofAm r) w')
  rw [run_checkDag, run_checkDag]
  rcases run : m.check user (.ofAm r) w with ⟨answer, after⟩
  rcases run' : m'.check user (.ofAm r) w' with ⟨answer', after'⟩
  rw [run] at am later
  rw [run'] at am later'
  obtain rfl : answer' = answer := am
  cases answer' with
  | error fault => rfl
  | ok granted =>
    cases granted with
    | true => rfl
    | false => exact check_constant ruling later later' (.ofDag r)

theorem checkAction_constant (t : AclType) :
    (m'.checkAction user t w').1 = (m.checkAction user t w).1 := by
  cases t with
  | amView => exact check_constant ruling constant constant' .amView
  | amModify => exact check_constant ruling constant constant' .amModify
  | dagView => exact checkDag_constant ruling constant constant' .view
  | dagModify => exact checkDag_constant ruling constant constant' .modify

end Congruence

/-! ## Questions to managers that share a cache -/

/-- A manager is asked about an action of a user: by itself, or so that a right over the AM implies
the one over the DAG. -/
structure Question where
  manager : Manager
  user : String
  t : AclType
  implied : Bool

namespace Question

def ask (q : Question) : Act Bool :=
  if q.implied then q.manager.checkAction q.user q.t else q.manager.check q.user q.t

/-- The question to the same manager with another provider. -/
def via (q : Question) (provider : ProviderId) : Question :=
  { q with manager := { q.manager with provider } }

theorem ask_turns (q : Question) (w : World) :
    ReflTransGen (Turn q.manager.provider) w (q.ask w).2 := by
  unfold ask
  cases q.implied with
  | false => exact q.manager.check_turns q.user q.t w
  | true => exact q.manager.checkAction_turns q.user q.t w

/-- Whichever provider a manager has, it answers the same if that says the same about the user. -/
theorem ask_via {q : Question} {provider : ProviderId} {outcome : Except Fault PrincipalSet}
    {w w' : World} (constant : Constant q.manager.provider q.user outcome w)
    (constant' : Constant provider q.user outcome w') :
    ((q.via provider).ask w').1 = (q.ask w).1 := by
  obtain ⟨m, user, t, implied⟩ := q
  have ruling : ∀ t, { m with provider }.rule user t = m.rule user t := fun _ => rfl
  cases implied with
  | false => exact check_constant ruling constant constant' t
  | true => exact checkAction_constant ruling constant constant' t

end Question

/-- What happens to managers that share a cache. -/
inductive Use
  | ask (q : Question)
  | invalidate (user : Option String)
  | setClock (time : Int)

def Use.question? : Use → Option Question
  | .ask q => some q
  | _ => none

def questions (uses : List Use) : List Question :=
  uses.filterMap Use.question?

/-- The answers to the questions, one after the other. -/
def answers (cache : ProviderId) : List Use → World → List (Except Fault Bool)
  | [], _ => []
  | .ask q :: rest, w => (q.ask w).1 :: answers cache rest (q.ask w).2
  | .invalidate user :: rest, w => answers cache rest (Groups.invalidate cache user w).2
  | .setClock time :: rest, w => answers cache rest { w with clock := time }

/-- **Caching and the order of checks never change a decision.** -/
theorem answers_eq_uncached {cache inner : ProviderId} {lifetime : Int} {w : World}
    (kind : w.providers[cache]? = some (.cached inner lifetime [])) (order : inner < cache)
    {groupsOf : String → Except Fault PrincipalSet} {uses : List Use}
    (shared : ∀ q ∈ questions uses, q.manager.provider = cache)
    (constant : ∀ q ∈ questions uses, Constant inner q.user (groupsOf q.user) w) {alone : World}
    (constant_alone : ∀ q ∈ questions uses, Constant inner q.user (groupsOf q.user) alone) :
    answers cache uses w = (questions uses).map fun q => ((q.via inner).ask alone).1 := by
  have mirrors : ∀ q ∈ questions uses,
      Groups.Mirrors cache inner lifetime q.user (groupsOf q.user) w :=
    fun q asked => .start kind order (constant q asked)
  clear constant kind
  -- the cache goes on to mirror the provider for all users that are still asked about
  induction uses generalizing w with
  | nil => rfl
  | cons use rest ih =>
    cases use with
    | ask q =>
      have here : q ∈ questions (.ask q :: rest) := List.mem_cons_self
      have later : ∀ p ∈ questions rest, p ∈ questions (.ask q :: rest) :=
        fun p asked => List.mem_cons_of_mem q asked
      have turns := q.ask_turns w
      rw [shared q here] at turns
      have first : (q.ask w).1 = ((q.via inner).ask alone).1 := by
        refine (Question.ask_via ?_ (constant_alone q here)).symm
        rw [shared q here]
        exact (mirrors q here).constant
      have others := ih (fun p asked => shared p (later p asked))
        (fun p asked => constant_alone p (later p asked))
        (fun p asked => (mirrors p (later p asked)).turns turns)
      calc answers cache (.ask q :: rest) w
          = (q.ask w).1 :: answers cache rest (q.ask w).2 := rfl
        _ = ((q.via inner).ask alone).1 ::
              (questions rest).map fun p => ((p.via inner).ask alone).1 := by rw [first, others]
    | invalidate user =>
      exact ih shared constant_alone fun q asked => (mirrors q asked).invalidate user
    | setClock time =>
      exact ih shared constant_alone fun q asked =>
        (mirrors q asked).turn (.aside rfl fun _ _ => rfl)

/-- Some users have groups, for others the backend or the system fails. -/
def moodyScript : Groups.Script where
  name := "moody"
  outcomes := [("ann", [⟨5, .ok (.ofList ["eng"])⟩]),
    ("bob", [⟨0, .error (.lookup (.reported "down"))⟩]),
    ("cat", [⟨2, .error (.backend ⟨"OSError", true, "no route"⟩)⟩])]

/-- A cache for ten seconds in front of the script. -/
def moodyWorld : World :=
  { World.start {} 0 with providers := #[.script moodyScript, .cached 0 10 []] }

def engRoot : Manager where
  provider := 1
  amUser := "am"
  grants := Acl.readGrants .am [("view_acls", " eng")]

def opsDag : Manager :=
  { engRoot with
    dagUser := some "dan"
    grants := engRoot.grants.merge (Acl.readGrants .dag [("dag_modify_acls", " ops")]) }

/-- Both managers are asked, while the clock goes forth and back. -/
def moodyUses : List Use :=
  [.ask ⟨engRoot, "ann", .amView, false⟩, .setClock (-100), .ask ⟨opsDag, "ann", .dagView, true⟩,
    .ask ⟨opsDag, "bob", .dagModify, true⟩, .invalidate (some "ann"),
    .ask ⟨opsDag, "cat", .dagView, true⟩, .setClock 50, .invalidate none,
    .ask ⟨engRoot, "ann", .amView, false⟩]

/-- Failures are not remembered, and entries come and go, but the answers are those without a
cache. -/
theorem answers_eq_uncached_moody :
    answers 1 moodyUses moodyWorld = [.ok true, .ok true, .ok false, .ok false, .ok true] := by
  let groupsOf : String → Except Fault PrincipalSet := fun user => (moodyScript.next user).1.result
  have constant : ∀ user, Constant 0 user (groupsOf user) moodyWorld :=
    Groups.constant_script rfl (by decide)
  have shared : ∀ q ∈ questions moodyUses, q.manager.provider = 1 := by decide
  rw [answers_eq_uncached rfl (by decide) shared (fun q _ => constant q.user) fun q _ =>
    constant q.user]
  decide +kernel

end DagAccess.Manager
