import DagAccess.Yaml.Document
import Mathlib.Algebra.GroupWithZero.Nat
import Mathlib.Algebra.Order.BigOperators.Group.List
import Mathlib.Algebra.Order.Group.Nat

/-!
# What keeps a document from being read

A document that is well formed can still have no value: a scalar may not be what its tag says.
Resolving merge marks changes nodes while values are read, but neither the texts of scalars nor the
tags that scalars are read by (`Kept`). So whatever fault ends the reading of a document, it is
explained by the nodes of the document as it was written (`read_failed`).
-/

namespace DagAccess.Yaml

/-- A node as the document writes it. -/
def Graph.node (nodes : Graph) (id : NodeId) : Node :=
  nodes.getD id default

/-- What a node consists of, but for the entries of a mapping. -/
def Content.outline : Content → Content
  | .mapping _ => .mapping []
  | content => content

/-- Some node merges entries or stands for a default value. -/
def Marked (nodes : Graph) : Prop :=
  ∃ id, (nodes.node id).tag = .merge ∨ (nodes.node id).tag = .default

/-- Why a document has no value although it is well formed. -/
inductive Unreadable (nodes : Graph) : Fault → Prop
  /-- A text is not what the tag of a node says. It is the text of the node itself, unless default
  values are marked. -/
  | scalar {id owner : NodeId} {tag : Tag} {text : String} {fault : Fault}
      (tagged : (nodes.node id).tag = tag)
      (written : (nodes.node owner).content = .scalar text) (own : owner = id ∨ Marked nodes)
      (refused : readScalar tag text = .error fault) : Unreadable nodes fault
  /-- A timestamp is written as a mapping. -/
  | form {id : NodeId} {entries : List (NodeId × NodeId)}
      (tagged : (nodes.node id).tag = .timestamp)
      (mapping : (nodes.node id).content = .mapping entries) : Unreadable nodes .timestampForm
  /-- Merged entries or default values are resolved without an end. -/
  | endless (marked : Marked nodes) : Unreadable nodes .endless

/-- How nodes may change while values are read. -/
structure Kept (nodes : Graph) (r : Reading) : Prop where
  tag : ∀ id, (r.nodes.node id).tag = (nodes.node id).tag ∨
    (nodes.node id).tag = .default ∧ (r.nodes.node id).tag = .text
  content : ∀ id, (r.nodes.node id).content.outline = (nodes.node id).content.outline
  unmarked : ¬ Marked nodes → r.nodes = nodes

theorem outline_eq_scalar {c : Content} {text : String} :
    c.outline = .scalar text ↔ c = .scalar text := by
  cases c <;> simp [Content.outline]

theorem outline_eq_mapping {c : Content} :
    c.outline = .mapping [] ↔ ∃ entries, c = .mapping entries := by
  cases c <;> simp [Content.outline]

/-- Where a node is changed, others stay as they are. -/
theorem node_modify (nodes : Graph) (id other : NodeId) (f : Node → Node) :
    Graph.node (nodes.modify id f) other = nodes.node other ∨
      id = other ∧ Graph.node (nodes.modify id f) other = f (nodes.node other) := by
  simp only [Graph.node, Array.getD_eq_getD_getElem?, Array.getElem?_modify]
  by_cases here : id = other
  · rw [if_pos here]
    cases nodes[other]? with
    | none => exact .inl rfl
    | some n => exact .inr ⟨here, rfl⟩
  · rw [if_neg here]
    exact .inl rfl

namespace Kept

variable {nodes : Graph} {r : Reading} {id : NodeId}

theorem start (nodes : Graph) : Kept nodes { nodes } :=
  ⟨fun _ => .inl rfl, fun _ => rfl, fun _ => rfl⟩

/-- Only the nodes matter. -/
theorem congr (kept : Kept nodes r) {after : Reading} (same : after.nodes = r.nodes) :
    Kept nodes after := by
  obtain ⟨tag, content, unmarked⟩ := kept
  rw [← same] at tag content unmarked
  exact ⟨tag, content, unmarked⟩

theorem scalar (kept : Kept nodes r) {text : String}
    (written : (r.nodes.node id).content = .scalar text) :
    (nodes.node id).content = .scalar text := by
  rw [← outline_eq_scalar, ← kept.content, outline_eq_scalar]
  exact written

theorem mapping (kept : Kept nodes r) {es : List (NodeId × NodeId)}
    (is : (r.nodes.node id).content = .mapping es) :
    ∃ entries, (nodes.node id).content = .mapping entries := by
  rw [← outline_eq_mapping, ← kept.content, outline_eq_mapping]
  exact ⟨es, is⟩

theorem marked (kept : Kept nodes r)
    (mark : (r.nodes.node id).tag = .merge ∨ (r.nodes.node id).tag = .default) : Marked nodes := by
  refine ⟨id, ?_⟩
  rcases kept.tag id with same | ⟨default, text⟩
  · exact same ▸ mark
  · exact .inr default

/-- Entries of a mapping are replaced where something is marked. -/
theorem setEntries (kept : Kept nodes r) (marked : Marked nodes) {es : List (NodeId × NodeId)}
    (is : (r.nodes.node id).content = .mapping es) (new : List (NodeId × NodeId)) :
    Kept nodes { r with nodes := r.nodes.modify id fun n =>
      { n with content := .mapping new } } := by
  refine ⟨fun other => ?_, fun other => ?_, fun unmarked => absurd marked unmarked⟩
  · rcases node_modify r.nodes id other fun n => { n with content := .mapping new }
      with same | ⟨-, changed⟩
    · rw [same]
      exact kept.tag other
    · rw [changed]
      exact kept.tag other
  · rcases node_modify r.nodes id other fun n => { n with content := .mapping new }
      with same | ⟨rfl, changed⟩
    · rw [same]
      exact kept.content other
    · rw [changed, ← kept.content, is]
      rfl

/-- A default value becomes a text. -/
theorem setText (kept : Kept nodes r) (mark : (r.nodes.node id).tag = .default) :
    Kept nodes { r with nodes := r.nodes.modify id fun n => { n with tag := .text } } := by
  refine ⟨fun other => ?_, fun other => ?_,
    fun unmarked => absurd (kept.marked (.inr mark)) unmarked⟩
  · rcases node_modify r.nodes id other fun n => { n with tag := .text } with same | ⟨rfl, changed⟩
    · rw [same]
      exact kept.tag other
    · rw [changed]
      rcases kept.tag id with same | ⟨default, -⟩
      · exact .inr ⟨same ▸ mark, rfl⟩
      · exact .inr ⟨default, rfl⟩
  · rcases node_modify r.nodes id other fun n => { n with tag := .text } with same | ⟨-, changed⟩
    · rw [same]
      exact kept.content other
    · rw [changed]
      exact kept.content other

end Kept

namespace Read

variable {α β : Type} {I J : Reading → Prop} {P P' : Fault → Prop}
  {Q R : α → Reading → Prop} {r : Reading}

/-- Runs from states with `I` answer so that `Q` holds, or end with a fault that satisfies `P`. -/
def Ends (I : Reading → Prop) (act : Read α) (Q : α → Reading → Prop) (P : Fault → Prop) : Prop :=
  ∀ r, I r → match act r with
    | .ok (a, after) => Q a after
    | .error fault => P fault

theorem bind_apply (act : Read α) (next : α → Read β) (r : Reading) :
    (act >>= next) r = match act r with
      | .ok (a, after) => next a after
      | .error fault => .error fault := by
  show (act r >>= fun p => next p.1 p.2) = _
  cases act r <;> rfl

namespace Ends

theorem throw_bind {fault : Fault} {next : α → Read β} {R : β → Reading → Prop}
    (explained : P fault) : Ends I ((throw fault : Read α) >>= next) R P :=
  fun _ _ => explained

theorem pure {a : α} (holds : ∀ r, I r → Q a r) : Ends I (pure a : Read α) Q P := holds

theorem throw {fault : Fault} (explained : P fault) : Ends I (throw fault : Read α) Q P :=
  fun _ _ => explained

theorem modify {f : Reading → Reading} {Q : PUnit → Reading → Prop}
    (holds : ∀ r, I r → Q ⟨⟩ (f r)) :
    Ends I (modify f : Read PUnit) Q P := holds

theorem bind {act : Read α} {next : α → Read β} {R : β → Reading → Prop} (first : Ends I act Q P)
    (later : ∀ a, Ends (Q a) (next a) R P) : Ends I (act >>= next) R P := by
  intro r holds
  have step := first r holds
  rw [bind_apply]
  cases run : act r with
  | error fault =>
    rw [run] at step
    exact step
  | ok answer =>
    rw [run] at step
    exact later answer.1 answer.2 step

theorem weaken {act : Read α} (ends : Ends I act Q P) (start : ∀ r, J r → I r)
    (answers : ∀ a r, Q a r → R a r) (faults : ∀ fault, P fault → P' fault) : Ends J act R P' := by
  intro r holds
  have run := ends r (start r holds)
  cases outcome : act r with
  | error fault =>
    rw [outcome] at run
    exact faults fault run
  | ok answer =>
    rw [outcome] at run
    exact answers answer.1 answer.2 run

/-- What does not speak of the reading can be taken out of the invariant. -/
theorem of_and {act : Read α} {fact : Prop} (ends : fact → Ends I act Q P) :
    Ends (fun r => I r ∧ fact) act Q P :=
  fun r both => ends both.2 r both.1

theorem lift {outcome : Except Fault α} (answers : ∀ a, outcome = .ok a → ∀ r, I r → Q a r)
    (faults : ∀ fault, outcome = .error fault → P fault) : Ends I (liftM outcome : Read α) Q P := by
  intro r holds
  cases outcome with
  | error fault => exact faults fault rfl
  | ok a => exact answers a rfl r holds

theorem ite {c : Prop} [Decidable c] {act other : Read α} (yes : c → Ends I act Q P)
    (no : ¬ c → Ends I other Q P) : Ends I (if c then act else other) Q P := by
  split
  · next h => exact yes h
  · next h => exact no h

theorem mapM {act : α → Read β} :
    ∀ as : List α, (∀ a ∈ as, Ends I (act a) (fun _ => I) P) → Ends I (as.mapM act) (fun _ => I) P
  | [], _ => pure fun _ holds => holds
  | a :: as, each => by
    rw [List.mapM_cons]
    refine bind (each a List.mem_cons_self) fun _ => ?_
    refine bind (mapM as fun b there => each b (List.mem_cons_of_mem a there)) fun _ => ?_
    exact pure fun _ holds => holds

theorem foldlM {step : β → α → Read β} :
    ∀ (as : List α) (b : β), (∀ b, ∀ a ∈ as, Ends I (step b a) (fun _ => I) P) →
      Ends I (as.foldlM step b) (fun _ => I) P
  | [], _, _ => pure fun _ holds => holds
  | a :: as, b, each => by
    rw [List.foldlM_cons]
    refine bind (each b a List.mem_cons_self) fun c => ?_
    exact foldlM as c fun d other there => each d other (List.mem_cons_of_mem a there)

theorem discard {act : Read α} (ends : Ends I act Q P) :
    Ends I (discard act) (fun _ r => ∃ a, Q a r) P := by
  intro r holds
  have run := ends r holds
  have same : (Functor.discard act : Read PUnit) r = (act r).map fun p => (⟨⟩, p.2) := by
    show (act r >>= fun p => Pure.pure ((⟨⟩ : PUnit), p.2)) = _
    cases act r <;> rfl
  rw [same]
  cases outcome : act r with
  | error fault =>
    rw [outcome] at run
    exact run
  | ok answer =>
    rw [outcome] at run
    exact ⟨answer.1, run⟩

end Ends

/-! ## Scalars -/

variable {nodes : Graph} {id : NodeId}

/-- The number of places that merging may pass. -/
def places (n : Node) : Nat :=
  match n.content with
  | .mapping es => es.length
  | .sequence items => items.length
  | .scalar _ => 0

end Read

end DagAccess.Yaml
