import DagAccess.Assoc
import DagAccess.Logging.Configuration

/-!
# Loggers after changes

Changes to loggers are followed by what is found under each name. `State.get` has one equation for
each change: mentioning a logger and logging a message leave all loggers as they are (`get_mention`,
`keeping_log`), an update changes the one logger of its name (`get_update`), and undoing gives back
the loggers that existed (`get_restore`). A logger that exists goes on to exist (`Knows`); `Keeping`
is what mentioning and logging have in common.
-/

namespace DagAccess

namespace Logging.State

variable {s t : State} {n name : String}

/-- The logger of this name exists. -/
def Knows (s : State) (n : String) : Prop := (s.find? n).isSome = true

instance (s : State) (n : String) : Decidable (s.Knows n) :=
  inferInstanceAs (Decidable (_ = true))

theorem knows_root (s : State) (root : isRoot n = true) : s.Knows n := by
  rw [Knows, find?, if_pos root]
  rfl

theorem knows_iff (other : isRoot n = false) : s.Knows n ↔ (s.loggers.lookup n).isSome = true := by
  rw [Knows, find?, if_neg (by simp [other])]

theorem get_root (s : State) (root : isRoot n = true) : s.get n = s.root := by
  rw [get, find?, if_pos root]
  rfl

theorem get_other (s : State) (other : isRoot n = false) :
    s.get n = (s.loggers.lookup n).getD {} := by
  rw [get, find?, if_neg (by simp [other])]

/-- A logger that does not exist has no settings. -/
theorem get_of_not_knows (new : ¬ s.Knows n) : s.get n = {} := by
  rw [get, Option.not_isSome_iff_eq_none.mp new]
  rfl

/-! ## Mentioning -/

theorem mention_of_knows (there : s.Knows name) : s.mention name = s :=
  if_pos there

theorem mention_of_not_knows (new : ¬ s.Knows name) :
    s.mention name = { s with loggers := s.loggers ++ [(name, {})] } :=
  if_neg new

theorem lookup_mention (new : ¬ s.Knows name) (n : String) :
    (s.mention name).loggers.lookup n = if n = name then some {} else s.loggers.lookup n := by
  have other : isRoot name = false := by
    rw [Bool.eq_false_iff]
    exact fun root => new (s.knows_root root)
  have missing : s.loggers.lookup name = none :=
    Option.not_isSome_iff_eq_none.mp (mt (knows_iff other).mpr new)
  rw [mention_of_not_knows new]
  simp only [List.lookup_append]
  by_cases same : n = name
  · rw [if_pos same, same, missing, List.lookup_cons_self]
    rfl
  · rw [if_neg same, List.lookup_cons, beq_false_of_ne same]
    cases s.loggers.lookup n <;> rfl

@[simp]
theorem root_mention (s : State) (name : String) : (s.mention name).root = s.root := by
  unfold mention
  split <;> rfl

@[simp]
theorem handlers_mention (s : State) (name : String) : (s.mention name).handlers = s.handlers := by
  unfold mention
  split <;> rfl

theorem knows_mention : (s.mention name).Knows n ↔ s.Knows n ∨ n = name := by
  by_cases there : s.Knows name
  · rw [mention_of_knows there]
    exact ⟨.inl, fun either => either.elim id fun same => same ▸ there⟩
  · cases root : isRoot n with
    | true => exact iff_of_true (knows_root _ root) (.inl (knows_root _ root))
    | false =>
      rw [knows_iff root, knows_iff root, lookup_mention there]
      by_cases same : n = name
      · simp [same]
      · simp [same]

theorem get_mention (s : State) (name n : String) : (s.mention name).get n = s.get n := by
  by_cases there : s.Knows name
  · rw [mention_of_knows there]
  · cases root : isRoot n with
    | true => rw [get_root _ root, get_root _ root, root_mention]
    | false =>
      by_cases same : n = name
      · rw [get_of_not_knows (s := s) (same ▸ there), get_other _ root,
          lookup_mention there, if_pos same]
        rfl
      · rw [get_other _ root, get_other _ root, lookup_mention there, if_neg same]

/-! ## Updating -/

/-- Both names stand for the root, or they are the same. -/
def SameLogger (n name : String) : Prop := isRoot n = true ∧ isRoot name = true ∨ n = name

instance (n name : String) : Decidable (SameLogger n name) :=
  inferInstanceAs (Decidable (_ ∨ _))

theorem update_root (root : isRoot name = true) (f : Logger → Logger) :
    s.update name f = { s with root := f s.root } :=
  if_pos root

theorem update_other (other : isRoot name = false) (f : Logger → Logger) :
    s.update name f = { s.mention name with
      loggers :=
        (s.mention name).loggers.map fun e => (e.1, if e.1 = name then f e.2 else e.2) } := by
  rw [update, if_neg (by simp [other])]
  have same : (fun e : String × Logger => if e.1 = name then (name, f e.2) else e) =
      fun e => (e.1, if e.1 = name then f e.2 else e.2) := by
    funext e
    split
    · next h => rw [← h]
    · rfl
  simp only [same]

theorem lookup_update (other : isRoot name = false) (f : Logger → Logger) (n : String) :
    (s.update name f).loggers.lookup n =
      ((s.mention name).loggers.lookup n).map fun l => if n = name then f l else l := by
  rw [update_other other]
  exact Assoc.lookup_map (fun k l => if k = name then f l else l) _ n

@[simp]
theorem handlers_update (s : State) (name : String) (f : Logger → Logger) :
    (s.update name f).handlers = s.handlers := by
  by_cases root : isRoot name = true
  · rw [update_root root]
  · rw [update_other (Bool.eq_false_iff.mpr root)]
    exact handlers_mention s name

theorem knows_update (f : Logger → Logger) : (s.update name f).Knows n ↔ s.Knows n ∨ n = name := by
  cases root : isRoot n with
  | true => exact iff_of_true (knows_root _ root) (.inl (knows_root _ root))
  | false =>
    cases rootName : isRoot name with
    | true =>
      have other : n ≠ name := fun same => Bool.noConfusion (root.symm.trans (same ▸ rootName))
      rw [knows_iff root, knows_iff root, update_root rootName]
      exact ⟨.inl, fun either => either.elim id fun same => absurd same other⟩
    | false =>
      rw [← knows_mention, knows_iff root, knows_iff root, lookup_update rootName,
        Option.isSome_map]

theorem sameLogger_of_root (root : isRoot name = true) : SameLogger n name ↔ isRoot n = true :=
  ⟨fun either => either.elim And.left fun same => same ▸ root, fun first => .inl ⟨first, root⟩⟩

theorem sameLogger_of_other (other : isRoot name = false) : SameLogger n name ↔ n = name :=
  ⟨fun either => either.elim (fun both => Bool.noConfusion (other.symm.trans both.2)) id, .inr⟩

/-- An update changes the logger of its name only. -/
theorem get_update (s : State) (name : String) (f : Logger → Logger) (n : String) :
    (s.update name f).get n = if SameLogger n name then f (s.get n) else s.get n := by
  cases rootName : isRoot name with
  | true =>
    -- all names of the root stand for one logger
    simp only [sameLogger_of_root rootName]
    rw [update_root rootName]
    cases root : isRoot n with
    | true => rw [if_pos rfl, get_root _ root, get_root _ root]
    | false => rw [if_neg Bool.false_ne_true, get_other _ root, get_other _ root]
  | false =>
    simp only [sameLogger_of_other rootName]
    cases root : isRoot n with
    | true =>
      have other : n ≠ name := fun same => Bool.noConfusion (rootName.symm.trans (same ▸ root))
      rw [if_neg other, get_root _ root, get_root _ root, update_other rootName]
      exact root_mention s name
    | false =>
      rw [← get_mention s name, get_other _ root, get_other _ root, lookup_update rootName]
      by_cases same : n = name
      · have there : (s.mention name).Knows n := knows_mention.mpr (.inr same)
        obtain ⟨l, found⟩ := Option.isSome_iff_exists.mp ((knows_iff root).mp there)
        rw [if_pos same, found]
        simp [same]
      · rw [if_neg same]
        simp [same]

theorem update_update (s : State) (name : String) (f g : Logger → Logger) :
    (s.update name f).update name g = s.update name (g ∘ f) := by
  cases root : isRoot name with
  | true =>
    rw [update_root root, update_root root, update_root root]
    rfl
  | false =>
    have there : (s.update name f).Knows name := (knows_update f).mpr (.inr rfl)
    rw [update_other root, mention_of_knows there, update_other root, update_other root]
    simp only [List.map_map, mk.injEq, true_and, and_true]
    refine List.map_congr_left fun e _ => ?_
    by_cases same : e.1 = name <;> simp [same]

theorem mention_update (s : State) (name : String) (f : Logger → Logger) :
    (s.mention name).update name f = s.update name f := by
  have there : (s.mention name).Knows name := knows_mention.mpr (.inr rfl)
  cases root : isRoot name with
  | true => rw [mention_of_knows (s.knows_root root)]
  | false => rw [update_other root, mention_of_knows there, update_other root]

theorem update_id (s : State) (name : String) : s.update name id = s.mention name := by
  cases root : isRoot name with
  | true =>
    rw [update_root root, mention_of_knows (s.knows_root root)]
    rfl
  | false =>
    rw [update_other root]
    have same : (s.mention name).loggers.map (fun e => (e.1, if e.1 = name then id e.2 else e.2)) =
        (s.mention name).loggers := by
      simp
    rw [same]

/-! ## Undoing -/

/-- Loggers that existed are as they were, others stay as they are. -/
theorem get_restore {old : State} (grown : ∀ n, old.Knows n → s.Knows n) (n : String) :
    (old.restore s).get n = if old.Knows n then old.get n else s.get n := by
  cases root : isRoot n with
  | true =>
    rw [get_root _ root, get_root _ root, if_pos (knows_root _ root)]
    rfl
  | false =>
    have found := Assoc.lookup_map (fun k l => (old.loggers.lookup k).getD l) s.loggers n
    rw [get_other _ root, get_other _ root, get_other _ root, restore, found]
    by_cases there : old.Knows n
    · obtain ⟨l, before⟩ := Option.isSome_iff_exists.mp ((knows_iff root).mp there)
      obtain ⟨k, now⟩ := Option.isSome_iff_exists.mp ((knows_iff root).mp (grown n there))
      rw [if_pos there, before, now]
      rfl
    · have before := Option.not_isSome_iff_eq_none.mp (mt (knows_iff root).mpr there)
      rw [if_neg there, before]
      cases s.loggers.lookup n <;> rfl

/-! ## Logging -/

/-- Loggers and handlers stay as they are; loggers that have no settings may come to exist. -/
structure Keeping (s t : State) : Prop where
  get : ∀ n, t.get n = s.get n
  handlers : t.handlers = s.handlers
  knows : ∀ n, s.Knows n → t.Knows n

theorem Keeping.refl (s : State) : Keeping s s :=
  ⟨fun _ => rfl, rfl, fun _ there => there⟩

theorem Keeping.trans {u : State} (first : Keeping s t) (second : Keeping t u) : Keeping s u :=
  ⟨fun n => (second.get n).trans (first.get n), second.handlers.trans first.handlers,
    fun n there => second.knows n (first.knows n there)⟩

theorem keeping_mention (s : State) (name : String) : Keeping s (s.mention name) :=
  ⟨get_mention s name, handlers_mention s name, fun _ there => knows_mention.mpr (.inl there)⟩

theorem keeping_print (s : State) (stream : Stream) (text : String) :
    Keeping s (s.print stream text) := by
  cases stream
  · exact ⟨fun _ => rfl, rfl, fun _ there => there⟩
  · exact ⟨fun _ => rfl, rfl, fun _ there => there⟩

theorem keeping_handle (r : Record) (s : State) (id : HandlerId) : Keeping s (handle r s id) := by
  unfold handle
  cases s.handlers[id]? with
  | none => exact .refl s
  | some h =>
    simp only
    split
    · exact .refl s
    · cases line? h r with
      | none => exact .refl s
      | some line => exact keeping_print s h.stream _

/-- Logging a message writes records and lines only. -/
theorem keeping_log (s : State) (notice : Notice) : Keeping s (s.log notice) := by
  have handled :
      ∀ (r : Record) (ids : List HandlerId) (s : State), Keeping s (ids.foldl (handle r) s) := by
    intro r ids
    induction ids with
    | nil => exact .refl
    | cons id rest ih => exact fun s => (keeping_handle r s id).trans (ih _)
  have recorded : ∀ (s : State) (r : Record), Keeping s { s with records := s.records ++ [r] } :=
    fun s r => ⟨fun _ => rfl, rfl, fun _ there => there⟩
  simp only [log]
  -- which logger is mentioned and what is found for it does not matter from here on
  generalize (if isRoot notice.logger = true then rootName else notice.logger) = name
  refine (keeping_mention s name).trans ?_
  generalize s.mention name = s
  split
  · exact .refl s
  · refine (recorded s ⟨notice.level, name, notice.message, s.tag⟩).trans ?_
    split
    · split
      · exact .refl _
      · exact keeping_print _ _ _
    · exact handled _ _ _

theorem keeping_logAll (notices : List Notice) (s : State) : Keeping s (notices.foldl log s) := by
  induction notices generalizing s with
  | nil => exact .refl s
  | cons notice rest ih => exact (keeping_log s notice).trans (ih _)

end Logging.State

end DagAccess
