import DagAccess.Proofs.Logging.Tree
import DagAccess.Proofs.Stateful

/-!
# What configuring loggers does

Whether a document can be applied depends on the document alone (`verdict`), and so do the sections
that are applied before the work ends (`used`). A section changes its logger in one way, be it up to
a fault (`settle`), so a run of `configure` is its verdict together with the changes of the sections
used (`configure_run`). A logger that they are the first to name is found with what its own section
has made of it (`get_applied`).
-/

namespace DagAccess.Logging

/-! ## One logger -/

/-- The text of the option that names the handlers of a logger. -/
def handlersText (options : Ini.Entries) : Except Fault (Option String) :=
  match options.lookup "handlers" with
  | none => .ok none
  | some v => (textOf (.operation "split") v).map some

/-- Records go on to the handlers of the parent. -/
def propagates (options : Ini.Entries) : Bool :=
  match options.lookup "propagate" with
  | none => true
  | some v => v = .text "1"

/-- Whether the section of a logger can be applied. -/
def sectionVerdict (options : Ini.Entries) : Except Fault Unit := do
  let _ ← levelOf (options.lookup "level")
  let _ ← handlersText options

/-- A logger with the level and the flag that its section sets; the root has no flag. -/
def Logger.begin (name : String) (level : Level) (options : Ini.Entries) (l : Logger) : Logger :=
  { l with level, propagate := if name = rootName then l.propagate else propagates options }

/-- What the section of a logger makes of it, up to a fault if there is one. -/
def settle (handlers : List (String × HandlerId)) (name : String) (options : Ini.Entries) :
    Logger → Logger :=
  match levelOf (options.lookup "level") with
  | .error _ => id
  | .ok level =>
    match handlersText options with
    | .error _ => Logger.begin name level options
    | .ok names =>
      (fun l => { l with handlers := (handlerNames names).filterMap fun n => handlers.lookup n }) ∘
        Logger.begin name level options

theorem changeLogger_run (handlers : List (String × HandlerId)) (name : String)
    (options : Ini.Entries) (s : State) : changeLogger handlers name options s =
      (sectionVerdict options, s.update name (settle handlers name options)) := by
  rw [← State.mention_update]
  unfold changeLogger sectionVerdict
  rw [Stateful.bind_apply, Stateful.modify_apply]
  simp only [Stateful.bind_apply, Stateful.lift_apply]
  cases leveled : levelOf (options.lookup "level") with
  | error fault =>
    simp only [settle, leveled]
    rw [State.mention_update, State.update_id]
    rfl
  | ok level =>
    -- the level and the flag are set before the handlers are looked at
    have started : ∀ next : Configure Unit,
        (if name ≠ rootName then do
            modify (·.update name fun l => { l with propagate := propagates options })
            next
          else next) ((s.mention name).update name fun l => { l with level }) =
        next ((s.mention name).update name (Logger.begin name level options)) := by
      intro next
      unfold Logger.begin
      by_cases root : name = rootName
      · simp only [root, ne_eq, not_true_eq_false, if_false, if_true]
      · simp only [root, ne_eq, not_false_eq_true, if_true, if_false, Stateful.bind_apply,
          Stateful.modify_apply, State.update_update]
        rfl
    refine (started _).trans ?_
    cases value : options.lookup "handlers" with
    | none =>
      have text : handlersText options = .ok none := by simp only [handlersText, value]
      simp only [settle, leveled, text, Stateful.bind_apply, Stateful.pure_apply,
        Stateful.modify_apply, State.update_update]
      rfl
    | some v =>
      have text : handlersText options = (textOf (.operation "split") v).map some := by
        simp only [handlersText, value]
      rw [text]
      simp only [settle, leveled, text, Stateful.bind_apply, Stateful.lift_apply]
      cases textOf (.operation "split") v with
      | error fault => rfl
      | ok names =>
        simp only [Except.map, Stateful.pure_apply, Stateful.modify_apply, State.update_update]
        rfl

/-! ## All loggers -/

/-- The sections up to the first one that cannot be applied, which is used in part. -/
def upToFault : List (String × Ini.Entries) → List (String × Ini.Entries)
  | [] => []
  | e :: rest =>
    match sectionVerdict e.2 with
    | .ok _ => e :: upToFault rest
    | .error _ => [e]

theorem upToFault_sublist : ∀ es : List (String × Ini.Entries), (upToFault es).Sublist es
  | [] => .slnil
  | e :: rest => by
    rw [upToFault]
    cases sectionVerdict e.2 with
    | ok _ => exact (upToFault_sublist rest).cons_cons e
    | error fault => exact (List.nil_sublist rest).cons_cons e

/-- Loggers as sections make them, one after the other. -/
def State.applied (s : State) (handlers : List (String × HandlerId))
    (es : List (String × Ini.Entries)) : State :=
  es.foldl (fun s e => s.update e.1 (settle handlers e.1 e.2)) s

theorem changeLoggers_run (handlers : List (String × HandlerId)) (es : List (String × Ini.Entries))
    (s : State) :
    (es.forM fun (name, options) => changeLogger handlers name options) s =
      (es.forM fun e => sectionVerdict e.2, s.applied handlers (upToFault es)) := by
  induction es generalizing s with
  | nil => rfl
  | cons e rest ih =>
    obtain ⟨name, options⟩ := e
    rw [List.forM, List.forM, Stateful.bind_apply, upToFault]
    simp only [changeLogger_run]
    cases sectionVerdict options with
    | ok _ => exact ih _
    | error fault => rfl

@[simp]
theorem State.handlers_applied (s : State) (handlers : List (String × HandlerId))
    (es : List (String × Ini.Entries)) : (s.applied handlers es).handlers = s.handlers := by
  induction es generalizing s with
  | nil => rfl
  | cons e rest ih => exact (ih _).trans (handlers_update s e.1 _)

theorem State.knows_applied {s : State} {n : String} (there : s.Knows n)
    (handlers : List (String × HandlerId)) (es : List (String × Ini.Entries)) :
    (s.applied handlers es).Knows n := by
  induction es generalizing s with
  | nil => exact there
  | cons e rest ih => exact ih ((knows_update _).mpr (.inl there))

/-- Other loggers than the root are found as their own section leaves them. -/
theorem State.get_applied {es : List (String × Ini.Entries)} (distinct : (es.map Prod.fst).Nodup)
    (handlers : List (String × HandlerId)) (s : State) {n : String} (other : isRoot n = false) :
    (s.applied handlers es).get n = match es.lookup n with
      | none => s.get n
      | some options => settle handlers n options (s.get n) := by
  induction es generalizing s with
  | nil => rfl
  | cons e rest ih =>
    obtain ⟨once, distinct⟩ := List.nodup_cons.mp distinct
    have step : (s.applied handlers (e :: rest)).get n =
        ((s.update e.1 (settle handlers e.1 e.2)).applied handlers rest).get n := rfl
    rw [step, ih distinct, get_update, List.lookup_cons]
    by_cases same : n = e.1
    · have later : rest.lookup n = none := by
        rw [List.lookup_eq_none_iff]
        intro f hf
        have apart : n ≠ f.1 := fun again => once (same ▸ again ▸ List.mem_map_of_mem hf)
        simpa using apart
      rw [later, if_pos (.inr same), beq_iff_eq.mpr same, ← same]
    · have apart : ¬ SameLogger n e.1 := by
        rintro (⟨root, -⟩ | again)
        · exact Bool.noConfusion (other.symm.trans root)
        · exact same again
      rw [if_neg apart, beq_false_of_ne same]

theorem collect_distinct {α : Type} (es : List (String × α)) :
    ((collect es).map Prod.fst).Nodup := by
  have step : ∀ fs : List (String × α), (fs.map Prod.fst).Nodup →
      ((es.foldl (fun fs e => Assoc.put e.1 e.2 fs) fs).map Prod.fst).Nodup := by
    induction es with
    | nil => exact fun _ distinct => distinct
    | cons e rest ih =>
      intro fs distinct
      refine ih _ ?_
      rw [Assoc.keys_put]
      split
      · exact distinct
      · next new =>
        refine List.nodup_append.mpr ⟨distinct, List.pairwise_singleton _ _, ?_⟩
        rintro a ha b hb rfl
        exact new (List.mem_singleton.mp hb ▸ ha)
  exact step [] .nil

/-! ## A document -/

/-- The formatters of a document. -/
def formattersOf (d : Ini.Document) : Except Fault (List (String × Formatter)) :=
  (sectionsOf d "formatter").mapM fun (name, options) => do return (name, ← formatterOf options)

/-- The handlers that sections make, up to the first one that cannot be applied. -/
def handlersMade (formatters : List (String × Formatter)) :
    List (String × Ini.Entries) → List Handler
  | [] => []
  | e :: rest =>
    match handlerOf formatters e.2 with
    | .ok h => h :: handlersMade formatters rest
    | .error _ => []

/-- The handlers that a document makes before the work ends. -/
def handlersOf (d : Ini.Document) : List Handler :=
  match formattersOf d with
  | .ok formatters => handlersMade (collect formatters) (sectionsOf d "handler")
  | .error _ => []

/-- Whether the handlers of a document, and before them its formatters, can be made. -/
def handlersVerdict (d : Ini.Document) : Except Fault Unit := do
  let formatters ← formattersOf d
  let _ ← (sectionsOf d "handler").mapM fun e => handlerOf (collect formatters) e.2

/-- Whether a document can be applied. -/
def verdict (d : Ini.Document) : Except Fault Unit := do
  handlersVerdict d
  (collect (sectionsOf d "logger")).forM fun e => sectionVerdict e.2

/-- The sections of loggers that are applied before the work ends. -/
def used (d : Ini.Document) : List (String × Ini.Entries) :=
  match handlersVerdict d with
  | .ok _ => upToFault (collect (sectionsOf d "logger"))
  | .error _ => []

/-- The numbers of the handlers that a document makes, from this number on. -/
def handlerIds (d : Ini.Document) (first : HandlerId) : List (String × HandlerId) :=
  collect (((sectionsOf d "handler").map Prod.fst).zipIdx first)

theorem used_distinct (d : Ini.Document) : ((used d).map Prod.fst).Nodup := by
  unfold used
  cases handlersVerdict d with
  | error fault => exact .nil
  | ok _ => exact (collect_distinct _).sublist ((upToFault_sublist _).map Prod.fst)

theorem makeHandlers_run (formatters : List (String × Formatter))
    (sections : List (String × Ini.Entries)) (s : State) : makeHandlers formatters sections s =
      ((sections.mapM fun e => handlerOf formatters e.2).map fun _ =>
          (sections.map Prod.fst).zipIdx s.handlers.size,
        { s with handlers := s.handlers ++ (handlersMade formatters sections).toArray }) := by
  induction sections generalizing s with
  | nil =>
    rw [handlersMade, Array.append_empty]
    rfl
  | cons e rest ih =>
    obtain ⟨name, options⟩ := e
    unfold makeHandlers
    rw [List.mapM_cons, Stateful.bind_apply, Stateful.lift_apply, handlersMade]
    cases handlerOf formatters options with
    | error fault =>
      rw [Array.append_empty]
      rfl
    | ok h =>
      have pushed : s.handlers ++ (h :: handlersMade formatters rest).toArray =
          s.handlers.push h ++ (handlersMade formatters rest).toArray := by
        rw [Array.push_eq_append, Array.append_assoc]
        simp
      simp only [Stateful.bind_apply, Stateful.get_apply, Stateful.modify_apply, ih, pushed]
      rw [Array.size_push, List.map_cons, List.zipIdx_cons]
      cases rest.mapM fun e => handlerOf formatters e.2 with
      | error fault => rfl
      | ok hs => rfl

/-- Configuring comes to the verdict on the document, adds its handlers and applies the sections
used. -/
theorem configure_run (d : Ini.Document) (s : State) : configure d s = (verdict d,
    ({ s with handlers := s.handlers ++ (handlersOf d).toArray }).applied
      (handlerIds d s.handlers.size) (used d)) := by
  have steps : configure d s =
      (do
        let formatters ← (formattersOf d : Except Fault (List (String × Formatter)))
        let handlers ← makeHandlers (collect formatters) (sectionsOf d "handler")
        (collect (sectionsOf d "logger")).forM fun (name, options) =>
          changeLogger (collect handlers) name options : Configure Unit) s := rfl
  rw [steps, Stateful.bind_apply, Stateful.lift_apply]
  unfold verdict used handlersOf handlersVerdict
  cases formattersOf d with
  | error fault =>
    rw [Array.append_empty]
    rfl
  | ok formatters =>
    simp only [Stateful.bind_apply, makeHandlers_run]
    cases outcome : (sectionsOf d "handler").mapM fun e => handlerOf (collect formatters) e.2 with
    | error fault =>
      simp only [Except.map, bind, Except.bind, outcome]
      rfl
    | ok hs =>
      simp only [Except.map, bind, Except.bind, outcome]
      exact changeLoggers_run _ _ _

end DagAccess.Logging
