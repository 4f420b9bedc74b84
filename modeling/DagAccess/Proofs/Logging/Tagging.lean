import DagAccess.Proofs.Logging.Transaction

/-!
# Tags of records

Handlers that a configuration makes tag their records from the beginning, those of the root are made
to when logging starts. `Once` is what holds before, between and after starts: no handler tags
twice, and those of loggers below the root tag. Configuring keeps it wherever the work ends
(`Once.configure`), undoing keeps it because handlers are never taken away (`Once.restore`). So
after each start all handlers that a record can reach tag it exactly once, and no line is missing
for lack of the tag (`start_tags`).
-/

namespace DagAccess.Logging

/-! ## Handlers of a document -/

/-- A handler is made of the parts that its section gives, one after the other. -/
theorem handlerOf_eq_ok_iff {formatters : List (String × Formatter)} {options : Ini.Entries}
    {h : Handler} :
    handlerOf formatters options = .ok h ↔ checkClass options = .ok () ∧
      ∃ args, argsOf options = .ok args ∧ ∃ stream, streamOf args = .ok stream ∧
        ∃ level, levelOf (options.lookup "level") = .ok level ∧
          ∃ name, formatterNameOf options = .ok name ∧
          let formatter := name.bind fun n => formatters.lookup n
          h = { stream, level, format := formatter.map (·.format),
                timeFormat := formatter.bind (·.timeFormat), tagFilters := 1 } := by
  simp only [handlerOf, bind_eq_ok_iff, pure, Except.pure, Except.ok.injEq, @eq_comm _ _ h]
  exact ⟨fun ⟨_, parts⟩ => parts, fun parts => ⟨(), parts⟩⟩

theorem handlerOf_tagFilters {formatters : List (String × Formatter)} {options : Ini.Entries}
    {h : Handler} (made : handlerOf formatters options = .ok h) : h.tagFilters = 1 := by
  obtain ⟨-, _, -, _, -, _, -, _, -, rfl⟩ := handlerOf_eq_ok_iff.mp made
  rfl

theorem tagFilters_of_mem_handlersMade {formatters : List (String × Formatter)}
    {sections : List (String × Ini.Entries)} {h : Handler}
    (made : h ∈ handlersMade formatters sections) : h.tagFilters = 1 := by
  induction sections with
  | nil => cases made
  | cons e rest ih =>
    rw [handlersMade] at made
    cases first : handlerOf formatters e.2 with
    | error fault =>
      rw [first] at made
      cases made
    | ok g =>
      rw [first] at made
      rcases List.mem_cons.mp made with rfl | later
      · exact handlerOf_tagFilters first
      · exact ih later

theorem tagFilters_of_mem_handlersOf {d : Ini.Document} {h : Handler} (made : h ∈ handlersOf d) :
    h.tagFilters = 1 := by
  unfold handlersOf at made
  split at made
  · exact tagFilters_of_mem_handlersMade made
  · cases made

/-- If all sections can be applied, each makes one handler. -/
theorem handlersMade_of_mapM {formatters : List (String × Formatter)}
    {sections : List (String × Ini.Entries)} {hs : List Handler}
    (usable : sections.mapM (fun e => handlerOf formatters e.2) = .ok hs) :
    handlersMade formatters sections = hs := by
  have each := forall₂_of_mapM usable
  clear usable
  induction each with
  | nil => rfl
  | cons first _ ih =>
    rw [handlersMade, first]
    exact congrArg _ ih

theorem length_handlersOf {d : Ini.Document} (usable : handlersVerdict d = .ok ()) :
    (handlersOf d).length = (sectionsOf d "handler").length := by
  obtain ⟨formatters, formatted, usable⟩ := bind_eq_ok_iff.mp usable
  obtain ⟨hs, made, -⟩ := bind_eq_ok_iff.mp usable
  rw [handlersOf, formatted]
  simp only
  rw [handlersMade_of_mapM made]
  exact (forall₂_of_mapM made).length_eq.symm

theorem lookup_collect {α : Type} {es : List (String × α)} {n : String} {a : α}
    (found : (collect es).lookup n = some a) : (n, a) ∈ es := by
  have step : ∀ es fs : List (String × α),
      (es.foldl (fun fs e => Assoc.put e.1 e.2 fs) fs).lookup n = some a →
        (n, a) ∈ es ∨ fs.lookup n = some a := by
    intro es
    induction es with
    | nil => exact fun _ found => .inr found
    | cons e rest ih =>
      intro fs found
      rcases ih _ found with later | before
      · exact .inl (List.mem_cons_of_mem e later)
      · rw [Assoc.lookup_put] at before
        split at before
        · next same =>
          cases before
          cases eq_of_beq same
          exact .inl List.mem_cons_self
        · exact .inr before
  rcases step es [] found with there | none
  · exact there
  · cases none

/-- The numbers that loggers are given are those of handlers that were made. -/
theorem lookup_handlerIds {d : Ini.Document} (usable : handlersVerdict d = .ok ()) {first id : Nat}
    {n : String} (found : (handlerIds d first).lookup n = some id) :
    first ≤ id ∧ id < first + (handlersOf d).length := by
  obtain ⟨above, below, -⟩ := List.mem_zipIdx (lookup_collect found)
  rw [List.length_map, ← length_handlersOf usable] at below
  exact ⟨above, below⟩

/-- The handlers of a logger after its section was applied are those from before, or they have
names. -/
theorem mem_handlers_settle {handlers : List (String × HandlerId)} {name : String}
    {options : Ini.Entries} {l : Logger} {id : HandlerId}
    (listed : id ∈ (settle handlers name options l).handlers) :
    id ∈ l.handlers ∨ ∃ n, handlers.lookup n = some id := by
  cases leveled : levelOf (options.lookup "level") with
  | error fault =>
    simp only [settle, leveled] at listed
    exact .inl listed
  | ok level =>
    cases text : handlersText options with
    | error fault =>
      simp only [settle, leveled, text] at listed
      exact .inl listed
    | ok names =>
      simp only [settle, leveled, text] at listed
      obtain ⟨n, -, found⟩ := List.mem_filterMap.mp listed
      exact .inr ⟨n, found⟩

/-! ## What holds between starts -/

namespace State

/-- A handler that is there tags its records, once. -/
def Tags (s : State) (id : HandlerId) : Prop := ∃ h, s.handlers[id]? = some h ∧ h.tagFilters = 1

/-- No handler tags its records twice. All handlers of loggers are there, and those of other loggers
than the root tag their records. -/
structure Once (s : State) : Prop where
  atMost : ∀ (id : HandlerId) h, s.handlers[id]? = some h → h.tagFilters ≤ 1
  root : ∀ id ∈ s.root.handlers, id < s.handlers.size
  other : ∀ n, isRoot n = false → ∀ id ∈ (s.get n).handlers, s.Tags id

theorem once_initial : Once .initial := by
  constructor
  · intro id h there
    have all : ∀ h ∈ State.initial.handlers, h.tagFilters ≤ 1 := by decide
    exact all h (Array.mem_of_getElem? there)
  · decide
  · intro n other id listed
    have none : (State.initial.get n).handlers = [] := by
      rw [get_other _ other]
      cases found : State.initial.loggers.lookup n with
      | none => rfl
      | some l =>
        have all : ∀ e ∈ State.initial.loggers, e.2.handlers = [] := by decide
        exact all _ (Assoc.mem_of_lookup found)
    rw [none] at listed
    cases listed

theorem Once.keeping {s t : State} (holds : s.Once) (kept : s.Keeping t) : t.Once := by
  have root : t.root = s.root := by
    rw [← get_root t rfl (n := rootName), kept.get, get_root s rfl]
  constructor
  · rw [kept.handlers]
    exact holds.atMost
  · rw [root, kept.handlers]
    exact holds.root
  · intro n other id listed
    rw [kept.get] at listed
    obtain ⟨h, there, tags⟩ := holds.other n other id listed
    exact ⟨h, kept.handlers ▸ there, tags⟩

theorem Tags.bound {s : State} {id : HandlerId} (tags : s.Tags id) : id < s.handlers.size := by
  obtain ⟨h, there, -⟩ := tags
  exact (Array.getElem?_eq_some_iff.mp there).1

/-- Further handlers that tag their records may be there. -/
theorem Once.append {s : State} (holds : s.Once) {made : Array Handler}
    (tagging : ∀ h ∈ made, h.tagFilters = 1) :
    ({ s with handlers := s.handlers ++ made } : State).Once := by
  constructor
  · intro id h there
    rcases Array.mem_append.mp (Array.mem_of_getElem? there) with old | new
    · obtain ⟨i, bound, rfl⟩ := Array.mem_iff_getElem.mp old
      exact holds.atMost i _ (Array.getElem?_eq_getElem bound)
    · exact Nat.le_of_eq (tagging h new)
  · intro id listed
    simp only [Array.size_append]
    exact Nat.lt_add_right _ (holds.root id listed)
  · intro n other id listed
    have tags : s.Tags id := holds.other n other id listed
    have bound : id < s.handlers.size := tags.bound
    obtain ⟨h, there, once⟩ := tags
    exact ⟨h, (Array.getElem?_append_left bound).trans there, once⟩

/-- A logger may be given handlers that tag their records. -/
theorem Once.update {s : State} (holds : s.Once) (name : String) {f : Logger → Logger}
    (given : ∀ l, ∀ id ∈ (f l).handlers, id ∈ l.handlers ∨ s.Tags id) : (s.update name f).Once := by
  have listed : ∀ n, ∀ id ∈ ((s.update name f).get n).handlers, id ∈ (s.get n).handlers ∨
      s.Tags id := by
    intro n id there
    rw [get_update] at there
    split at there
    · exact given _ id there
    · exact .inl there
  constructor
  · rw [handlers_update]
    exact holds.atMost
  · intro id there
    rw [handlers_update]
    rw [← get_root _ rfl (n := rootName)] at there
    rcases listed rootName id there with before | tags
    · rw [get_root _ rfl] at before
      exact holds.root id before
    · exact tags.bound
  · intro n other id there
    unfold Tags
    rw [handlers_update]
    rcases listed n id there with before | tags
    · exact holds.other n other id before
    · exact tags

theorem Once.applied {s : State} (holds : s.Once) {handlers : List (String × HandlerId)}
    (tags : ∀ n id, handlers.lookup n = some id → s.Tags id) (es : List (String × Ini.Entries)) :
    (s.applied handlers es).Once := by
  induction es generalizing s with
  | nil => exact holds
  | cons e rest ih =>
    refine ih (holds.update e.1 fun l id listed => ?_) fun n id found => ?_
    · rcases mem_handlers_settle listed with before | ⟨n, found⟩
      · exact .inl before
      · exact .inr (tags n id found)
    · unfold Tags
      rw [handlers_update]
      exact tags n id found

/-- Configuring keeps what holds, wherever its work ends. -/
theorem Once.configure {s : State} (holds : s.Once) (d : Ini.Document) :
    (configure d s).2.Once := by
  have tagging : ∀ h ∈ (handlersOf d).toArray, h.tagFilters = 1 := by
    intro h made
    exact tagFilters_of_mem_handlersOf (List.mem_toArray.mp made)
  have added := holds.append tagging
  rw [configure_run]
  cases usable : handlersVerdict d with
  | error fault =>
    -- without all of its handlers a document changes no logger
    have none : used d = [] := by simp only [used, usable]
    rw [none]
    exact added
  | ok _ =>
    refine added.applied (fun n id found => ?_) (used d)
    obtain ⟨above, below⟩ := lookup_handlerIds usable found
    have bound : id - s.handlers.size < (handlersOf d).toArray.size := by
      rw [List.size_toArray]
      exact Nat.sub_lt_left_of_lt_add above below
    refine ⟨(handlersOf d).toArray[id - s.handlers.size], ?_, tagging _ (Array.getElem_mem bound)⟩
    exact (Array.getElem?_append_right above).trans (Array.getElem?_eq_getElem bound)

/-- Undoing keeps what holds, as all handlers are still there. -/
theorem Once.restore {old s : State} (before : old.Once) (holds : s.Once)
    (grown : ∀ n, old.Knows n → s.Knows n)
    (still : ∀ (id : HandlerId) h, old.handlers[id]? = some h → s.handlers[id]? = some h) :
    (old.restore s).Once := by
  constructor
  · exact holds.atMost
  · intro id listed
    have bound : id < old.handlers.size := before.root id listed
    exact (Array.getElem?_eq_some_iff.mp (still id _ (Array.getElem?_eq_getElem bound))).1
  · intro n other id listed
    rw [get_restore grown] at listed
    split at listed
    · obtain ⟨h, there, once⟩ := before.other n other id listed
      exact ⟨h, still id h there, once⟩
    · exact holds.other n other id listed

theorem Once.safely {s : State} (holds : s.Once) (d : Ini.Document) :
    (safely ((Logging.configure d).adapt DagAccess.Fault.logging) s).2.Once := by
  have configured := holds.configure d
  have grown : ∀ n, s.Knows n → (Logging.configure d s).2.Knows n := by
    intro n there
    rw [configure_run]
    exact knows_applied (s := { s with handlers := s.handlers ++ (handlersOf d).toArray }) there _ _
  have still : ∀ (id : HandlerId) h, s.handlers[id]? = some h →
      (Logging.configure d s).2.handlers[id]? = some h := by
    intro id h there
    have bound : id < s.handlers.size := (Array.getElem?_eq_some_iff.mp there).1
    rw [configure_run, handlers_applied]
    exact (Array.getElem?_append_left bound).trans there
  rw [safely_run, Stateful.adapt_apply]
  rcases run : Logging.configure d s with ⟨outcome, after⟩
  rw [run] at configured grown still
  cases outcome with
  | ok _ => exact configured
  | error fault => exact holds.restore configured grown still

theorem tagFilters_tagging {h : Handler} (atMost : h.tagFilters ≤ 1) :
    h.tagging.tagFilters = 1 := by
  unfold Handler.tagging
  split
  · rfl
  · omega

/-- When the handlers of the root were made to tag their records, all handlers of loggers do. -/
theorem Once.tags_annotate {s : State} (holds : s.Once) (n : String) :
    ∀ id ∈ (s.get n).handlers, (annotate s rootName).Tags id := by
  intro id listed
  unfold Tags
  rw [handler_annotate, get_root s rfl]
  cases root : isRoot n with
  | true =>
    rw [get_root s root] at listed
    have there := Array.getElem?_eq_getElem (holds.root id listed)
    rw [there, Option.map_some, if_pos listed]
    exact ⟨_, rfl, tagFilters_tagging (holds.atMost id _ there)⟩
  | false =>
    obtain ⟨h, there, once⟩ := holds.other n root id listed
    rw [there, Option.map_some]
    split
    · exact ⟨_, rfl, tagFilters_tagging (Nat.le_of_eq once)⟩
    · exact ⟨h, rfl, once⟩

theorem Once.annotate {s : State} (holds : s.Once) : (annotate s rootName).Once := by
  constructor
  · intro id h there
    rw [handler_annotate] at there
    obtain ⟨g, before, rfl⟩ := Option.map_eq_some_iff.mp there
    split
    · exact Nat.le_of_eq (tagFilters_tagging (holds.atMost id g before))
    · exact holds.atMost id g before
  · intro id listed
    exact (holds.tags_annotate rootName id listed).bound
  · intro n _ id listed
    exact holds.tags_annotate n id listed

end State

/-! ## Lines -/

/-- A reason why a template cannot be filled in, other than that one of the parts with these names
is missing. -/
inductive Template.Misfit (present : List String) (parts : List (String × Part))
    (template : String) : Prop
  | unreadable (unread : parse (template.toList.length + 1) template.toList = none)
  | missing {pieces : List Piece} {name : List Char} {form : Form}
      (read : parse (template.toList.length + 1) template.toList = some pieces)
      (field : Piece.field name form ∈ pieces) (absent : parts.lookup (String.ofList name) = none)
      (other : String.ofList name ∉ present)
  | unfit {pieces : List Piece} {name : List Char} {form : Form} {part : Part}
      (read : parse (template.toList.length + 1) template.toList = some pieces)
      (field : Piece.field name form ∈ pieces)
      (found : parts.lookup (String.ofList name) = some part)
      (fails : writePart form part = none)

theorem Template.misfit_of_fill_eq_none {present : List String} {parts : List (String × Part)}
    {template : String} (there : ∀ name ∈ present, ∃ part, parts.lookup name = some part)
    (failed : fill parts template = none) : Misfit present parts template := by
  cases read : parse (template.toList.length + 1) template.toList with
  | none => exact .unreadable read
  | some pieces =>
    simp only [fill, read, Option.bind_eq_bind, Option.bind_some] at failed
    have unwritten :=
      Option.map_eq_none_iff.mp ((Option.map_eq_bind (f := String.join)).trans failed)
    obtain ⟨piece, field, none⟩ := exists_of_mapM_eq_none unwritten
    cases piece with
    | text cs => cases none
    | field name form =>
      cases found : parts.lookup (String.ofList name) with
      | none =>
        refine .missing read field found fun listed => ?_
        obtain ⟨part, other⟩ := there _ listed
        cases found.symm.trans other
      | some part =>
        simp only [found] at none
        exact .unfit read field found none

/-- What a field shows of the tag in a line of a handler that tags its records. -/
theorem lookup_parts_tag (r : Record) {h : Handler} (tags : h.tagFilters = 1) :
    (State.parts r h).lookup "dagid" = some (.text r.tag) ∧
    (State.parts r h).lookup "dagidf" =
      some (.text (if r.tag = "" then "" else "(dag=" ++ r.tag ++ ")")) := by
  have tagging : h.tagFilters ≠ 0 := by omega
  simp [State.parts, tagging, List.lookup_cons]

theorem misfit_of_line?_eq_none {r : Record} {h : Handler} (tags : h.tagFilters = 1)
    (missing : State.line? h r = none) : ∃ format, h.format = some format ∧
      Template.Misfit ["dagid", "dagidf"] (State.parts r h) format := by
  obtain ⟨tag, full⟩ := lookup_parts_tag r tags
  unfold State.line? at missing
  cases given : h.format with
  | none =>
    rw [given] at missing
    cases missing
  | some format =>
    rw [given] at missing
    refine ⟨format, rfl, Template.misfit_of_fill_eq_none (fun name listed => ?_) missing⟩
    simp only [List.mem_cons, List.not_mem_nil, or_false] at listed
    rcases listed with rfl | rfl
    · exact ⟨_, tag⟩
    · exact ⟨_, full⟩

theorem State.mem_reached {s : State} {names : List String} {id : HandlerId}
    (reached : id ∈ s.reached names) : ∃ n, id ∈ (s.get n).handlers := by
  induction names with
  | nil => cases reached
  | cons name above ih =>
    rcases List.mem_append.mp reached with here | later
    · exact ⟨name, here⟩
    · split at later
      · exact ih later
      · cases later

/-! ## Starts -/

/-- A start ends with making the handlers of the root tag their records. -/
theorem exists_start {w : World} (holds : w.logging.Once) (name : String) : ∃ s : State, s.Once ∧
    ∃ after, start name w = (.ok (loggerName name), after) ∧
      after.logging = annotate s rootName := by
  unfold start
  simp only [Act.run_bind, Act.run_modifyLogging, Act.run_attempt]
  have mentioned := keeping_began name w
  unfold began at mentioned
  rcases read :
    Settings.document "logging" { w with logging := w.logging.mention (loggerName name) } with
    ⟨outcome, next⟩
  rw [read] at mentioned
  have began : next.logging.Once := holds.keeping mentioned
  cases outcome with
  | error fault => exact ⟨_, began, _, rfl, rfl⟩
  | ok d =>
    by_cases empty : d.sections.isEmpty = true
    · simp only [empty, Bool.not_true, Bool.false_eq_true, if_false]
      exact ⟨_, began, _, rfl, rfl⟩
    · simp only [empty, Bool.not_false, if_true, Act.run_bind, Act.run_attempt, Act.run_onLogging]
      have configured := began.safely d
      rcases applied : safely ((configure d).adapt DagAccess.Fault.logging) next.logging
        with ⟨verdict, after⟩
      rw [applied] at configured
      cases verdict with
      | ok _ =>
        simp only [Act.run_bind, Act.run_modifyLogging, Act.run_pure]
        exact ⟨after, configured, _, rfl, rfl⟩
      | error fault =>
        have logged := configured.keeping (State.keeping_log after
          ⟨.error, loggerName name, s!"Logging configuration error: {fault.message}"⟩)
        simp only [Act.run_bind, Act.run_log, World.logged, Act.run_modifyLogging, Act.run_pure]
        exact ⟨_, logged, _, rfl, rfl⟩

/-- The states of logging that starts come to, whatever the settings are at each of them, and
whatever is logged between them. -/
inductive Started : State → Prop
  | initial : Started .initial
  | start {w : World} (before : Started w.logging) (name : String) :
      Started (start name w).2.logging
  | keeping {s t : State} (before : Started s) (kept : s.Keeping t) : Started t

theorem Started.once {s : State} (started : Started s) : s.Once := by
  induction started with
  | initial => exact State.once_initial
  | start _ name ih =>
    obtain ⟨s, holds, after, run, logging⟩ := exists_start ih name
    rw [run, logging]
    exact holds.annotate
  | keeping _ kept ih => exact ih.keeping kept

/-- **Every handler tags its records, exactly once.** After each start all handlers that loggers
list are there and tag their records once, no other handler does so twice, and whatever is logged
from then on, no line of a handler that a record reaches is missing for lack of the tag. -/
theorem start_tags {w : World} (started : Started w.logging) (name : String) : ∃ after,
    start name w = (.ok (loggerName name), after) ∧
    (∀ n, ∀ id ∈ (after.logging.get n).handlers, after.logging.Tags id) ∧
    (∀ (id : HandlerId) h, after.logging.handlers[id]? = some h → h.tagFilters ≤ 1) ∧
    ∀ s, after.logging.Keeping s → ∀ r : Record, ∀ id ∈ s.reached (s.lineage r.logger),
      ∃ h, s.handlers[id]? = some h ∧ (State.parts r h).lookup "dagid" = some (.text r.tag) ∧
        (State.parts r h).lookup "dagidf" =
          some (.text (if r.tag = "" then "" else "(dag=" ++ r.tag ++ ")")) ∧
        (State.line? h r = none → ∃ format, h.format = some format ∧
          Template.Misfit ["dagid", "dagidf"] (State.parts r h) format) := by
  obtain ⟨s, holds, after, run, logging⟩ := exists_start started.once name
  refine ⟨after, run, ?_, ?_, ?_⟩
  · rw [logging]
    exact holds.tags_annotate
  · rw [logging]
    exact holds.annotate.atMost
  · intro t kept r id reached
    obtain ⟨n, listed⟩ := State.mem_reached reached
    rw [kept.get, logging] at listed
    obtain ⟨h, there, tags⟩ := holds.tags_annotate n id listed
    obtain ⟨tag, full⟩ := lookup_parts_tag r tags
    refine ⟨h, ?_, tag, full, misfit_of_line?_eq_none tags⟩
    rw [kept.handlers, logging]
    exact there

/-- Settings of logging with a handler that shows the tag and that a logger lists twice, and with
this level for another logger. -/
def taggedSettings (level : String) : Ini.Document where
  sections := [("formatter_f", [("format", .text "%(dagidf)s %(message)s")]),
    ("handler_h", [("formatter", .text "f")]), ("logger_dagacl", [("handlers", .text "h,h")]),
    ("logger_b", [("level", .text level)])]

/-- A process with these settings and this state of logging. -/
def taggedWorld (level : String) (logging : State) : World :=
  { World.start {} 0 with
    logging
    settings := { paths := .ofEnvironment [], loaded := [("logging", taggedSettings level)] } }

theorem logging_taggedWorld (level : String) (s : State) : (taggedWorld level s).logging = s := rfl

/-- What is left by a start that is abandoned, for a level that does not exist. -/
def abandonedLogging : State :=
  (start "x" (taggedWorld "LOUD" .initial)).2.logging

theorem started_abandonedLogging : Started abandonedLogging := by
  have first : Started (taggedWorld "LOUD" .initial).logging := by
    rw [logging_taggedWorld]
    exact .initial
  unfold abandonedLogging
  exact first.start "x"

/-- A start after an abandoned one leaves the handler of the root with one filter. That of another
logger is named twice by it, and tags its records too. -/
theorem start_tags_again :
    Started (taggedWorld "DEBUG" abandonedLogging).logging ∧
    ∃ after, start "y" (taggedWorld "DEBUG" abandonedLogging) = (.ok (loggerName "y"), after) ∧
      (after.logging.get rootName).handlers = [0] ∧ after.logging.Tags 0 ∧
      (after.logging.get "dagacl").handlers = [2, 2] ∧ after.logging.Tags 2 := by
  have started : Started (taggedWorld "DEBUG" abandonedLogging).logging := by
    rw [logging_taggedWorld]
    exact started_abandonedLogging
  have listed :
      ((start "y" (taggedWorld "DEBUG" abandonedLogging)).2.logging.get rootName).handlers = [0] ∧
      ((start "y" (taggedWorld "DEBUG" abandonedLogging)).2.logging.get "dagacl").handlers =
        [2, 2] := by
    decide +kernel
  obtain ⟨after, run, tags, -⟩ := start_tags started "y"
  rw [run] at listed
  obtain ⟨root, library⟩ := listed
  refine ⟨started, after, run, root, tags rootName 0 ?_, library, tags "dagacl" 2 ?_⟩
  · rw [root]
    exact List.mem_singleton_self 0
  · rw [library]
    exact List.mem_cons_self

end DagAccess.Logging
