import DagAccess.Settings.Lookup
import DagAccess.Proofs.Logging.Configuration
import DagAccess.Proofs.Settings.Lookup

/-!
# Abandoned configurations of logging

A configuration that cannot be applied is abandoned. The loggers that existed when it began are as
they were, and of all handlers those of the root may at most have come to tag their records. A
logger that the configuration was the first to name is not taken back: it stays as its section left
it (`leftover`).
-/

namespace DagAccess.Logging

/-! ## Undoing -/

/-- A handler that tags its records. -/
def Handler.tagging (h : Handler) : Handler :=
  if h.tagFilters = 0 then { h with tagFilters := 1 } else h

theorem Handler.tagging_tagging (h : Handler) : h.tagging.tagging = h.tagging := by
  unfold tagging
  by_cases none : h.tagFilters = 0
  · simp [none]
  · simp [none]

@[simp]
theorem get_annotate (s : State) (name n : String) : (annotate s name).get n = s.get n := rfl

theorem handler_annotate (s : State) (name : String) (id : HandlerId) :
    (annotate s name).handlers[id]? =
      (s.handlers[id]?).map fun h => if id ∈ (s.get name).handlers then h.tagging else h := by
  have step : ∀ (ids : List HandlerId) (hs : Array Handler),
      (ids.foldl (fun hs id => hs.modify id Handler.tagging) hs)[id]? =
        (hs[id]?).map fun h => if id ∈ ids then h.tagging else h := by
    intro ids
    induction ids with
    | nil => simp
    | cons other rest ih =>
      intro hs
      -- a handler that is listed twice is changed once, as a handler that tags is left alone
      rw [List.foldl_cons, ih, Array.getElem?_modify]
      by_cases same : other = id
      · rw [if_pos same, Option.map_map]
        congr 1
        funext h
        simp [same, Handler.tagging_tagging]
      · have other : id ≠ other := Ne.symm same
        simp [same, other]
  exact step (s.get name).handlers s.handlers

theorem safely_run {ε : Type} (work : ExceptT ε (StateM State) Unit) (s : State) :
    safely work s = match work s with
      | (.ok _, after) => (.ok (), after)
      | (.error fault, after) => (.error fault, s.restore after) := by
  unfold safely
  simp only [Stateful.bind_apply, Stateful.get_apply, Stateful.tryCatch_apply]
  rcases work s with ⟨outcome, after⟩
  cases outcome <;> rfl

/-! ## Abandoning -/

/-- What an abandoned configuration leaves of a logger that it was the first to name, where the
number of the next handler was this one. -/
def leftover (d : Ini.Document) (first : HandlerId) (n : String) : Logger :=
  match (used d).lookup n with
  | none => {}
  | some options => settle (handlerIds d first) n options {}

theorem safely_configure_run {d : Ini.Document} {fault : Fault} {s : State}
    (abandoned : (configure d s).1 = .error fault) : ∃ after made,
      safely ((configure d).adapt DagAccess.Fault.logging) s = (.error (.logging fault), after) ∧
      (∀ n, after.get n = if s.Knows n then s.get n else leftover d s.handlers.size n) ∧
      after.handlers = s.handlers ++ made := by
  let made := (handlersOf d).toArray
  have applied : (configure d s).2 =
      ({ s with handlers := s.handlers ++ made } : State).applied
        (handlerIds d s.handlers.size) (used d) :=
    congrArg Prod.snd (configure_run d s)
  refine ⟨s.restore (configure d s).2, made, ?_, ?_, ?_⟩
  · rw [safely_run, Stateful.adapt_apply, abandoned]
    rfl
  · intro n
    have grown : ∀ n, s.Knows n → (configure d s).2.Knows n := by
      intro n there
      rw [applied]
      exact State.knows_applied (s := { s with handlers := s.handlers ++ made }) there _ _
    rw [State.get_restore grown]
    by_cases there : s.Knows n
    · rw [if_pos there, if_pos there]
    · have other : State.isRoot n = false := by
        rw [Bool.eq_false_iff]
        exact fun root => there (s.knows_root root)
      have fresh : ({ s with handlers := s.handlers ++ made } : State).get n = {} :=
        State.get_of_not_knows there
      rw [if_neg there, if_neg there, applied, State.get_applied (used_distinct d) _ _ other, fresh]
      rfl
  · exact (congrArg State.handlers applied).trans (State.handlers_applied _ _ _)

/-- A document without sections can be applied. -/
theorem configure_of_no_sections {d : Ini.Document} (none : d.sections = []) (s : State) :
    configure d s = (.ok (), s) := by
  have nothing : ∀ kind, sectionsOf d kind = [] := by
    intro kind
    rw [sectionsOf, none]
    rfl
  unfold configure
  rw [nothing, nothing, nothing]
  rfl

/-! ## The start of logging -/

/-- The loggers when the settings of logging are there. -/
def began (name : String) (w : World) : State :=
  (Settings.document "logging" { w with logging := w.logging.mention (loggerName name) }).2.logging

theorem keeping_document (component : String) (w : World) :
    w.logging.Keeping (Settings.document component w).2.logging := by
  by_cases unnamed : component = ""
  · rw [unnamed, Settings.document_unnamed]
    exact .refl _
  · cases stored : w.settings.loaded.lookup component with
    | some d =>
      rw [Settings.document_loaded unnamed stored]
      exact .refl _
    | none =>
      rw [Settings.document_new unnamed stored]
      exact State.keeping_logAll _ _

/-- Until then loggers keep their settings. -/
theorem keeping_began (name : String) (w : World) : w.logging.Keeping (began name w) :=
  (State.keeping_mention _ _).trans
    (keeping_document "logging" { w with logging := w.logging.mention (loggerName name) })

/-- What is logged about a configuration that is abandoned. -/
def faultNotice (name : String) (fault : Fault) : Notice :=
  ⟨.error, loggerName name,
    s!"Logging configuration error: {(DagAccess.Fault.logging fault).message}"⟩

theorem start_run {name : String} {w : World} {d : Ini.Document} {fault : Fault}
    (offers : Settings.Offers "logging" d w)
    (abandoned : (configure d (began name w)).1 = .error fault) :
    ∃ after, start name w = (.ok (loggerName name), after) ∧
      after.logging = annotate
        ((safely ((configure d).adapt DagAccess.Fault.logging) (began name w)).2.log
          (faultNotice name fault)) rootName := by
  -- settings without sections are not applied at all, so these have some
  have sections : d.sections.isEmpty = false := by
    rw [Bool.eq_false_iff]
    intro none
    rw [configure_of_no_sections (List.isEmpty_iff.mp none)] at abandoned
    cases abandoned
  have mentioned :
      Settings.Offers "logging" d { w with logging := w.logging.mention (loggerName name) } :=
    offers.congr rfl rfl
  obtain ⟨read, had, -⟩ := mentioned.document
  have here : began name w = read.logging := congrArg (fun run => run.2.logging) had
  rw [here] at abandoned ⊢
  obtain ⟨left, -, undone, -⟩ := safely_configure_run abandoned
  unfold start
  simp only [Act.run_bind, Act.run_modifyLogging, Act.run_attempt, had, sections,
    Bool.not_false, if_true, Act.run_onLogging, undone, Act.run_log, Act.run_pure, World.logged]
  exact ⟨_, rfl, rfl⟩

/-- Where a configuration of logging is abandoned, all loggers that existed when it began are as
they were, and so are the handlers, but for those of the root that come to tag their records. Other
loggers are what the sections left of them, so all loggers are as they were only if those are left
without settings. -/
theorem start_abandoned {name : String} {w : World} {d : Ini.Document} {fault : Fault}
    (offers : Settings.Offers "logging" d w)
    (abandoned : (configure d (began name w)).1 = .error fault) :
    ∃ after, start name w = (.ok (loggerName name), after) ∧
      (∀ n, after.logging.get n =
        if (began name w).Knows n then w.logging.get n else leftover d w.logging.handlers.size n) ∧
      ((∀ n, after.logging.get n = w.logging.get n) ↔
        ∀ n, ¬ (began name w).Knows n → leftover d w.logging.handlers.size n = {}) ∧
      ∀ (id : HandlerId) h, w.logging.handlers[id]? = some h →
        after.logging.handlers[id]? =
          some (if id ∈ w.logging.root.handlers then h.tagging else h) := by
  obtain ⟨after, run, logging⟩ := start_run offers abandoned
  obtain ⟨left, made, undone, found, handlers⟩ := safely_configure_run abandoned
  have kept := keeping_began name w
  rw [undone] at logging
  -- the message about the fault changes no logger
  have logged := State.keeping_log left (faultNotice name fault)
  have loggers : ∀ n, after.logging.get n =
      if (began name w).Knows n then w.logging.get n else leftover d w.logging.handlers.size n := by
    intro n
    rw [logging, get_annotate, logged.get, found, kept.get, kept.handlers]
  refine ⟨after, run, loggers, ?_, ?_⟩
  · constructor
    · intro same n new
      have fresh : w.logging.get n = {} := (kept.get n).symm.trans (State.get_of_not_knows new)
      rw [← fresh, ← same, loggers, if_neg new]
    · intro fresh n
      rw [loggers]
      split
      · rfl
      · next new => rw [fresh n new, ← kept.get, State.get_of_not_knows new]
  · intro id h there
    have root : (left.log (faultNotice name fault)).get rootName = w.logging.root := by
      rw [logged.get, found, if_pos (State.knows_root _ rfl), kept.get, State.get_root _ rfl]
    have bound : id < w.logging.handlers.size := (Array.getElem?_eq_some_iff.mp there).1
    rw [logging, handler_annotate, root, logged.handlers, handlers, kept.handlers,
      Array.getElem?_append_left bound, there]
    rfl

/-- Settings of logging that name these two loggers, the second one with a level that does not
exist. -/
def loudSettings (first second : String) : Ini.Document where
  sections := [("logger_" ++ first, [("level", .text "DEBUG")]),
    ("logger_" ++ second, [("level", .text "LOUD")])]

/-- A process in which these settings were loaded. -/
def loudWorld (first second : String) : World :=
  { World.start {} 0 with
    settings := { paths := .ofEnvironment [], loaded := [("logging", loudSettings first second)] } }

/-- A logger that existed before gets its level back, and the one that is at fault was not
changed. -/
theorem start_abandoned_known : ∃ after,
    start "x" (loudWorld "dagacl" "b") = (.ok (loggerName "x"), after) ∧
    ∀ n, after.logging.get n = (loudWorld "dagacl" "b").logging.get n := by
  have offers : Settings.Offers "logging" (loudSettings "dagacl" "b") (loudWorld "dagacl" "b") :=
    rfl
  have failed :
      (configure (loudSettings "dagacl" "b") (began "x" (loudWorld "dagacl" "b"))).1.isOk =
        false := by
    decide +kernel
  have sections : used (loudSettings "dagacl" "b") =
      [("dagacl", [("level", .text "DEBUG")]), ("b", [("level", .text "LOUD")])] := by
    decide +kernel
  have known : (began "x" (loudWorld "dagacl" "b")).Knows "dagacl" := by decide +kernel
  obtain ⟨fault, abandoned⟩ := Stateful.exists_error failed
  obtain ⟨after, run, -, same, -⟩ := start_abandoned offers abandoned
  refine ⟨after, run, same.mpr fun n new => ?_⟩
  unfold leftover
  rw [sections]
  by_cases first : n = "dagacl"
  · exact absurd (first ▸ known) new
  · by_cases second : n = "b"
    · rw [second]
      decide +kernel
    · rw [List.lookup_cons, beq_false_of_ne first, List.lookup_cons, beq_false_of_ne second]
      rfl

/-- A logger that only the abandoned configuration names keeps the level that it was given. -/
theorem start_abandoned_new :
    (Settings.document "logging" (loudWorld "a" "b")).1 = .ok (loudSettings "a" "b") ∧
    (∃ fault, (configure (loudSettings "a" "b") (began "x" (loudWorld "a" "b"))).1 = .error fault) ∧
    ∃ after, start "x" (loudWorld "a" "b") = (.ok (loggerName "x"), after) ∧
      (loudWorld "a" "b").logging.get "a" = {} ∧ after.logging.get "a" = { level := .debug } := by
  have offers : Settings.Offers "logging" (loudSettings "a" "b") (loudWorld "a" "b") := rfl
  have failed :
      (configure (loudSettings "a" "b") (began "x" (loudWorld "a" "b"))).1.isOk = false := by
    decide +kernel
  have changed : (start "x" (loudWorld "a" "b")).2.logging.get "a" = { level := .debug } := by
    decide +kernel
  obtain ⟨fault, abandoned⟩ := Stateful.exists_error failed
  obtain ⟨after, run, -⟩ := start_run offers abandoned
  rw [run] at changed
  exact ⟨offers, ⟨fault, abandoned⟩, after, run, by decide, changed⟩

end DagAccess.Logging
