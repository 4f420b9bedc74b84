import DagAccess.Proofs.Logging.Records
import DagAccess.Proofs.Logging.Sections

/-!
# What a configuration comes to

A document that can be applied is followed section by section, found by kind and name (`Applied`):
each section of a handler makes one, with the stream, level and formatter that it names, and each
section of a logger sets the level, flag and handlers of this logger. All other loggers and handlers
stay as they are. Whether it can be applied is a matter of the single sections
(`Distinct.verdict_iff`).
-/

namespace DagAccess.Logging

open Ini (Document Entries)

/-- Sections by kind and name. -/
abbrev Sections := String → String → Option Entries

variable {d : Document} {options : Entries}

/-! ## What sections say -/

/-- The formatter that a name stands for, if its section makes one. -/
def formatterNamed (find : Sections) (name : String) : Option Formatter :=
  (find "formatter" name).bind fun template => (formatterOf template).toOption

/-- The formatter that the options of a handler name. -/
def formatterFor (find : Sections) (options : Entries) : Option Formatter :=
  (options.lookup "formatter").bind fun v => formatterNamed find v.show

/-- The handler is the one that the options of its section ask for. -/
structure Makes (find : Sections) (options : Entries) (h : Handler) : Prop where
  level : levelOf (options.lookup "level") = .ok h.level
  stream : streamOf (((options.lookup "args").map (·.show)).getD "()") = .ok h.stream
  format : h.format = (formatterFor find options).map (·.format)
  timeFormat : h.timeFormat = (formatterFor find options).bind (·.timeFormat)
  tagFilters : h.tagFilters = 1

/-- The logger `l` became `k` as the options of its section say, where handlers have these
numbers. -/
structure Follows (number : String → Option HandlerId) (name : String) (options : Entries)
    (l k : Logger) : Prop where
  level : levelOf (options.lookup "level") = .ok k.level
  propagate : k.propagate = if name = rootName then l.propagate else propagates options
  handlers : ∃ names, handlersText options = .ok names ∧
    k.handlers = (handlerNames names).filterMap number

/-- The state `s` became `t` as sections say, and new handlers have these numbers. -/
structure Applied (find : Sections) (number : String → Option HandlerId) (s t : State) : Prop where
  made {name} {options : Entries} (there : find "handler" name = some options) :
    ∃ id h, number name = some id ∧ t.handlers[id]? = some h ∧ Makes find options h
  numbered {name id} (given : number name = some id) :
    (find "handler" name).isSome = true ∧ s.handlers.size ≤ id ∧ id < t.handlers.size
  apart {name other id} (given : number name = some id) (again : number other = some id) :
    name = other
  new {id} (above : s.handlers.size ≤ id) (there : id < t.handlers.size) :
    ∃ name, number name = some id
  old {id} (below : id < s.handlers.size) : t.handlers[id]? = s.handlers[id]?
  named {n name} {options : Entries} (there : find "logger" name = some options)
    (same : State.SameLogger n name) :
    Follows number name options (s.get n) (t.get n)
  unnamed {n} (silent : ∀ name, State.SameLogger n name → find "logger" name = none) :
    t.get n = s.get n
  knows n : t.Knows n ↔ s.Knows n ∨ (find "logger" n).isSome = true
  roots {n} (root : State.isRoot n = true) : t.loggers.lookup n = s.loggers.lookup n
  rest : t.tags = s.tags ∧ t.records = s.records ∧ t.out = s.out ∧ t.err = s.err

/-! ## Formatters -/

theorem formattersOf_eq_ok {formatters : List (String × Formatter)}
    (usable : formattersOf d = .ok formatters) :
    List.Forall₂ (fun s f => s.1 = f.1 ∧ formatterOf s.2 = .ok f.2)
      (sectionsOf d "formatter") formatters := by
  refine (forall₂_of_mapM usable).imp fun s f made => ?_
  obtain ⟨formatter, first, whole⟩ := bind_eq_ok_iff.mp made
  cases whole
  exact ⟨rfl, first⟩

/-- The formatters that are made are those of the sections. -/
theorem Distinct.lookup_formatters (distinct : Distinct d) {formatters : List (String × Formatter)}
    (usable : formattersOf d = .ok formatters) (name : String) :
    (collect formatters).lookup name = formatterNamed (section? d) name := by
  have each := formattersOf_eq_ok usable
  have names : (sectionsOf d "formatter").map Prod.fst = formatters.map Prod.fst := by
    rw [← List.forall₂_eq_eq_eq, List.forall₂_map_left_iff, List.forall₂_map_right_iff]
    exact each.imp fun _ _ => And.left
  have nodup : ((sectionsOf d "formatter").map Prod.fst).Nodup :=
    distinct.nodup_sectionsOf (by decide)
  rw [lookup_collect_of_nodup (names ▸ nodup), formatterNamed,
    ← distinct.lookup_sectionsOf (by decide)]
  clear usable names nodup
  generalize sectionsOf d "formatter" = sections at each
  induction each with
  | nil => rfl
  | @cons s f _ _ first _ ih =>
    rw [List.lookup_cons, List.lookup_cons, first.1]
    cases name == f.1 with
    | false => exact ih
    | true =>
      simp only [Option.bind_some, first.2]
      rfl

/-! ## Handlers -/

/-- Whether a handler can be made does not depend on formatters. -/
theorem exists_handlerOf_iff (formatters : List (String × Formatter)) (options : Entries) :
    (∃ h, handlerOf formatters options = .ok h) ↔ ∃ h, handlerOf [] options = .ok h := by
  have parts (fs gs : List (String × Formatter)) :
      (∃ h, handlerOf fs options = .ok h) → ∃ h, handlerOf gs options = .ok h := by
    rintro ⟨h, made⟩
    obtain ⟨classed, args, given, stream, streamed, level, leveled, name, named, -⟩ :=
      handlerOf_eq_ok_iff.mp made
    exact ⟨_, handlerOf_eq_ok_iff.mpr ⟨classed, args, given, stream, streamed, level, leveled,
      name, named, rfl⟩⟩
  exact ⟨parts _ _, parts _ _⟩

/-- What an option is used for as a text is how it is shown. -/
theorem textOf_eq_ok {use : Ini.Misuse} {v : Ini.Value} {text : String}
    (read : textOf use v = .ok text) : v.show = text := by
  cases v with
  | text s => exact Except.ok.inj read
  | lines ls => cases read

theorem argsOf_eq_ok {args : String} (given : argsOf options = .ok args) :
    args = ((options.lookup "args").map (·.show)).getD "()" := by
  unfold argsOf at given
  split at given
  · next absent =>
    rw [absent]
    exact (Except.ok.inj given).symm
  · next v present =>
    rw [present]
    exact (textOf_eq_ok given).symm

theorem formatterNameOf_eq_ok {name : Option String} (given : formatterNameOf options = .ok name) :
    name = (options.lookup "formatter").map (·.show) := by
  unfold formatterNameOf at given
  split at given
  · next absent =>
    rw [absent]
    exact (Except.ok.inj given).symm
  · next v present =>
    cases read : textOf .key v with
    | error fault =>
      rw [read] at given
      cases given
    | ok text =>
      rw [read] at given
      rw [present, Option.map_some, textOf_eq_ok read]
      exact (Except.ok.inj given).symm

theorem makes_of_handlerOf {find : Sections} {formatters : List (String × Formatter)} {h : Handler}
    (known : ∀ name, formatters.lookup name = formatterNamed find name)
    (made : handlerOf formatters options = .ok h) : Makes find options h := by
  obtain ⟨-, args, given, stream, streamed, level, leveled, name, named, rfl⟩ :=
    handlerOf_eq_ok_iff.mp made
  have formatter : (name.bind fun n => formatters.lookup n) = formatterFor find options := by
    rw [formatterNameOf_eq_ok named, Option.bind_map, formatterFor]
    simp only [Function.comp_def, known]
  exact { level := leveled, stream := argsOf_eq_ok given ▸ streamed, format := by rw [formatter],
          timeFormat := by rw [formatter], tagFilters := rfl }

/-! ## Whether a document can be applied -/

/-- Each section can be applied. -/
structure Usable (find : Sections) : Prop where
  formatter {name} {options : Entries} (there : find "formatter" name = some options) :
    ∃ f, formatterOf options = .ok f
  handler {name} {options : Entries} (there : find "handler" name = some options) :
    ∃ h, handlerOf [] options = .ok h
  logger {name} {options : Entries} (there : find "logger" name = some options) :
    sectionVerdict options = .ok ()

theorem verdict_eq_ok_iff : verdict d = .ok () ↔
    (∃ formatters, formattersOf d = .ok formatters ∧
      ∃ hs, (sectionsOf d "handler").mapM (fun e => handlerOf (collect formatters) e.2) = .ok hs) ∧
    ∀ e ∈ collect (sectionsOf d "logger"), sectionVerdict e.2 = .ok () := by
  rw [← forM_eq_ok_iff, verdict, bind_eq_ok_iff, handlersVerdict]
  simp only [bind_eq_ok_iff, pure, Except.pure]
  constructor
  · rintro ⟨_, ⟨formatters, formatted, hs, made, -⟩, changed⟩
    exact ⟨⟨formatters, formatted, hs, made⟩, changed⟩
  · rintro ⟨⟨formatters, formatted, hs, made⟩, changed⟩
    exact ⟨(), ⟨formatters, formatted, hs, made, trivial⟩, changed⟩

theorem mem_collect_of_nodup {α : Type} {es : List (String × α)}
    (distinct : (es.map Prod.fst).Nodup) {e : String × α} : e ∈ collect es ↔ e ∈ es := by
  constructor
  · exact fun there => lookup_collect (Assoc.lookup_of_mem (collect_distinct es) there)
  · intro there
    refine Assoc.mem_of_lookup ?_
    rw [lookup_collect_of_nodup distinct]
    exact Assoc.lookup_of_mem distinct there

section

variable (distinct : Distinct d) {kind : String} (known : kind ∈ kinds)
include distinct known

theorem Distinct.forall_sectionsOf {p : Entries → Prop} : (∀ e ∈ sectionsOf d kind, p e.2) ↔
    ∀ name options, section? d kind name = some options → p options := by
  constructor
  · exact fun each name options there =>
      each (name, options) ((distinct.mem_sectionsOf known).mpr there)
  · exact fun each e there => each e.1 e.2 ((distinct.mem_sectionsOf known).mp there)

theorem Distinct.mem_collect_sectionsOf {name : String} :
    (name, options) ∈ collect (sectionsOf d kind) ↔ section? d kind name = some options := by
  rw [mem_collect_of_nodup (distinct.nodup_sectionsOf known), distinct.mem_sectionsOf known]

end

theorem Distinct.verdict_iff (distinct : Distinct d) :
    verdict d = .ok () ↔ Usable (section? d) := by
  have formatters : (∃ formatters, formattersOf d = .ok formatters) ↔
      ∀ name options, section? d "formatter" name = some options →
        ∃ f, formatterOf options = .ok f := by
    rw [formattersOf, exists_mapM_iff, ← distinct.forall_sectionsOf (by decide)]
    refine forall₂_congr fun e _ => ?_
    simp only [bind_eq_ok_iff, pure, Except.pure]
    exact ⟨fun ⟨_, f, made, _⟩ => ⟨f, made⟩, fun ⟨f, made⟩ => ⟨_, f, made, rfl⟩⟩
  have handlers (formatters : List (String × Formatter)) :
      (∃ hs, (sectionsOf d "handler").mapM (fun e => handlerOf formatters e.2) = .ok hs) ↔
        ∀ name options, section? d "handler" name = some options →
          ∃ h, handlerOf [] options = .ok h := by
    rw [exists_mapM_iff, ← distinct.forall_sectionsOf (by decide)]
    exact forall₂_congr fun e _ => exists_handlerOf_iff formatters e.2
  have loggers : (∀ e ∈ collect (sectionsOf d "logger"), sectionVerdict e.2 = .ok ()) ↔
      ∀ name options, section? d "logger" name = some options →
        sectionVerdict options = .ok () := by
    rw [← distinct.forall_sectionsOf (by decide)]
    exact forall_congr' fun e => by
      rw [mem_collect_of_nodup (distinct.nodup_sectionsOf (by decide))]
  rw [verdict_eq_ok_iff, loggers]
  simp only [handlers, exists_and_right, formatters]
  exact ⟨fun ⟨⟨f, h⟩, l⟩ => ⟨f _ _, h _ _, l _ _⟩,
    fun usable =>
      ⟨⟨fun _ _ => usable.formatter, fun _ _ => usable.handler⟩, fun _ _ => usable.logger⟩⟩

/-! ## Loggers -/

namespace State

variable {s : State} {n : String} {es : List (String × Entries)}

theorem SameLogger.eq_or_roots {a b : String} (first : SameLogger n a) (second : SameLogger n b) :
    a = b ∨ isRoot a = true ∧ isRoot b = true := by
  rcases first with ⟨root, rootA⟩ | rfl
  · rcases second with ⟨-, rootB⟩ | rfl
    · exact .inr ⟨rootA, rootB⟩
    · exact .inr ⟨rootA, root⟩
  · rcases second with ⟨root, rootB⟩ | rfl
    · exact .inr ⟨root, rootB⟩
    · exact .inl rfl

theorem lookup_update_root (s : State) (name : String) (f : Logger → Logger)
    (root : isRoot n = true) : (s.update name f).loggers.lookup n = s.loggers.lookup n := by
  cases rootName : isRoot name with
  | true => rw [update_root rootName]
  | false =>
    have other : n ≠ name := fun same => Bool.noConfusion (rootName.symm.trans (same ▸ root))
    rw [lookup_update rootName]
    simp only [if_neg other, Option.map_id']
    by_cases there : s.Knows name
    · rw [mention_of_knows there]
    · rw [lookup_mention there, if_neg other]

theorem rest_update (s : State) (name : String) (f : Logger → Logger) :
    (s.update name f).tags = s.tags ∧ (s.update name f).records = s.records ∧
    (s.update name f).out = s.out ∧
      (s.update name f).err = s.err := by
  unfold update mention
  split
  · exact ⟨rfl, rfl, rfl, rfl⟩
  · dsimp only
    split <;> exact ⟨rfl, rfl, rfl, rfl⟩

section

variable (handlers : List (String × HandlerId))

theorem applied_cons (e : String × Entries) (s : State) :
    s.applied handlers (e :: es) = (s.update e.1 (settle handlers e.1 e.2)).applied handlers es :=
  rfl

theorem applied_append (es fs : List (String × Entries)) (s : State) :
    s.applied handlers (es ++ fs) = (s.applied handlers es).applied handlers fs :=
  List.foldl_append

theorem lookup_applied_root (es : List (String × Entries)) (s : State) (root : isRoot n = true) :
    (s.applied handlers es).loggers.lookup n = s.loggers.lookup n := by
  induction es generalizing s with
  | nil => rfl
  | cons e rest ih => rw [applied_cons, ih, lookup_update_root _ _ _ root]

theorem rest_applied (es : List (String × Entries)) (s : State) :
    (s.applied handlers es).tags = s.tags ∧ (s.applied handlers es).records = s.records ∧
      (s.applied handlers es).out = s.out ∧ (s.applied handlers es).err = s.err := by
  induction es generalizing s with
  | nil => exact ⟨rfl, rfl, rfl, rfl⟩
  | cons e rest ih =>
    rw [applied_cons]
    obtain ⟨tags, records, out, err⟩ := ih (s.update e.1 (settle handlers e.1 e.2))
    obtain ⟨tags', records', out', err'⟩ := rest_update s e.1 (settle handlers e.1 e.2)
    exact ⟨tags.trans tags', records.trans records', out.trans out', err.trans err'⟩

theorem knows_applied_iff : (s.applied handlers es).Knows n ↔ s.Knows n ∨ n ∈ es.map Prod.fst := by
  induction es generalizing s with
  | nil => simp [applied]
  | cons e rest ih => rw [applied_cons, ih, knows_update, List.map_cons, List.mem_cons, or_assoc]

/-- A logger that no section names stays as it is. -/
theorem get_applied_of_silent (silent : ∀ e ∈ es, ¬ SameLogger n e.1) :
    (s.applied handlers es).get n = s.get n := by
  induction es generalizing s with
  | nil => rfl
  | cons e rest ih =>
    obtain ⟨first, later⟩ := List.forall_mem_cons.mp silent
    rw [applied_cons, ih later, get_update, if_neg first]

/-- A logger that one section names is as this section makes it. -/
theorem get_applied_of_mem (distinct : es.Nodup) {e : String × Entries} (there : e ∈ es)
    (alone : ∀ f ∈ es, SameLogger n f.1 → f = e) (same : SameLogger n e.1) :
    (s.applied handlers es).get n = settle handlers e.1 e.2 (s.get n) := by
  obtain ⟨before, after, rfl⟩ := List.append_of_mem there
  obtain ⟨-, behind, apart⟩ := List.nodup_append.mp distinct
  have early : ∀ f ∈ before, ¬ SameLogger n f.1 := fun f hf names =>
    apart f hf e List.mem_cons_self (alone f (List.mem_append_left _ hf) names)
  have late : ∀ f ∈ after, ¬ SameLogger n f.1 := by
    intro f hf names
    have again := alone f (List.mem_append_right _ (List.mem_cons_of_mem e hf)) names
    exact (List.nodup_cons.mp behind).1 (again ▸ hf)
  rw [applied_append, applied_cons, get_applied_of_silent handlers late, get_update, if_pos same,
    get_applied_of_silent handlers early]

end

end State

theorem upToFault_eq_self {es : List (String × Entries)}
    (usable : ∀ e ∈ es, sectionVerdict e.2 = .ok ()) : upToFault es = es := by
  induction es with
  | nil => rfl
  | cons e rest ih =>
    obtain ⟨first, later⟩ := List.forall_mem_cons.mp usable
    rw [upToFault, first]
    exact congrArg _ (ih later)

theorem follows_settle {handlers : List (String × HandlerId)} {name : String}
    (usable : sectionVerdict options = .ok ()) (l : Logger) :
    Follows (fun n => handlers.lookup n) name options l (settle handlers name options l) := by
  obtain ⟨level, leveled, rest⟩ := bind_eq_ok_iff.mp usable
  obtain ⟨names, listed, -⟩ := bind_eq_ok_iff.mp rest
  have settled : settle handlers name options l =
      { level, propagate := if name = rootName then l.propagate else propagates options,
        handlers := (handlerNames names).filterMap fun n => handlers.lookup n } := by
    simp only [settle, leveled, listed]
    rfl
  rw [settled]
  exact ⟨leveled, rfl, names, listed, rfl⟩

/-! ## The outcome -/

/-- There is one section for the root at most. One that is called `logger` is for the root as
well. -/
def OneRoot (d : Document) : Prop :=
  ¬ (d.hasSection "logger" = true ∧ d.hasSection "logger_root" = true)

instance (d : Document) : Decidable (OneRoot d) :=
  inferInstanceAs (Decidable (¬ _))

theorem OneRoot.eq_of_roots (oneRoot : OneRoot d) {a b : String}
    (first : (section? d "logger" a).isSome = true) (second : (section? d "logger" b).isSome = true)
    (root : State.isRoot a = true) (root' : State.isRoot b = true) : a = b := by
  rw [isSome_section?] at first second
  simp only [State.isRoot, Bool.or_eq_true, decide_eq_true_eq] at root root'
  rcases root with rfl | rfl
  · rcases root' with rfl | rfl
    · rfl
    · exact absurd ⟨first, second⟩ oneRoot
  · rcases root' with rfl | rfl
    · exact absurd ⟨second, first⟩ oneRoot
    · rfl

theorem used_of_verdict (usable : verdict d = .ok ()) :
    used d = collect (sectionsOf d "logger") := by
  obtain ⟨_, handled, changed⟩ := bind_eq_ok_iff.mp usable
  rw [used, handled]
  exact upToFault_eq_self (forM_eq_ok_iff.mp changed)

section outcome

variable (distinct : Distinct d)
include distinct

/-- The numbers of new handlers are given in the order of their sections. -/
theorem Distinct.lookup_handlerIds_iff {first id : HandlerId} {name : String} :
    (handlerIds d first).lookup name = some id ↔
      first ≤ id ∧ ((sectionsOf d "handler").map Prod.fst)[id - first]? = some name := by
  have keys : ((((sectionsOf d "handler").map Prod.fst).zipIdx first).map Prod.fst).Nodup := by
    rw [List.zipIdx_map_fst]
    exact distinct.nodup_sectionsOf (by decide)
  rw [handlerIds, lookup_collect_of_nodup keys,
    ← List.mem_zipIdx_iff_le_and_getElem?_sub (x := (name, id))]
  exact ⟨Assoc.mem_of_lookup, Assoc.lookup_of_mem keys⟩

/-- Each section of a handler has made one. -/
theorem Distinct.handlersOf_made (usable : verdict d = .ok ()) :
    List.Forall₂ (fun e h => Makes (section? d) e.2 h) (sectionsOf d "handler") (handlersOf d) := by
  obtain ⟨⟨formatters, formatted, hs, made⟩, -⟩ := verdict_eq_ok_iff.mp usable
  have all : handlersOf d = hs := by
    rw [handlersOf, formatted]
    exact handlersMade_of_mapM made
  rw [all]
  exact (forall₂_of_mapM made).imp fun e h first =>
    makes_of_handlerOf (fun name => distinct.lookup_formatters formatted name) first

/-- Each logger is changed by one section, unless there are two for the root. -/
theorem Distinct.eq_of_sameLogger (oneRoot : OneRoot d) {n : String} {e f : String × Entries}
    (listed : e ∈ collect (sectionsOf d "logger")) (same : State.SameLogger n e.1)
    (again : f ∈ collect (sectionsOf d "logger")) (other : State.SameLogger n f.1) : f = e := by
  have first := (distinct.mem_collect_sectionsOf (by decide)).mp listed
  have second := (distinct.mem_collect_sectionsOf (by decide)).mp again
  have names : f.1 = e.1 := by
    rcases same.eq_or_roots other with names | ⟨root, root'⟩
    · exact names.symm
    · exact oneRoot.eq_of_roots (by rw [second]; rfl) (by rw [first]; rfl) root' root
  rw [names] at second
  exact Prod.ext names (Option.some.inj (second.symm.trans first))

theorem Distinct.isSome_section?_iff {kind name : String} (known : kind ∈ kinds) :
    (section? d kind name).isSome = true ↔ name ∈ (sectionsOf d kind).map Prod.fst := by
  rw [← distinct.lookup_sectionsOf known, Assoc.mem_keys_iff, Option.isSome_iff_exists]

/-- **Sections are followed.** A document that can be applied does what its sections say, unless it
has two sections for the root. -/
theorem Distinct.applied (oneRoot : OneRoot d) {s : State}
    (usable : verdict d = .ok ()) :
    Applied (section? d) (fun name => (handlerIds d s.handlers.size).lookup name) s
      (configure d s).2 := by
  have each := distinct.handlersOf_made usable
  have count : (sectionsOf d "handler").length = (handlersOf d).length := each.length_eq
  have run : (configure d s).2 =
    ({ s with handlers := s.handlers ++ (handlersOf d).toArray } : State).applied
      (handlerIds d s.handlers.size) (collect (sectionsOf d "logger")) := by
    rw [configure_run, used_of_verdict usable]
  have handlers : (configure d s).2.handlers = s.handlers ++ (handlersOf d).toArray := by
    rw [run, State.handlers_applied]
  have size : (configure d s).2.handlers.size = s.handlers.size + (handlersOf d).length := by
    simp [handlers]
  constructor
  case made =>
    intro name options there
    obtain ⟨i, found⟩ := List.mem_iff_getElem?.mp ((distinct.mem_sectionsOf (by decide)).mpr there)
    obtain ⟨bound, value⟩ := List.getElem?_eq_some_iff.mp found
    have bound' : i < (handlersOf d).length := count ▸ bound
    have makes := each.get bound bound'
    simp only [List.get_eq_getElem, value] at makes
    refine ⟨s.handlers.size + i, (handlersOf d)[i], ?_, ?_, makes⟩
    · rw [distinct.lookup_handlerIds_iff, Nat.add_sub_cancel_left, List.getElem?_map, found]
      exact ⟨Nat.le_add_right _ _, rfl⟩
    · rw [handlers, Array.getElem?_append_right (Nat.le_add_right _ _), Nat.add_sub_cancel_left,
        List.getElem?_toArray, List.getElem?_eq_getElem bound']
  case numbered =>
    intro name id given
    obtain ⟨above, found⟩ := distinct.lookup_handlerIds_iff.mp given
    obtain ⟨bound, -⟩ := List.getElem?_eq_some_iff.mp found
    rw [List.length_map, count] at bound
    refine ⟨(distinct.isSome_section?_iff (by decide)).mpr (List.mem_of_getElem? found), above, ?_⟩
    exact size ▸ (Nat.sub_lt_iff_lt_add' above).mp bound
  case apart =>
    intro name other id given again
    obtain ⟨-, first⟩ := distinct.lookup_handlerIds_iff.mp given
    obtain ⟨-, second⟩ := distinct.lookup_handlerIds_iff.mp again
    exact Option.some.inj (first.symm.trans second)
  case new =>
    intro id above there
    have bound : id - s.handlers.size < ((sectionsOf d "handler").map Prod.fst).length := by
      rw [List.length_map, count]
      omega
    exact ⟨_, distinct.lookup_handlerIds_iff.mpr ⟨above, List.getElem?_eq_getElem bound⟩⟩
  case old =>
    intro id below
    rw [handlers]
    exact Array.getElem?_append_left below
  case named =>
    intro n name options there same
    have listed := (distinct.mem_collect_sectionsOf (by decide)).mpr there
    have alone :=
      State.get_applied_of_mem (handlerIds d s.handlers.size) (collect_distinct _).of_map listed
      (fun f again other => distinct.eq_of_sameLogger oneRoot listed same again other) same
      (s := { s with handlers := s.handlers ++ (handlersOf d).toArray })
    rw [run, alone]
    exact follows_settle ((verdict_eq_ok_iff.mp usable).2 _ listed) _
  case unnamed =>
    intro n silent
    rw [run]
    refine State.get_applied_of_silent _ fun e listed same => ?_
    have there := (distinct.mem_collect_sectionsOf (by decide)).mp listed
    rw [silent e.1 same] at there
    cases there
  case knows =>
    intro n
    rw [run, State.knows_applied_iff, Assoc.mem_keys_iff,
      lookup_collect_of_nodup (distinct.nodup_sectionsOf (by decide)),
      distinct.lookup_sectionsOf (by decide),
      ← Option.isSome_iff_exists]
    exact Iff.rfl
  case roots =>
    intro n root
    rw [run]
    exact State.lookup_applied_root _ _ _ root
  case rest =>
    rw [run]
    exact State.rest_applied _ _ _

end outcome

end DagAccess.Logging
