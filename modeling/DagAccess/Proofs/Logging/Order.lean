import DagAccess.Proofs.Logging.Outcome

/-!
# The order of sections

Sections may refer to others that stand before or behind them, or nowhere. Where a document has one
section for the root at most, their order does not matter: it can be applied in all orders or in
none, and comes to states that are the same but for the numbers of new handlers
(`configure_permuted`). With a section `logger` beside `logger_root`, the later of the two counts
(`configure_two_roots`).
-/

namespace DagAccess.Logging

open Ini (Document Entries)
open State (isRoot)

variable {d e : Document} {find : Sections} {number numbered : String → Option HandlerId}
  {s t u : State}

/-! ## The same state -/

/-- The states `t` and `u` that came of `s` are the same but for the numbers of new handlers. Who
stands above a logger is the same, unless names that the name of the root begins with are those of
loggers. -/
structure Renumbered (renumber : HandlerId → HandlerId) (s t u : State) : Prop where
  old {id} (below : id < s.handlers.size) : renumber id = id
  injective {id other} (there : id < t.handlers.size) (also : other < t.handlers.size)
    (same : renumber id = renumber other) : id = other
  surjective {id} (there : id < u.handlers.size) :
    ∃ other, other < t.handlers.size ∧ renumber other = id
  handlers {id} (there : id < t.handlers.size) : u.handlers[renumber id]? = t.handlers[id]?
  loggers n : u.get n = { t.get n with handlers := (t.get n).handlers.map renumber } ∨
    t.get n = s.get n ∧ u.get n = s.get n
  knows n : u.Knows n ↔ t.Knows n
  lineage (plain : ∀ a : String, a.toList.isPrefixOf rootName.toList = true →
    t.loggers.lookup a = none) n :
    u.lineage n = t.lineage n
  rest : u.tags = t.tags ∧ u.records = t.records ∧ u.out = t.out ∧ u.err = t.err

/-! ## What sections determine -/

theorem Makes.eq {options : Entries} {h k : Handler} (first : Makes find options h)
    (second : Makes find options k) : h = k := by
  have level := Except.ok.inj (first.level.symm.trans second.level)
  have stream := Except.ok.inj (first.stream.symm.trans second.stream)
  have format := first.format.trans second.format.symm
  have timeFormat := first.timeFormat.trans second.timeFormat.symm
  have tagFilters := first.tagFilters.trans second.tagFilters.symm
  cases h
  cases k
  simp_all

theorem Follows.eq {name : String} {options : Entries} {l k m : Logger}
    {renumber : HandlerId → HandlerId} (first : Follows number name options l k)
    (second : Follows (fun n => (number n).map renumber) name options l m) :
    m = { k with handlers := k.handlers.map renumber } := by
  have level := Except.ok.inj (first.level.symm.trans second.level)
  have propagate := first.propagate.trans second.propagate.symm
  obtain ⟨names, listed, handlers⟩ := first.handlers
  obtain ⟨names', listed', handlers'⟩ := second.handlers
  obtain rfl : names = names' := Except.ok.inj (listed.symm.trans listed')
  have mapped : m.handlers = k.handlers.map renumber := by
    rw [handlers', handlers, List.map_filterMap]
  cases k
  cases m
  simp_all

/-! ## Loggers above a logger -/

section lineage

variable (known : ∀ a, (u.loggers.lookup a).isSome = (t.loggers.lookup a).isSome)
  (plain : ∀ a : String, a.toList.isPrefixOf rootName.toList = true → t.loggers.lookup a = none)
include known plain

theorem parent_congr (name : String) : u.parent name = t.parent name := by
  unfold State.parent
  simp only [known]
  cases found : (State.ancestors name).find? fun a => (t.loggers.lookup a).isSome with
  | none => rfl
  | some a =>
    have there := List.find?_some found
    have other : a.toList.isPrefixOf rootName.toList = false := by
      rw [Bool.eq_false_iff]
      intro begins
      rw [plain a begins] at there
      cases there
    simp only [other, Bool.false_and]

theorem lineage_congr (name : String) : u.lineage name = t.lineage name := by
  have chain (fuel : Nat) (name : String) : u.chain fuel name = t.chain fuel name := by
    induction fuel generalizing name with
    | zero => rfl
    | succ fuel ih => rw [State.chain, State.chain, parent_congr known plain, ih]
  exact chain name.length name

end lineage

/-! ## Two outcomes -/

theorem Applied.isSome_number (applied : Applied find number s t) (name : String) :
    (number name).isSome = (find "handler" name).isSome := by
  rw [Bool.eq_iff_iff]
  constructor
  · intro given
    obtain ⟨id, given⟩ := Option.isSome_iff_exists.mp given
    exact (applied.numbered given).1
  · intro there
    obtain ⟨options, there⟩ := Option.isSome_iff_exists.mp there
    obtain ⟨id, -, given, -⟩ := applied.made there
    exact Option.isSome_iff_exists.mpr ⟨id, given⟩

theorem Applied.bound (applied : Applied find number s t) {id : HandlerId}
    (below : id < s.handlers.size) : id < t.handlers.size := by
  have there := (applied.old below).trans (Array.getElem?_eq_getElem below)
  exact (Array.getElem?_eq_some_iff.mp there).1

/-- The numbers of one outcome are those of the other, renumbered. -/
theorem Applied.exists_renumber (first : Applied find number s t)
    (second : Applied find numbered s u) :
    ∃ renumber : HandlerId → HandlerId, (∀ id, id < s.handlers.size → renumber id = id) ∧
      ∀ name, numbered name = (number name).map renumber := by
  classical
  refine ⟨fun id =>
    if named : ∃ name, number name = some id then (numbered named.choose).getD id else id, ?_, ?_⟩
  · intro id below
    refine dif_neg ?_
    rintro ⟨name, given⟩
    exact absurd (first.numbered given).2.1 (Nat.not_le.mpr below)
  · intro name
    have both : (numbered name).isSome = (number name).isSome :=
      (second.isSome_number name).trans (first.isSome_number name).symm
    cases given : number name with
    | none =>
      rw [given] at both
      exact Option.isNone_iff_eq_none.mp (Option.isSome_eq_false_iff.mp both)
    | some id =>
      rw [given] at both
      obtain ⟨other, there⟩ := Option.isSome_iff_exists.mp both
      have named : ∃ name, number name = some id := ⟨name, given⟩
      have chosen : named.choose = name := first.apart named.choose_spec given
      rw [Option.map_some, dif_pos named, chosen, there]
      rfl

section renumbered

variable {renumber : HandlerId → HandlerId} (first : Applied find number s t)
  (second : Applied find (fun name => (number name).map renumber) s u)
include first second

theorem Applied.isSome_lookup (a : String) :
    (u.loggers.lookup a).isSome = (t.loggers.lookup a).isSome := by
  cases root : isRoot a with
  | true => rw [first.roots root, second.roots root]
  | false =>
    rw [Bool.eq_iff_iff, ← State.knows_iff root, ← State.knows_iff root]
    exact (second.knows a).trans (first.knows a).symm

/-- What sections say determines the state but for the numbers of new handlers. -/
theorem Applied.renumbered (old : ∀ id, id < s.handlers.size → renumber id = id) :
    Renumbered renumber s t u := by
  -- a new handler has a name, under which the other outcome has it too
  have new {id : HandlerId} (above : ¬ id < s.handlers.size) (there : id < t.handlers.size) :
      ∃ name, number name = some id ∧ (number name).map renumber = some (renumber id) := by
    obtain ⟨name, given⟩ := first.new (Nat.not_lt.mp above) there
    exact ⟨name, given, by rw [given]; rfl⟩
  have above {id : HandlerId} (above : ¬ id < s.handlers.size) (there : id < t.handlers.size) :
      s.handlers.size ≤ renumber id := by
    obtain ⟨name, -, given⟩ := new above there
    exact (second.numbered given).2.1
  constructor
  case old => exact fun below => old _ below
  case injective =>
    intro id other there also same
    by_cases below : id < s.handlers.size
    · by_cases below' : other < s.handlers.size
      · rwa [old id below, old other below'] at same
      · have far := above below' also
        rw [← same, old id below] at far
        exact absurd below (Nat.not_lt.mpr far)
    · by_cases below' : other < s.handlers.size
      · have far := above below there
        rw [same, old other below'] at far
        exact absurd below' (Nat.not_lt.mpr far)
      · obtain ⟨name, given, given'⟩ := new below there
        obtain ⟨name', again, again'⟩ := new below' also
        obtain rfl : name = name' := second.apart given' (same ▸ again')
        exact Option.some.inj (given.symm.trans again)
  case surjective =>
    intro id there
    by_cases below : id < s.handlers.size
    · exact ⟨id, first.bound below, old id below⟩
    · obtain ⟨name, given⟩ := second.new (Nat.not_lt.mp below) there
      obtain ⟨other, before, rfl⟩ := Option.map_eq_some_iff.mp given
      exact ⟨other, (first.numbered before).2.2, rfl⟩
  case handlers =>
    intro id there
    by_cases below : id < s.handlers.size
    · rw [old id below, first.old below, second.old below]
    · obtain ⟨name, given, given'⟩ := new below there
      obtain ⟨options, said⟩ := Option.isSome_iff_exists.mp (first.numbered given).1
      obtain ⟨id', h, again, handler, makes⟩ := first.made said
      obtain ⟨id'', k, again', handler', makes'⟩ := second.made said
      obtain rfl : id = id' := Option.some.inj (given.symm.trans again)
      obtain rfl : renumber id = id'' := Option.some.inj (given'.symm.trans again')
      rw [handler, handler', makes.eq makes']
  case loggers =>
    intro n
    by_cases named : ∃ name options, find "logger" name = some options ∧ State.SameLogger n name
    · obtain ⟨name, options, there, same⟩ := named
      exact .inl ((first.named there same).eq (second.named there same))
    · have silent : ∀ name, State.SameLogger n name → find "logger" name = none := by
        intro name same
        rw [Option.eq_none_iff_forall_ne_some]
        exact fun options there => named ⟨name, options, there, same⟩
      exact .inr ⟨first.unnamed silent, second.unnamed silent⟩
  case knows => exact fun n => (second.knows n).trans (first.knows n).symm
  case lineage => exact fun plain n => lineage_congr (first.isSome_lookup second) plain n
  case rest =>
    obtain ⟨tags, records, out, err⟩ := first.rest
    obtain ⟨tags', records', out', err'⟩ := second.rest
    exact ⟨tags'.trans tags.symm, records'.trans records.symm, out'.trans out.symm,
      err'.trans err.symm⟩

end renumbered

/-! ## Orders of sections -/

/-- **The order of sections does not matter.** A document can be applied in all orders of its
sections or in none, and with one section for the root at most, two orders come to states that are
the same but for the numbers of handlers. -/
theorem configure_permuted (distinct : Distinct d) (order : e.sections.Perm d.sections)
    (defaults : e.defaults = d.defaults) (s : State) :
    ((configure e s).1 = .ok () ↔ (configure d s).1 = .ok ()) ∧
    (OneRoot d → (configure d s).1 = .ok () → ∃ number renumber,
      Applied (section? d) number s (configure d s).2 ∧
      Applied (section? d) (fun name => (number name).map renumber) s (configure e s).2 ∧
      Renumbered renumber s (configure d s).2 (configure e s).2) := by
  have other := distinct.of_perm order
  have same := section?_of_perm distinct order defaults
  have verdicts : verdict e = .ok () ↔ verdict d = .ok () := by
    rw [distinct.verdict_iff, other.verdict_iff, same]
  rw [configure_run, configure_run]
  refine ⟨verdicts, fun oneRoot usable => ?_⟩
  have oneRoot' : OneRoot e := by
    rwa [OneRoot, hasSection_of_perm distinct order, hasSection_of_perm distinct order]
  have first := distinct.applied oneRoot usable (s := s)
  have second := other.applied oneRoot' (verdicts.mpr usable) (s := s)
  rw [same] at second
  obtain ⟨renumber, old, renumbers⟩ := first.exists_renumber second
  rw [funext renumbers] at second
  rw [configure_run] at first second
  exact ⟨_, renumber, first, second, first.renumbered second old⟩

/-- Settings in which sections refer to others before and behind them, and to one that is
missing. -/
def scatteredSettings : Document where
  sections := [
    ("logger_a",
      [("level", .text "debug"), ("handlers", .text "late, nowhere, early"),
        ("propagate", .text "0")]),
    ("handler_early", [("formatter", .text "f"), ("level", .text "INFO")]),
    ("formatter_f", [("format", .text "%(dagidf)s %(message)s")]),
    ("logger_root", [("level", .text "ERROR"), ("handlers", .text "early")]),
    ("handler_late", [("args", .text "(sys.stderr,)"), ("formatter", .text "g")])]

/-- The same settings from the last section to the first. -/
def reversedSettings : Document where
  sections := scatteredSettings.sections.reverse

/-- The other order exchanges the numbers of the two handlers, and nothing else. -/
theorem configure_permuted_scattered :
    ∃ renumber, Renumbered renumber .initial (configure scatteredSettings .initial).2
        (configure reversedSettings .initial).2 ∧
      (configure reversedSettings .initial).1 = .ok () ∧
      ((configure scatteredSettings .initial).2.get "a").handlers = [2, 1] ∧
      ((configure reversedSettings .initial).2.get "a").handlers = [1, 2] ∧
      renumber 1 = 2 ∧ renumber 2 = 1 := by
  have distinct : Distinct scatteredSettings := ⟨by decide, by decide⟩
  have usable : (configure scatteredSettings .initial).1 = .ok () := by decide +kernel
  obtain ⟨verdicts, outcome⟩ :=
    configure_permuted distinct (e := reversedSettings) (List.reverse_perm _) rfl .initial
  obtain ⟨_, renumber, -, -, renumbered⟩ := outcome (by decide) usable
  have here : (configure scatteredSettings .initial).2.get "a" =
      { level := .debug, handlers := [2, 1], propagate := false } := by decide +kernel
  have there : (configure reversedSettings .initial).2.get "a" =
      { level := .debug, handlers := [1, 2], propagate := false } := by decide +kernel
  have before : State.initial.get "a" = {} := by decide
  have same := renumbered.loggers "a"
  rw [here, there, before] at same
  have handlers : [1, 2] = [renumber 2, renumber 1] := by
    rcases same with mapped | ⟨unchanged, -⟩
    · exact congrArg Logger.handlers mapped
    · cases unchanged
  simp only [List.cons.injEq, and_true] at handlers
  exact ⟨renumber, renumbered, verdicts.mpr usable, by rw [here], by rw [there], handlers.2.symm,
    handlers.1.symm⟩

/-- Settings for the root, beside a section for loggers that has no underscore. -/
def twoRootSettings : Document where
  sections := [("logger_root", [("level", .text "ERROR")]), ("logger", [("level", .text "DEBUG")])]

/-- A section without an underscore changes the root too, and the later of the two counts. -/
theorem configure_two_roots :
    Distinct twoRootSettings ∧ (twoRootSettings.sections.reverse).Perm twoRootSettings.sections ∧
    (configure twoRootSettings .initial).1 = .ok () ∧
    ((configure twoRootSettings .initial).2.get rootName).level = .debug ∧
    (configure { sections := twoRootSettings.sections.reverse } .initial).1 = .ok () ∧
    ((configure { sections := twoRootSettings.sections.reverse } .initial).2.get rootName).level =
      .error := by
  refine ⟨⟨by decide, by decide⟩, List.reverse_perm _, ?_⟩
  decide +kernel

end DagAccess.Logging
