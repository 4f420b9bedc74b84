import DagAccess.Proofs.Act
import DagAccess.Settings.Lookup

/-!
# Options submitted with a DAG

The entries of a document are entered one after the other (`optionsOf_eq`), each under the text of
its key with the text of its value. So an option has the text of the last entry that names it
(`lookup_optionsOf`), no option is given twice (`nodup_optionsOf`), and the only fault is an integer
that is too long to write (`optionsOf_failed`). `Holds` says which entries the file at a path has.
-/

namespace DagAccess.Settings

variable {options after : Options} {entries : List (Datum × Datum)} {key value : Datum}
  {option text : String}

/-! ## Entering entries -/

/-- Enters the text of an entry; an entry without a value is left out. -/
def enterEntry (options : Options) (e : Datum × Datum) : Except Fault Options :=
  match e.2 with
  | .null => .ok options
  | value =>
    match e.1.plain?, value.option? with
    | some option, some text => .ok (Assoc.put option text options)
    | _, _ => .error .tooLongToWrite

theorem optionsOf_eq (entries : List (Datum × Datum)) :
    optionsOf entries = entries.foldlM enterEntry [] := by
  refine congrArg (fun step => entries.foldlM step []) ?_
  funext options e
  obtain ⟨key, value⟩ := e
  cases value <;> rfl

/-- An entry has no value, or its key and its value have texts. -/
def IsWritable (e : Datum × Datum) : Prop :=
  e.2 = .null ∨ ∃ option text, e.1.plain? = some option ∧ e.2.option? = some text

theorem enterEntry_null (options : Options) (key : Datum) :
    enterEntry options (key, .null) = .ok options := rfl

theorem enterEntry_eq (given : value ≠ .null) (options : Options) (key : Datum) :
    enterEntry options (key, value) =
      match key.plain?, value.option? with
      | some option, some text => .ok (Assoc.put option text options)
      | _, _ => .error .tooLongToWrite := by
  cases value with
  | null => exact absurd rfl given
  | _ => rfl

theorem enterEntry_text (given : value ≠ .null) (named : key.plain? = some option)
    (written : value.option? = some text) (options : Options) :
    enterEntry options (key, value) = .ok (Assoc.put option text options) := by
  rw [enterEntry_eq given, named, written]

theorem enterEntry_failed {e : Datum × Datum} (stuck : ¬ IsWritable e) (options : Options) :
    enterEntry options e = .error .tooLongToWrite := by
  obtain ⟨key, value⟩ := e
  obtain ⟨given, unwritten⟩ := not_or.mp stuck
  rw [enterEntry_eq given]
  split
  · next option text named written => exact absurd ⟨option, text, named, written⟩ unwritten
  · rfl

/-- What is entered is left out, or it is the text of the option that the entry names. -/
theorem of_enterEntry {e : Datum × Datum} (entered : enterEntry options e = .ok after) :
    (e.2 = .null ∧ after = options) ∨
    ∃ option text, e.1.plain? = some option ∧ e.2.option? = some text ∧ e.2 ≠ .null ∧
      after = Assoc.put option text options := by
  obtain ⟨key, value⟩ := e
  by_cases nothing : value = .null
  · rw [nothing, enterEntry_null] at entered
    exact .inl ⟨nothing, (Except.ok.inj entered).symm⟩
  · rw [enterEntry_eq nothing] at entered
    split at entered
    · next option text named written =>
      exact .inr ⟨option, text, named, written, nothing, (Except.ok.inj entered).symm⟩
    · cases entered

theorem exists_enterEntry {e : Datum × Datum} (writable : IsWritable e) (options : Options) :
    ∃ after, enterEntry options e = .ok after := by
  obtain ⟨key, value⟩ := e
  by_cases nothing : value = .null
  · exact ⟨options, by rw [nothing, enterEntry_null]⟩
  · obtain ⟨option, text, named, written⟩ := writable.resolve_left nothing
    exact ⟨_, enterEntry_text nothing named written options⟩

/-! ## Entering all entries of a document -/

theorem exists_foldlM_enterEntry (writable : ∀ e ∈ entries, IsWritable e) (options : Options) :
    ∃ after, entries.foldlM enterEntry options = .ok after := by
  induction entries generalizing options with
  | nil => exact ⟨options, rfl⟩
  | cons e rest ih =>
    obtain ⟨first, later⟩ := List.forall_mem_cons.mp writable
    obtain ⟨middle, entered⟩ := exists_enterEntry first options
    rw [List.foldlM_cons, entered]
    exact ih later middle

/-- One entry that cannot be written stops all of them. -/
theorem foldlM_enterEntry_failed {e : Datum × Datum} (there : e ∈ entries) (stuck : ¬ IsWritable e)
    (options : Options) : entries.foldlM enterEntry options = .error .tooLongToWrite := by
  induction entries generalizing options with
  | nil => cases there
  | cons first rest ih =>
    rw [List.foldlM_cons]
    by_cases writable : IsWritable first
    · obtain ⟨middle, entered⟩ := exists_enterEntry writable options
      have later : e ∈ rest := by
        rcases List.mem_cons.mp there with rfl | later
        · exact absurd writable stuck
        · exact later
      rw [entered]
      exact ih later middle
    · rw [enterEntry_failed writable]
      rfl

/-- A document gives options if and only if each of its entries can be written. -/
theorem optionsOf_ok_iff :
    (∃ options, optionsOf entries = .ok options) ↔ ∀ e ∈ entries, IsWritable e := by
  rw [optionsOf_eq]
  refine ⟨?_, fun writable => exists_foldlM_enterEntry writable []⟩
  rintro ⟨options, run⟩ e there
  refine Classical.byContradiction fun stuck => ?_
  rw [foldlM_enterEntry_failed there stuck] at run
  cases run

/-- What holds without options, and goes on to hold when an entry is entered, holds in the end. -/
theorem foldlM_enterEntry_induct {P : Options → Prop}
    (step : ∀ e ∈ entries, ∀ options after, enterEntry options e = .ok after → P options → P after)
    (start : P options) (run : entries.foldlM enterEntry options = .ok after) : P after := by
  induction entries generalizing options with
  | nil => exact Except.ok.inj run ▸ start
  | cons e rest ih =>
    rw [List.foldlM_cons] at run
    cases entered : enterEntry options e with
    | error fault =>
      rw [entered] at run
      cases run
    | ok middle =>
      rw [entered] at run
      refine ih (fun e there => step e (List.mem_cons_of_mem _ there)) ?_ run
      exact step e List.mem_cons_self options middle entered start

/-- Entries that do not name an option leave it as it is. -/
theorem lookup_foldlM_enterEntry (silent : ∀ e ∈ entries, e.1.plain? ≠ some option)
    (run : entries.foldlM enterEntry options = .ok after) :
    after.lookup option = options.lookup option := by
  refine foldlM_enterEntry_induct
    (P := fun reached => reached.lookup option = options.lookup option) ?_ rfl run
  intro e there reached next entered same
  rcases of_enterEntry entered with ⟨-, rfl⟩ | ⟨other, text, named, -, -, rfl⟩
  · exact same
  · have apart : (option == other) = false :=
      beq_false_of_ne fun equal => silent e there (equal ▸ named)
    rw [Assoc.lookup_put, apart]
    exact same

/-- An option has the text of the last entry that names it. -/
theorem lookup_optionsOf {before behind : List (Datum × Datum)} (named : key.plain? = some option)
    (given : value ≠ .null) (written : value.option? = some text)
    (last : ∀ e ∈ behind, e.1.plain? ≠ some option)
    (run : optionsOf (before ++ (key, value) :: behind) = .ok options) :
    options.lookup option = some text := by
  rw [optionsOf_eq, List.foldlM_append] at run
  cases begun : before.foldlM enterEntry [] with
  | error fault =>
    rw [begun] at run
    cases run
  | ok reached =>
    rw [begun] at run
    replace run : ((key, value) :: behind).foldlM enterEntry reached = .ok options := run
    rw [List.foldlM_cons, enterEntry_text given named written] at run
    rw [lookup_foldlM_enterEntry last run, Assoc.lookup_put, beq_self_eq_true, if_pos rfl]

/-- Two values with one text are the same to options. -/
theorem optionsOf_congr {other : Datum} (given : value ≠ .null) (given' : other ≠ .null)
    (same : value.option? = other.option?) (before behind : List (Datum × Datum)) (key : Datum) :
    optionsOf (before ++ (key, value) :: behind) =
      optionsOf (before ++ (key, other) :: behind) := by
  have step : ∀ options, enterEntry options (key, value) = enterEntry options (key, other) := by
    intro options
    rw [enterEntry_eq given, enterEntry_eq given', same]
  simp only [optionsOf_eq, List.foldlM_append, List.foldlM_cons, step]

/-! ## Files -/

/-- The entries of the document that bytes write, if they write a document that is a mapping. -/
def entriesIn (bytes : List UInt8) : Option (List (Datum × Datum)) := do
  let cs ← Utf8.decode? bytes
  let d ← (Yaml.Document.read (Text.unifyNewlines cs)).toOption
  d.entries?

/-- The file at a path has these entries. -/
def Holds (w : World) (path : String) (entries : List (Datum × Datum)) : Prop :=
  ∃ bytes, w.host.files.read path = .ok bytes ∧ entriesIn bytes = some entries

theorem readDagOptions_eq {bytes : List UInt8} (held : entriesIn bytes = some entries)
    (path : String) : readDagOptions path bytes = optionsOf entries := by
  unfold readDagOptions
  unfold entriesIn at held
  obtain ⟨cs, decoded, held⟩ := Option.bind_eq_some_iff.mp held
  obtain ⟨d, read, held⟩ := Option.bind_eq_some_iff.mp held
  cases outcome : Yaml.Document.read (Text.unifyNewlines cs) with
  | error fault =>
    rw [outcome] at read
    cases read
  | ok other =>
    rw [outcome] at read
    obtain rfl : other = d := Option.some.inj read
    simp only [decoded, outcome, held]

theorem run_dagOptions (path : String) (w : World) :
    dagOptions path w =
      match w.host.files.read path with
      | .error cause => (.error (.acl (.unreadable path cause)), w)
      | .ok bytes => (readDagOptions path bytes, w) := by
  unfold dagOptions
  rw [Act.run_bind]
  show (match w.host.files.read path with
    | .error cause => throw (.acl (.unreadable path cause))
    | .ok bytes => Act.of (readDagOptions path bytes) : Act Options) w = _
  cases w.host.files.read path with
  | error cause => rfl
  | ok bytes => exact Act.run_of _ w

theorem dagOptions_of_holds {w : World} {path : String} (held : Holds w path entries) :
    dagOptions path w = (optionsOf entries, w) := by
  obtain ⟨bytes, read, held⟩ := held
  rw [run_dagOptions, read]
  exact congrArg (·, w) (readDagOptions_eq held path)

/-- A world with nothing but a file that is submitted. -/
def submission (bytes : List UInt8) : World :=
  .start { files := { entries := [(["dag.yaml"], .file bytes)] } } 0

theorem read_submission (bytes : List UInt8) :
    (submission bytes).host.files.read "/dag.yaml" = .ok bytes := by
  rfl

end DagAccess.Settings
