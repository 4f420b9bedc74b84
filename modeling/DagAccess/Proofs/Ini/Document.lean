import DagAccess.Ini

/-!
# What documents hold

`Document.entries` are the options that are set in a section itself; the default options are those
of the default section. `Document.set?` finds one of them by its exact name. Both are given for each
operation on documents (`entries_update`, `set?_finish`), and so is what counts in a section: its
own options, or else the default ones (`lookup_items`).
-/

namespace DagAccess.Ini

namespace Entries

/-- Later entries count before earlier ones. -/
theorem lookup_override (es fs : Entries) (distinct : (fs.map Prod.fst).Nodup) (option : String) :
    (es.override fs).lookup option = (fs.lookup option).or (es.lookup option) := by
  induction fs generalizing es with
  | nil => rfl
  | cons e rest ih =>
    obtain ⟨fresh, distinct⟩ := List.nodup_cons.mp distinct
    have step : es.override (e :: rest) = Entries.override (es.put e.1 e.2) rest := rfl
    rw [step, ih _ distinct, Entries.put, Assoc.lookup_put, List.lookup_cons]
    by_cases same : option = e.1
    · -- the option is not set again
      have unset : rest.lookup option = none := by
        rw [List.lookup_eq_none_iff]
        intro e' later
        have other : option ≠ e'.1 := fun again =>
          fresh (List.mem_map.mpr ⟨e', later, (same ▸ again).symm⟩)
        simpa using other
      have key : (option == e.1) = true := beq_iff_eq.mpr same
      rw [unset, key, if_pos rfl]
      rfl
    · have apart : (option == e.1) = false := beq_false_of_ne same
      simp [apart]

/-- Setting an option repeats no name. -/
theorem nodup_put {es : Entries} (distinct : (es.map Prod.fst).Nodup) (option : String)
    (v : Value) : ((es.put option v).map Prod.fst).Nodup := by
  rw [Entries.put, Assoc.keys_put]
  split
  · exact distinct
  · next new =>
    refine List.nodup_append.mpr ⟨distinct, List.pairwise_singleton _ _,
      fun name there other here same => ?_⟩
    rw [List.mem_singleton.mp here] at same
    exact new (same ▸ there)

end Entries

/-- The value is a text. -/
def Value.IsText (v : Value) : Prop := ∃ s, v = .text s

theorem Value.IsText.finish {v : Value} (text : v.IsText) : v.finish = v := by
  obtain ⟨s, rfl⟩ := text
  rfl

namespace Document

/-- The options that are set in a section itself. -/
def entries (d : Document) (name : String) : Entries :=
  (d.own? name).getD []

/-- The value that is set for an option in a section itself, the option by its exact name. -/
def set? (d : Document) (name option : String) : Option Value :=
  (d.entries name).lookup option

theorem entries_empty (name : String) : ({} : Document).entries name = [] := by
  unfold entries own?
  simp only [List.lookup_nil]
  split <;> rfl

theorem hasSection_eq (d : Document) (name : String) :
    d.hasSection name = (d.sections.lookup name).isSome :=
  Assoc.any_key name d.sections

/-- An option counts in a section if it has a value there. -/
theorem hasOption_eq (d : Document) {name : String} (named : name ≠ "") (other : name ≠ defaultName)
    (option : String) : d.hasOption name option = (d.find? name option).isSome := by
  simp only [hasOption, find?, own?, Assoc.any_key, named, other]
  cases d.sections.lookup name with
  | none => rfl
  | some es => cases es.lookup (Text.lower option) <;> simp

/-- The default options are those of the default section. -/
theorem entries_default {d : Document} (ordinary : d.hasSection defaultName = false) :
    d.entries defaultName = d.defaults := by
  rw [hasSection_eq, Option.isSome_eq_false_iff, Option.isNone_iff_eq_none] at ordinary
  simp [entries, own?, ordinary]

/-- What counts in a section are its own options, or else the default ones. -/
theorem lookup_items {d : Document} {name : String} (there : d.hasSection name = true)
    (distinct : ((d.entries name).map Prod.fst).Nodup) (ordinary : d.hasSection defaultName = false)
    (option : String) :
    (d.items name).lookup option = (d.set? name option).or (d.set? defaultName option) := by
  have usual : d.set? defaultName option = d.defaults.lookup option :=
    congrArg (List.lookup option) (entries_default ordinary)
  rw [usual]
  rw [hasSection_eq, Option.isSome_iff_exists] at there
  obtain ⟨es, found⟩ := there
  have own : d.entries name = es := by simp [entries, own?, found]
  rw [items, found, set?, own]
  exact Entries.lookup_override _ _ (own ▸ distinct) option

/-! ## Changes -/

theorem lookup_sections_map (name other : String) (f : Entries → Entries)
    (sections : List (String × Entries)) :
    (sections.map fun s => if s.1 = name then (name, f s.2) else s).lookup other =
      (sections.lookup other).map fun es => if other = name then f es else es := by
  have same : (fun s : String × Entries => if s.1 = name then (name, f s.2) else s) =
      fun s => (s.1, if s.1 = name then f s.2 else s.2) := by
    funext s
    split
    · next here => rw [here]
    · rfl
  rw [same]
  exact Assoc.lookup_map (fun k es => if k = name then f es else es) sections other

/-- A change of a section leaves all others. -/
theorem entries_update (d : Document) (name other : String) (f : Entries → Entries) :
    (d.update name f).entries other = if other = name then f (d.entries name)
      else d.entries other := by
  unfold update
  split
  · next there =>
    rw [hasSection_eq, Option.isSome_iff_exists] at there
    obtain ⟨es, found⟩ := there
    simp only [entries, own?, lookup_sections_map]
    by_cases same : other = name
    · simp [same, found]
    · cases d.sections.lookup other <;> simp [same]
  · next absent =>
    rw [hasSection_eq, Option.not_isSome_iff_eq_none] at absent
    split
    · next default =>
      subst default
      simp only [entries, own?]
      by_cases same : other = defaultName
      · simp [same, absent]
      · simp [same]
    · next ordinary =>
      simp only [entries, own?, List.lookup_append]
      by_cases same : other = name
      · simp [same, absent, ordinary]
      · have apart : (other == name) = false := beq_false_of_ne same
        cases d.sections.lookup other <;> simp [same, List.lookup_cons, apart]

theorem hasSection_update (d : Document) (name other : String) (f : Entries → Entries) :
    (d.update name f).hasSection other =
      (d.hasSection other || decide (other = name) && decide (name ≠ defaultName)) := by
  unfold update
  split
  · next there =>
    simp only [hasSection_eq, lookup_sections_map, Option.isSome_map]
    by_cases same : other = name
    · rw [same, ← hasSection_eq, there, Bool.true_or]
    · simp [same]
  · next absent =>
    split
    · next default => simp [hasSection, default]
    · next ordinary =>
      simp only [hasSection_eq, List.lookup_append]
      by_cases same : other = name
      · cases d.sections.lookup other <;> simp [same, ordinary]
      · have apart : (other == name) = false := beq_false_of_ne same
        cases d.sections.lookup other <;> simp [same, List.lookup_cons, apart]

theorem entries_finish (d : Document) (name : String) :
    d.finish.entries name = (d.entries name).map fun e => (e.1, e.2.finish) := by
  have found :=
    Assoc.lookup_map (fun _ (es : Entries) => es.map fun e => (e.1, e.2.finish)) d.sections name
  simp only [entries, own?, finish, found]
  cases d.sections.lookup name with
  | none => simp only [Option.map_none]; split <;> rfl
  | some es => rfl

theorem hasSection_finish (d : Document) (name : String) :
    d.finish.hasSection name = d.hasSection name := by
  simp only [hasSection, finish, List.any_map]
  rfl

/-- Values that are set are finished. -/
theorem set?_finish (d : Document) (name option : String) :
    d.finish.set? name option = (d.set? name option).map Value.finish := by
  rw [set?, entries_finish]
  exact Assoc.lookup_map (fun _ => Value.finish) (d.entries name) option

/-! ## Finished documents -/

/-- All values are texts. -/
structure IsFinished (d : Document) : Prop where
  defaults : ∀ e ∈ d.defaults, e.2.IsText
  sections : ∀ s ∈ d.sections, ∀ e ∈ s.2, e.2.IsText

theorem empty_isFinished : IsFinished {} :=
  ⟨nofun, nofun⟩

theorem finish_isFinished (d : Document) : d.finish.IsFinished := by
  constructor
  · intro e he
    obtain ⟨⟨option, v⟩, -, rfl⟩ := List.mem_map.mp he
    cases v <;> exact ⟨_, rfl⟩
  · intro s hs e he
    obtain ⟨⟨name, es⟩, -, rfl⟩ := List.mem_map.mp hs
    obtain ⟨⟨option, v⟩, -, rfl⟩ := List.mem_map.mp he
    cases v <;> exact ⟨_, rfl⟩

theorem IsFinished.entries {d : Document} (finished : d.IsFinished) (name : String) :
    ∀ e ∈ d.entries name, e.2.IsText := by
  unfold Document.entries own?
  cases found : d.sections.lookup name with
  | some es => exact finished.sections _ (Assoc.mem_of_lookup found)
  | none =>
    simp only
    split
    · exact finished.defaults
    · exact nofun

theorem IsFinished.set? {d : Document} (finished : d.IsFinished) {name option : String} {v : Value}
    (found : d.set? name option = some v) : v.IsText :=
  finished.entries name _ (Assoc.mem_of_lookup found)

theorem IsFinished.find? {d : Document} (finished : d.IsFinished) {name option : String} {v : Value}
    (found : d.find? name option = some v) : v.IsText := by
  unfold Document.find? at found
  cases own : d.own? name with
  | none =>
    rw [own] at found
    cases found
  | some es =>
    have ours : d.entries name = es := congrArg (Option.getD · []) own
    rw [own, ← ours] at found
    -- an option that a section lacks is looked for among the defaults
    rcases Option.or_eq_some_iff.mp found with set | ⟨-, usual⟩
    · exact finished.set? set
    · exact finished.defaults _ (Assoc.mem_of_lookup usual)

theorem IsFinished.items {d : Document} (finished : d.IsFinished) (name : String) :
    ∀ e ∈ d.items name, e.2.IsText := by
  have own : ∀ e ∈ (d.sections.lookup name).getD [], e.2.IsText := by
    cases found : d.sections.lookup name with
    | none => exact nofun
    | some es => exact finished.sections _ (Assoc.mem_of_lookup found)
  have put : ∀ (option : String) (v : Value) (es : Entries), v.IsText → (∀ e ∈ es, e.2.IsText) →
      ∀ e ∈ es.put option v, e.2.IsText := by
    intro option v es text all
    induction es with
    | nil => exact fun e there => List.mem_singleton.mp there ▸ text
    | cons first rest ih =>
      intro e there
      unfold Entries.put Assoc.put Assoc.putBy at there
      split at there
      · rcases List.mem_cons.mp there with rfl | later
        · exact text
        · exact all e (List.mem_cons_of_mem first later)
      · rcases List.mem_cons.mp there with rfl | later
        · exact all _ List.mem_cons_self
        · exact ih (fun f here => all f (List.mem_cons_of_mem first here)) e later
  have overridden : ∀ fs es : Entries, (∀ e ∈ es, e.2.IsText) → (∀ e ∈ fs, e.2.IsText) →
      ∀ e ∈ es.override fs, e.2.IsText := by
    intro fs
    induction fs with
    | nil => exact fun _ all _ => all
    | cons first rest ih =>
      intro es all more
      exact ih _ (put _ _ _ (more first List.mem_cons_self) all)
        fun e there => more e (List.mem_cons_of_mem first there)
  exact overridden _ _ finished.defaults own

/-- What is finished stays as it is. -/
theorem IsFinished.set?_finish {d : Document} (finished : d.IsFinished) (name option : String) :
    (d.set? name option).map Value.finish = d.set? name option := by
  cases found : d.set? name option with
  | none => rfl
  | some v => rw [Option.map_some, (finished.set? found).finish]

end Document

end DagAccess.Ini
