import DagAccess.Proofs.Ini.Names

/-!
# Two readings of one source

A source is read onto a document with the names of options in a normal form, and onto nothing with
the names as they stand. Both readings are followed line by line: as long as they go on, what they
know is the same up to the names (`Alike`), and the first of them may end before the second one only
because two names have one normal form (`Alike.lines`). The plain reading keeps account of all that
it has set (`Tidy`).
-/

namespace DagAccess.Ini

namespace Progress

/-- What was started and set since the reading began is what is known of it. -/
structure Tidy (p : Progress) : Prop where
  seen : ∀ s, p.document.hasSection s = p.sections.contains s
  ordinary : p.sections.contains defaultName = false
  begun : ∀ s, p.current = some s → p.document.Begun s
  keys : ∀ s o, o ∈ (p.document.entries s).map Prod.fst ↔ (s, o) ∈ p.options
  present : ∀ s o, p.current = some s → p.option = some o → (s, o) ∈ p.options

theorem tidy_start : Tidy { document := {} } where
  seen _ := rfl
  ordinary := rfl
  begun := nofun
  keys s o := by
    rw [Document.entries_empty]
    exact iff_of_false nofun nofun
  present := nofun

/-- What reading onto a document with normal names knows, and what plain reading onto nothing
does. -/
structure Alike (normal : String → String) (d : Document) (p q : Progress) : Prop where
  tidy : Tidy p
  current : q.current = p.current
  option : q.option = p.option.map normal
  indent : q.indent = p.indent
  sections : q.sections = p.sections
  options : q.options = p.options.map fun e => (e.1, normal e.2)
  malformed : q.malformed = p.malformed
  apart : p.document.Apart normal
  overlaid : Document.Overlaid normal d p.document q.document

variable {p q : Progress} {source : String} {n : Nat}

theorem assign_known {normal : String → String} {raw s : String} {name value : List Char}
    (known : (s, normal (String.ofList name)) ∈ p.options) :
    p.assign normal source n raw s name value =
      .error (.duplicateOption source n s (normal (String.ofList name))) :=
  if_pos (List.contains_iff_mem.mpr known)

theorem assign_new {normal : String → String} {raw s : String} {name value : List Char}
    (new : (s, normal (String.ofList name)) ∉ p.options) :
    p.assign normal source n raw s name value =
      .ok { p with
        document :=
          p.document.update s (·.put (normal (String.ofList name)) (.lines [String.ofList value]))
        option :=
          if normal (String.ofList name) = "" then none else some (normal (String.ofList name))
        options := (s, normal (String.ofList name)) :: p.options
        malformed := if name.isEmpty then p.malformed ++ [(n, raw)] else p.malformed } :=
  if_neg (mt List.contains_iff_mem.mp new)

/-! ## Plain reading keeps account -/

namespace Tidy

theorem extend (tidy : Tidy p) {s o : String} (there : (s, o) ∈ p.options) (line : String) :
    Tidy (p.extend s o line) where
  seen other :=
    ((Document.begun_of_mem ((tidy.keys s o).mpr there)).hasSection_update _ other).trans
    (tidy.seen other)
  ordinary := tidy.ordinary
  begun s' current := by
    rw [Document.Begun, Progress.extend,
      (Document.begun_of_mem ((tidy.keys s o).mpr there)).hasSection_update]
    exact tidy.begun s' current
  keys s' o' := by
    rw [Progress.extend, Document.keys_update_extend]
    exact tidy.keys s' o'
  present := tidy.present

theorem header (tidy : Tidy p) {name : String} (started : p.header source n name = .ok q) :
    Tidy q ∧ p.options ⊆ q.options := by
  unfold Progress.header at started
  split at started
  · next known =>
    -- a section that is there was started before
    rw [tidy.seen] at known
    rw [if_pos known] at started
    cases started
  · next fresh =>
    rw [tidy.seen] at fresh
    split at started
    · next default =>
      cases started
      refine ⟨⟨tidy.seen, tidy.ordinary, ?_, tidy.keys, nofun⟩, fun _ there => there⟩
      rintro s ⟨⟩
      exact .inr default
    · next ordinary =>
      cases started
      refine ⟨⟨?_, ?_, ?_, ?_, nofun⟩, fun _ there => there⟩
      · intro s
        simp only [Document.hasSection_update, tidy.seen, List.contains_cons]
        by_cases same : s = name
        · simp [same, ordinary]
        · simp [same]
      · simp only [List.contains_cons, tidy.ordinary, Bool.or_false]
        exact beq_false_of_ne (Ne.symm ordinary)
      · rintro s ⟨⟩
        exact .inl (by simp [Document.hasSection_update, ordinary])
      · intro s o
        rw [Document.entries_start]
        exact tidy.keys s o

theorem assign (tidy : Tidy p) {raw s : String} {name value : List Char}
    (current : p.current = some s) (set : p.assign id source n raw s name value = .ok q) :
    Tidy q ∧ p.options ⊆ q.options := by
  by_cases known : (s, String.ofList name) ∈ p.options
  · rw [assign_known known] at set
    cases set
  · rw [assign_new known] at set
    cases set
    have begun := tidy.begun s current
    refine ⟨⟨?_, tidy.ordinary, ?_, ?_, ?_⟩, List.subset_cons_self _ _⟩
    · intro other
      exact (begun.hasSection_update _ other).trans (tidy.seen other)
    · intro other current
      rw [Document.Begun, begun.hasSection_update]
      exact tidy.begun other current
    · intro s' o'
      simp only [Document.entries_update, id]
      by_cases same : s' = s
      · subst same
        have new : String.ofList name ∉ (p.document.entries s').map Prod.fst :=
          mt (tidy.keys s' _).mp known
        rw [if_pos rfl, Entries.put, Assoc.keys_put, if_neg new, List.mem_append, tidy.keys]
        simp [or_comm]
      · rw [if_neg same, tidy.keys]
        simp [same]
    · intro s' o' here given
      simp only [id] at given
      split at given
      · cases given
      · cases given
        rw [current] at here
        cases here
        exact List.mem_cons_self

theorem fresh (tidy : Tidy p) {raw : String} {text : List Char}
    (ran : p.fresh id source n raw text = .ok q) : Tidy q ∧ p.options ⊆ q.options := by
  unfold Progress.fresh at ran
  split at ran
  · exact tidy.header ran
  · split at ran
    · cases ran
    · next s current =>
      split at ran
      · exact tidy.assign current ran
      · cases ran
        exact ⟨⟨tidy.seen, tidy.ordinary, tidy.begun, tidy.keys, tidy.present⟩,
          fun _ there => there⟩

/-- Each line leaves account of what was set, and forgets nothing. -/
theorem line (tidy : Tidy p) {cs : List Char} (ran : p.line id source n cs = .ok q) :
    Tidy q ∧ p.options ⊆ q.options := by
  have extends_ : ∀ s o text, p.current = some s → p.option = some o →
      Tidy (p.extend s o text) ∧ p.options ⊆ (p.extend s o text).options :=
    fun s o text current option =>
      ⟨tidy.extend (tidy.present s o current option) text, fun _ there => there⟩
  unfold Progress.line at ran
  split at ran
  · cases ran
    exact ⟨tidy, fun _ there => there⟩
  · split at ran
    · next s o current option =>
      cases ran
      exact extends_ s o "" current option
    · cases ran
      exact ⟨tidy, fun _ there => there⟩
  · next indent text kind =>
    have indented : Tidy { p with indent } :=
      ⟨tidy.seen, tidy.ordinary, tidy.begun, tidy.keys, tidy.present⟩
    simp only at ran
    split at ran
    · next s o current option =>
      split at ran
      · cases ran
        exact extends_ s o _ current option
      · exact indented.fresh ran
    · exact indented.fresh ran

theorem lines (tidy : Tidy p) {ls : List (List Char)}
    (ran : Progress.lines id source p n ls = (q, none)) : Tidy q ∧ p.options ⊆ q.options := by
  induction ls generalizing p n with
  | nil =>
    cases ran
    exact ⟨tidy, fun _ there => there⟩
  | cons cs rest ih =>
    unfold Progress.lines at ran
    cases step : p.line id source n cs with
    | error fault =>
      rw [step] at ran
      cases ran
    | ok next =>
      rw [step] at ran
      obtain ⟨kept, grows⟩ := tidy.line step
      obtain ⟨last, more⟩ := ih kept ran
      exact ⟨last, fun _ there => more (grows there)⟩

end Tidy

/-! ## Both readings, line by line -/

/-- How plain reading and the other one end, after a line or after many. -/
inductive Meets (normal : String → String) (d : Document) (source : String) :
    Except Fault Progress → Except Fault Progress → Prop
  | alike {p q : Progress} (alike : Alike normal d p q) : Meets normal d source (.ok p) (.ok q)
  | broken {e f : Fault} : Meets normal d source (.error e) (.error f)
  /-- Two names that are apart have one normal form. -/
  | clash {p : Progress} {n : Nat} {s a b : String} (tidy : Tidy p) (first : (s, a) ∈ p.options)
      (second : (s, b) ∈ p.options) (other : a ≠ b) (same : normal a = normal b) :
      Meets normal d source (.ok p) (.error (.duplicateOption source n s (normal b)))

namespace Alike

variable {normal : String → String} {d : Document}

theorem extend (alike : Alike normal d p q) {s o : String} (there : (s, o) ∈ p.options)
    (line : String) : Alike normal d (p.extend s o line) (q.extend s (normal o) line) :=
  have known := (alike.tidy.keys s o).mpr there
  { alike with
    tidy := alike.tidy.extend there line
    current := alike.current
    option := alike.option
    indent := alike.indent
    sections := alike.sections
    options := alike.options
    malformed := alike.malformed
    apart := alike.apart.extend s o line
    overlaid := alike.overlaid.extend alike.apart known line }

theorem header (alike : Alike normal d p q) (name : String) :
    Meets normal d source (p.header source n name) (q.header source n name) := by
  have tidy : ∀ {p' : Progress}, p.header source n name = .ok p' → Tidy p' :=
    fun ran => (alike.tidy.header ran).1
  unfold Progress.header at tidy ⊢
  by_cases known : p.sections.contains name = true
  · have ours : p.document.hasSection name = true := (alike.tidy.seen name).trans known
    have theirs : q.document.hasSection name = true := by
      rw [alike.overlaid.hasSection, ours, Bool.true_or]
    rw [if_pos ours, if_pos theirs, if_pos known, if_pos (by rwa [alike.sections])]
    exact .broken
  · have ours : ¬ p.document.hasSection name = true := by rwa [alike.tidy.seen]
    have sections : name :: q.sections = name :: p.sections := congrArg (name :: ·) alike.sections
    rw [if_neg ours] at tidy ⊢
    by_cases default : name = defaultName
    · have theirs : ¬ q.document.hasSection name = true := by
        rw [default, alike.overlaid.ordinary]
        exact Bool.false_ne_true
      rw [if_pos default] at tidy ⊢
      rw [if_neg theirs, if_pos default]
      exact .alike { alike with tidy := tidy rfl, current := rfl, option := rfl }
    · rw [if_neg default] at tidy ⊢
      have apart := alike.apart.start name
      -- the document may have the section already, and then nothing is to be started
      by_cases there : d.hasSection name = true
      · have theirs : q.document.hasSection name = true := by
          rw [alike.overlaid.hasSection, there, Bool.or_true]
        rw [if_pos theirs, if_neg (by rwa [alike.sections])]
        exact .alike { alike with
          tidy := tidy rfl, current := rfl, option := rfl, sections
          apart, overlaid := alike.overlaid.start_known there }
      · have theirs : ¬ q.document.hasSection name = true := by
          simp [alike.overlaid.hasSection, ours, there]
        rw [if_neg theirs, if_neg default]
        exact .alike { alike with
          tidy := tidy rfl, current := rfl, option := rfl, sections
          apart, overlaid := alike.overlaid.start default }

theorem assign (alike : Alike normal d p q) (nameless : ∀ o, normal o = "" ↔ o = "")
    {raw s : String} (current : p.current = some s) (name value : List Char) :
    Meets normal d source (p.assign id source n raw s name value)
      (q.assign normal source n raw s name value) := by
  by_cases known : (s, String.ofList name) ∈ p.options
  · have theirs : (s, normal (String.ofList name)) ∈ q.options := by
      rw [alike.options]
      exact List.mem_map.mpr ⟨_, known, rfl⟩
    rw [assign_known known, assign_known theirs]
    exact .broken
  · have ran : p.assign id source n raw s name value = .ok _ := assign_new known
    have tidy := (alike.tidy.assign current ran).1
    rw [ran]
    by_cases clash : (s, normal (String.ofList name)) ∈ q.options
    · rw [assign_known clash]
      rw [alike.options] at clash
      obtain ⟨⟨s', o⟩, there, same⟩ := List.mem_map.mp clash
      obtain ⟨rfl, normals⟩ := Prod.mk.inj same
      refine .clash tidy (List.mem_cons_of_mem _ there) List.mem_cons_self ?_ normals
      rintro rfl
      exact known there
    · rw [assign_new clash]
      have fresh : ∀ e ∈ p.document.entries s, normal e.1 ≠ normal (String.ofList name) := by
        intro e there same
        have set := (alike.tidy.keys s e.1).mp (List.mem_map.mpr ⟨e, there, rfl⟩)
        refine clash ?_
        rw [alike.options]
        exact List.mem_map.mpr ⟨_, set, by rw [same]⟩
      have begun := alike.tidy.begun s current
      refine .alike { alike with
        tidy, current := alike.current, option := ?_, options := ?_, malformed := ?_
        apart := alike.apart.put fresh _, overlaid := alike.overlaid.put begun fresh _ }
      · simp only [id, nameless]
        split <;> rfl
      · simp [alike.options]
      · simp [alike.malformed]

variable (nameless : ∀ o, normal o = "" ↔ o = "")
include nameless

theorem fresh (alike : Alike normal d p q) (raw : String) (text : List Char) :
    Meets normal d source (p.fresh id source n raw text) (q.fresh normal source n raw text) := by
  unfold Progress.fresh
  rw [alike.current]
  split
  · exact alike.header _
  · split
    · exact .broken
    · next s current =>
      split
      · exact alike.assign nameless current _ _
      · have malformed : q.malformed ++ [(n, raw)] = p.malformed ++ [(n, raw)] := by
          rw [alike.malformed]
        have tidy := alike.tidy
        exact .alike { alike with
          tidy := ⟨tidy.seen, tidy.ordinary, tidy.begun, tidy.keys, tidy.present⟩
          current := rfl
          malformed := malformed }

/-- Each line is read alike, as long as no two names clash. -/
theorem line (alike : Alike normal d p q) (cs : List Char) :
    Meets normal d source (p.line id source n cs) (q.line normal source n cs) := by
  have extends_ : ∀ s o text, p.current = some s → p.option = some o →
      Alike normal d (p.extend s o text) (q.extend s (normal o) text) :=
    fun s o text current option => alike.extend (alike.tidy.present s o current option) text
  have indented : ∀ indent, Alike normal d { p with indent } { q with indent } := fun indent =>
    have tidy := alike.tidy
    { alike with
      tidy := ⟨tidy.seen, tidy.ordinary, tidy.begun, tidy.keys, tidy.present⟩
      indent := rfl }
  have others : ∀ indent text, Meets normal d source
      ({ p with indent }.fresh id source n (String.ofList cs) text)
      ({ q with indent }.fresh normal source n (String.ofList cs) text) :=
    fun indent text => (indented indent).fresh nameless _ text
  -- both know the same section and the same option, so they take the same way
  obtain ⟨document, current, option, indent, sections, options, malformed⟩ := p
  obtain ⟨document', current', option', indent', sections', options', malformed'⟩ := q
  obtain rfl : current' = current := alike.current
  obtain rfl : option' = option.map normal := alike.option
  obtain rfl : indent' = indent := alike.indent
  unfold Progress.line
  split
  · exact .alike alike
  · cases current' with
    | none => exact .alike alike
    | some s =>
      cases option with
      | none => exact .alike alike
      | some o => exact .alike (extends_ s o "" rfl rfl)
  · next deep text kind =>
    cases current' with
    | none => exact others deep text
    | some s =>
      cases option with
      | none => exact others deep text
      | some o =>
        simp only [Option.map_some]
        split
        · exact .alike (extends_ s o _ rfl rfl)
        · exact others deep text

end Alike

/-- A reading that ended, with its fault if there was one. -/
def ending (ended : Progress × Option Fault) : Except Fault Progress :=
  match ended with
  | (p, none) => .ok p
  | (_, some fault) => .error fault

/-- All lines are read alike, as long as no two names clash. -/
theorem Alike.lines {normal : String → String} {d : Document}
    (nameless : ∀ o, normal o = "" ↔ o = "") (alike : Alike normal d p q) (ls : List (List Char)) :
    Meets normal d source (ending (Progress.lines id source p n ls))
      (ending (Progress.lines normal source q n ls)) := by
  induction ls generalizing p q n with
  | nil => exact .alike alike
  | cons cs rest ih =>
    have step : Meets normal d source (p.line id source n cs) (q.line normal source n cs) :=
      alike.line nameless cs
    unfold Progress.lines
    generalize p.line id source n cs = ours at step
    generalize q.line normal source n cs = theirs at step
    cases step with
    | alike next => exact ih next
    | broken => exact .broken
    | clash tidy first second other same =>
      -- the other reading has ended, and what clashed stays set in the plain one
      simp only
      rcases ran : Progress.lines id source _ (n + 1) rest with ⟨last, fault⟩
      cases fault with
      | some fault => exact .broken
      | none =>
        obtain ⟨kept, grows⟩ := tidy.lines ran
        exact .clash kept (grows first) (grows second) other same

end Progress

end DagAccess.Ini
