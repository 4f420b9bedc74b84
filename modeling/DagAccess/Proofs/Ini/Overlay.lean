import DagAccess.Proofs.Ini.Reading
import DagAccess.Proofs.Text.Case

/-!
# What sources set

What comes of a source is told by plain reading of it onto nothing (`readWith_tells`): its options
replace those of a document, each under its normal name (`read_overlaid`), and reading ends with a
fault for one more reason, two names in one section with one normal form (`readWith_whole_iff`).

So what sources set that are read one onto another can be told from each of them alone: the last one
that sets an option counts (`set?_readAll`).
-/

namespace DagAccess.Ini.Document

variable {normal : String → String} {d : Document} {source : Source}

theorem readWith_isFinished : (d.readWith normal source).2 = none →
    (d.readWith normal source).1.IsFinished := by
  unfold readWith
  rcases Progress.lines normal source.name { document := d } 1 source.lines with ⟨p, fault⟩
  cases fault with
  | some cause => nofun
  | none =>
    simp only
    split
    · nofun
    · split
      · exact fun _ => p.document.finish_isFinished
      · nofun

theorem read_isFinished : (d.read source).2 = none → (d.read source).1.IsFinished :=
  readWith_isFinished

/-- The values are texts, no name stands twice in a section, and the default section is no section
among others. -/
structure IsRegular (d : Document) : Prop where
  finished : d.IsFinished
  distinct : ∀ s, ((d.entries s).map Prod.fst).Nodup
  ordinary : d.hasSection defaultName = false

theorem empty_isRegular : IsRegular {} where
  finished := empty_isFinished
  distinct s := by
    rw [entries_empty]
    exact List.nodup_nil
  ordinary := rfl

/-! ## One source -/

theorem apart_finish {r : Document} : r.finish.Apart normal ↔ r.Apart normal := by
  simp only [Apart, entries_finish, List.map_map, Function.comp_def]

theorem Overlaid.finish {r after : Document} (overlaid : Overlaid normal d r after)
    (finished : d.IsFinished) : Overlaid normal d r.finish after.finish where
  set s key := by
    have renamed : (r.finish.entries s).rename normal =
        ((r.entries s).rename normal).map fun e => (e.1, e.2.finish) := by
      simp only [entries_finish, Entries.rename, List.map_map, Function.comp_def]
    have found := Assoc.lookup_map (fun _ => Value.finish) ((r.entries s).rename normal) key
    rw [set?_finish, overlaid.set, Option.map_or, finished.set?_finish, renamed, found]
  hasSection s := by rw [hasSection_finish, hasSection_finish, overlaid.hasSection]
  distinct s := by
    rw [entries_finish, List.map_map]
    exact overlaid.distinct s
  ordinary := (hasSection_finish _ _).trans overlaid.ordinary

theorem overlaid_start (regular : d.IsRegular) : Overlaid normal d {} d where
  set s key := by
    rw [entries_empty]
    rfl
  hasSection _ := rfl
  distinct := regular.distinct
  ordinary := regular.ordinary

/-- What comes of a source, by what plain reading of it onto nothing comes to. -/
inductive Tells (normal : String → String) (d : Document) (name : String) :
    Document × Option Fault → Document × Option Fault → Prop
  | whole {r after : Document} (apart : r.Apart normal) (overlaid : Overlaid normal d r after) :
      Tells normal d name (r, none) (after, none)
  | broken {r after : Document} {e f : Fault} : Tells normal d name (r, some e) (after, some f)
  | clash {r after : Document} {n : Nat} {s o : String} (clash : ¬ r.Apart normal) :
      Tells normal d name (r, none) (after, some (.duplicateOption name n s o))

/-- What is done when the lines of a source were read. -/
def close (source : Source) (ended : Progress × Option Fault) : Document × Option Fault :=
  match ended with
  | (p, some fault) => (p.document, some fault)
  | (p, none) =>
    if source.damaged then (p.document, some .undecodable)
    else if p.malformed.isEmpty then (p.document.finish, none)
    else (p.document.finish, some (.malformed source.name p.malformed))

theorem readWith_eq (normal : String → String) (d : Document) (source : Source) :
    d.readWith normal source =
    close source (Progress.lines normal source.name { document := d } 1 source.lines) := rfl

theorem close_clean {p : Progress} (clean : source.damaged = false ∧ p.malformed = []) :
    close source (p, none) = (p.document.finish, none) := by
  simp [close, clean]

theorem close_unclean {p : Progress} (unclean : ¬ (source.damaged = false ∧ p.malformed = [])) :
    ∃ after fault, close source (p, none) = (after, some fault) := by
  unfold close
  by_cases damaged : source.damaged = true
  · exact ⟨_, _, if_pos damaged⟩
  · have lines : p.malformed ≠ [] := fun none => unclean ⟨Bool.not_eq_true _ ▸ damaged, none⟩
    simp [damaged, lines]

/-- Options that were set twice under one normal name are not apart. -/
theorem not_apart {p : Progress} (tidy : p.Tidy) {s a b : String} (first : (s, a) ∈ p.options)
    (second : (s, b) ∈ p.options) (other : a ≠ b) (same : normal a = normal b) :
    ¬ p.document.Apart normal := by
  intro apart
  obtain ⟨e, here, rfl⟩ := List.mem_map.mp ((tidy.keys s a).mpr first)
  obtain ⟨e', there, rfl⟩ := List.mem_map.mp ((tidy.keys s b).mpr second)
  exact other (congrArg Prod.fst (List.inj_on_of_nodup_map (apart s) here there same))

/-- What is wrong with the end of a source, or with a line that is passed over, is wrong in both
readings. -/
theorem tells_close (finished : d.IsFinished) {ours theirs : Progress × Option Fault}
    (meets : Progress.Meets normal d source.name (Progress.ending ours) (Progress.ending theirs)) :
    Tells normal d source.name (close source ours) (close source theirs) := by
  obtain ⟨p, fault⟩ := ours
  obtain ⟨q, fault'⟩ := theirs
  cases fault with
  | some e =>
    cases fault' with
    | some f => exact .broken
    | none =>
      have never : Progress.Meets normal d source.name (.error e) (.ok q) := meets
      cases never
  | none =>
    by_cases clean : source.damaged = false ∧ p.malformed = []
    · rw [close_clean clean]
      cases fault' with
      | some f =>
        have clash : Progress.Meets normal d source.name (.ok p) (.error f) := meets
        cases clash with
        | clash tidy first second other same =>
          exact .clash (mt apart_finish.mp (not_apart tidy first second other same))
      | none =>
        have alike : Progress.Meets normal d source.name (.ok p) (.ok q) := meets
        cases alike with
        | alike alike =>
          rw [close_clean ⟨clean.1, alike.malformed.trans clean.2⟩]
          exact .whole (apart_finish.mpr alike.apart) (alike.overlaid.finish finished)
    · obtain ⟨r, e, ours⟩ := close_unclean clean
      rw [ours]
      cases fault' with
      | some f => exact .broken
      | none =>
        have alike : Progress.Meets normal d source.name (.ok p) (.ok q) := meets
        cases alike with
        | alike alike =>
          obtain ⟨after, f, theirs⟩ := close_unclean (by rwa [← alike.malformed] at clean)
          rw [theirs]
          exact .broken

/-- What plain reading onto nothing comes to tells what comes of a source. -/
theorem readWith_tells (regular : d.IsRegular) (nameless : ∀ o, normal o = "" ↔ o = "") :
    Tells normal d source.name (({} : Document).readWith id source) (d.readWith normal source) := by
  have start : Progress.Alike normal d { document := {} } { document := d } :=
    { tidy := Progress.tidy_start, current := rfl, option := rfl, indent := rfl, sections := rfl
      options := rfl, malformed := rfl
      apart := fun s => by rw [entries_empty]; exact List.nodup_nil
      overlaid := overlaid_start regular }
  rw [readWith_eq, readWith_eq]
  exact tells_close regular.finished (start.lines nameless source.lines)

/-- A source is read unless plain reading ends with a fault or two names clash. -/
theorem readWith_whole_iff (regular : d.IsRegular) (nameless : ∀ o, normal o = "" ↔ o = "") :
    (d.readWith normal source).2 = none ↔
      (({} : Document).readWith id source).2 = none ∧
      (({} : Document).readWith id source).1.Apart normal := by
  have tells :
      Tells normal d source.name (({} : Document).readWith id source) (d.readWith normal source) :=
    readWith_tells regular nameless
  generalize ({} : Document).readWith id source = plain at tells ⊢
  generalize d.readWith normal source = result at tells ⊢
  cases tells with
  | whole apart overlaid => exact iff_of_true rfl ⟨rfl, apart⟩
  | broken => exact iff_of_false nofun fun whole => nomatch whole.1
  | clash clash => exact iff_of_false nofun fun whole => clash whole.2

/-- What a source sets is put over a document, in small letters. -/
theorem read_overlaid (regular : d.IsRegular) (whole : (d.read source).2 = none) :
    Overlaid Text.lower d (({} : Document).readWith id source).1 (d.read source).1 := by
  have tells :
      Tells Text.lower d source.name (({} : Document).readWith id source) (d.read source) :=
    readWith_tells regular fun _ => Text.lower_eq_empty_iff
  generalize ({} : Document).readWith id source = plain at tells ⊢
  generalize d.read source = result at tells whole ⊢
  cases tells with
  | whole apart overlaid => exact overlaid
  | broken => cases whole
  | clash clash => cases whole

section

variable {r : Document} (plain : ({} : Document).readWith id source = (r, none))
include plain

/-- A source that plain reading comes through is read if its names do not clash in small letters. -/
theorem read_whole_iff : (({} : Document).read source).2 = none ↔ r.Apart Text.lower := by
  rw [read, readWith_whole_iff empty_isRegular fun _ => Text.lower_eq_empty_iff, plain]
  exact and_iff_right rfl

/-- A clash of names is an option that is set twice. -/
theorem read_clash (clash : ¬ r.Apart Text.lower) :
    ∃ n s o, (({} : Document).read source).2 = some (.duplicateOption source.name n s o) := by
  have tells : Tells Text.lower {} source.name (r, none) (({} : Document).read source) :=
    plain ▸ readWith_tells empty_isRegular fun _ => Text.lower_eq_empty_iff
  generalize ({} : Document).read source = result at tells ⊢
  cases tells with
  | whole apart _ => exact absurd apart clash
  | clash _ => exact ⟨_, _, _, rfl⟩

end

/-! ## Sources over each other -/

/-- A source that can be read onto nothing can be read onto any document, and what it sets is put
over it. -/
theorem read_over (regular : d.IsRegular) (whole : (({} : Document).read source).2 = none) :
    (d.read source).2 = none ∧ (d.read source).1.IsRegular ∧
      (∀ s key, (d.read source).1.set? s key =
        ((({} : Document).read source).1.set? s key).or (d.set? s key)) ∧
      ∀ s, (d.read source).1.hasSection s =
        ((({} : Document).read source).1.hasSection s || d.hasSection s) := by
  have goes : (d.read source).2 = none := by
    rw [read, readWith_whole_iff regular fun _ => Text.lower_eq_empty_iff,
      ← readWith_whole_iff empty_isRegular fun _ => Text.lower_eq_empty_iff]
    exact whole
  have alone := read_overlaid empty_isRegular whole
  have onto := read_overlaid regular goes
  refine ⟨goes, ⟨read_isFinished goes, onto.distinct, onto.ordinary⟩, fun s key => ?_, fun s => ?_⟩
  · have unset : ({} : Document).set? s key = none := by
      rw [set?, entries_empty]
      rfl
    rw [onto.set, alone.set, unset, Option.or_none]
  · rw [onto.hasSection, alone.hasSection]
    exact congrArg (· || d.hasSection s) (Bool.or_false _).symm

/-- Sources are read one onto another. -/
def readAll (d : Document) (sources : List Source) : Document :=
  sources.foldl (fun d source => (d.read source).1) d

theorem readAll_append (d : Document) (sources more : List Source) :
    d.readAll (sources ++ more) = (d.readAll sources).readAll more :=
  List.foldl_append

variable {sources : List Source}

theorem readAll_isRegular (regular : d.IsRegular)
    (whole : ∀ s ∈ sources, (({} : Document).read s).2 = none) : (d.readAll sources).IsRegular := by
  induction sources generalizing d with
  | nil => exact regular
  | cons source rest ih =>
    obtain ⟨first, later⟩ := List.forall_mem_cons.mp whole
    exact ih (read_over regular first).2.1 later

/-- The last source that sets an option counts. -/
theorem set?_readAll (regular : d.IsRegular)
    (whole : ∀ s ∈ sources, (({} : Document).read s).2 = none) (name option : String) :
    (d.readAll sources).set? name option =
      (sources.reverse.findSome? fun s => (({} : Document).read s).1.set? name option).or
        (d.set? name option) := by
  induction sources generalizing d with
  | nil => rfl
  | cons source rest ih =>
    obtain ⟨first, later⟩ := List.forall_mem_cons.mp whole
    obtain ⟨-, still, set, -⟩ := read_over regular first
    have step : d.readAll (source :: rest) = (d.read source).1.readAll rest := rfl
    rw [step, ih still later, set, List.reverse_cons, List.findSome?_append, Option.or_assoc,
      List.findSome?_singleton]

theorem hasSection_readAll (regular : d.IsRegular)
    (whole : ∀ s ∈ sources, (({} : Document).read s).2 = none) (name : String) :
    (d.readAll sources).hasSection name =
      (sources.any (fun s => (({} : Document).read s).1.hasSection name) || d.hasSection name) := by
  induction sources generalizing d with
  | nil => rfl
  | cons source rest ih =>
    obtain ⟨first, later⟩ := List.forall_mem_cons.mp whole
    obtain ⟨-, still, -, there⟩ := read_over regular first
    have step : d.readAll (source :: rest) = (d.read source).1.readAll rest := rfl
    rw [step, ih still later, there, List.any_cons, ← Bool.or_assoc, Bool.or_comm (List.any _ _)]

end DagAccess.Ini.Document
