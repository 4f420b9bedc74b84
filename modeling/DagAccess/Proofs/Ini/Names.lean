import DagAccess.Ini.Reader
import DagAccess.Proofs.Ini.Document
import Mathlib.Data.List.Nodup

/-!
# Options under normal names

Entries can be renamed without a loss if their normal names are apart (`Document.Apart`): each is
found under its normal name. What one document sets can so be put over another one
(`Document.Overlaid`), and it stays put over it while both change alike: an option is set
(`Overlaid.put`), a value goes on (`Overlaid.extend`), a section is started (`Overlaid.start`,
`Overlaid.start_known`).
-/

namespace DagAccess.Ini

/-- The entries under other names. -/
def Entries.rename (normal : String → String) (es : Entries) : Entries :=
  es.map fun e => (normal e.1, e.2)

/-- A value with one more line, if it is not finished. -/
def Value.extend (line : String) : Value → Value
  | .text s => .text s
  | .lines ls => .lines (ls ++ [line])

namespace Entries

variable {normal : String → String} {es : Entries} {option : String}

theorem normals_eq (normal : String → String) (es : Entries) :
    (es.map fun e => normal e.1) = (es.map Prod.fst).map normal :=
  List.map_map.symm

theorem rename_put {v : Value} (own : ∀ e ∈ es, normal e.1 = normal option → e.1 = option) :
    (es.put option v).rename normal = (es.rename normal).put (normal option) v := by
  induction es with
  | nil => rfl
  | cons e rest ih =>
    obtain ⟨first, later⟩ := List.forall_mem_cons.mp own
    simp only [put, Assoc.put, rename] at ih
    simp only [put, Assoc.put, Assoc.putBy, rename, List.map_cons, beq_iff_eq]
    by_cases same : e.1 = option
    · simp [same]
    · rw [if_neg same, if_neg (mt first same), List.map_cons, ih later]

/-- Where normal names are apart, every entry is found under its normal name. -/
theorem lookup_rename_of_mem (apart : (es.map fun e => normal e.1).Nodup) {e : String × Value}
    (there : e ∈ es) : (es.rename normal).lookup (normal e.1) = some e.2 := by
  induction es with
  | nil => cases there
  | cons first rest ih =>
    obtain ⟨fresh, apart⟩ := List.nodup_cons.mp apart
    simp only [rename, List.map_cons, List.lookup_cons] at ih ⊢
    rcases List.mem_cons.mp there with rfl | later
    · simp
    · have other : normal e.1 ≠ normal first.1 :=
        fun same => fresh (List.mem_map.mpr ⟨e, later, same⟩)
      rw [beq_false_of_ne other]
      exact ih apart later

theorem lookup_rename (apart : (es.map fun e => normal e.1).Nodup)
    (there : option ∈ es.map Prod.fst) :
    (es.rename normal).lookup (normal option) = es.lookup option := by
  obtain ⟨v, found⟩ := Assoc.mem_keys_iff.mp there
  rw [found]
  exact lookup_rename_of_mem apart (Assoc.mem_of_lookup found)

theorem lookup_rename_eq_none {key : String} (absent : ∀ e ∈ es, normal e.1 ≠ key) :
    (es.rename normal).lookup key = none := by
  rw [List.lookup_eq_none_iff]
  intro e there
  obtain ⟨e', here, rfl⟩ := List.mem_map.mp there
  exact bne_iff_ne.mpr (absent e' here).symm

/-! ### Further lines -/

theorem keys_extend (es : Entries) (option line : String) :
    (es.extend option line).map Prod.fst = es.map Prod.fst := by
  unfold extend
  split
  · next ls found =>
    have there : option ∈ es.map Prod.fst := Assoc.mem_keys_iff.mpr ⟨_, found⟩
    rw [put, Assoc.keys_put, if_pos there]
  · rfl

theorem lookup_extend (es : Entries) (option line key : String) :
    (es.extend option line).lookup key =
    if key = option then (es.lookup option).map (Value.extend line) else es.lookup key := by
  unfold extend
  by_cases same : key = option
  · subst same
    cases found : es.lookup key with
    | none => simp [found]
    | some v => cases v <;> simp [found, put, Assoc.lookup_put, Value.extend]
  · split
    · simp [put, Assoc.lookup_put, same]
    · rw [if_neg same]

theorem rename_extend {line : String} (apart : (es.map fun e => normal e.1).Nodup)
    (there : option ∈ es.map Prod.fst) :
    (es.extend option line).rename normal = (es.rename normal).extend (normal option) line := by
  have own : ∀ e ∈ es, normal e.1 = normal option → e.1 = option := by
    intro e here same
    obtain ⟨e', here', rfl⟩ := List.mem_map.mp there
    rw [List.inj_on_of_nodup_map apart here here' same]
  unfold extend
  rw [lookup_rename apart there]
  split
  · exact rename_put own
  · rfl

end Entries

namespace Document

/-- The names of each section are apart in their normal form. -/
def Apart (normal : String → String) (r : Document) : Prop :=
  ∀ s, ((r.entries s).map fun e => normal e.1).Nodup

/-- What a document sets is put over another one, under normal names. -/
structure Overlaid (normal : String → String) (d r after : Document) : Prop where
  set : ∀ s key, after.set? s key = (((r.entries s).rename normal).lookup key).or (d.set? s key)
  hasSection : ∀ s, after.hasSection s = (r.hasSection s || d.hasSection s)
  distinct : ∀ s, ((after.entries s).map Prod.fst).Nodup
  ordinary : after.hasSection defaultName = false

/-- A section that options can be set in. -/
def Begun (d : Document) (s : String) : Prop := d.hasSection s = true ∨ s = defaultName

variable {normal : String → String} {d r after : Document} {s o : String}

/-- Setting options in a section that was begun starts no section. -/
theorem Begun.hasSection_update (begun : r.Begun s) (f : Entries → Entries) (other : String) :
    (r.update s f).hasSection other = r.hasSection other := by
  rw [Document.hasSection_update]
  by_cases same : other = s
  · rcases begun with there | default
    · rw [same, there, Bool.true_or]
    · simp [default]
  · simp [same]

/-- Whoever has an option has its section. -/
theorem begun_of_mem {option : String} (set : option ∈ (r.entries s).map Prod.fst) : r.Begun s := by
  unfold entries own? at set
  rw [Begun, hasSection_eq]
  cases found : r.sections.lookup s with
  | some es => exact .inl rfl
  | none =>
    rw [found] at set
    simp only at set
    split at set
    · next default => exact .inr default
    · cases set

theorem keys_update_extend (r : Document) (s o line other : String) :
    ((r.update s (·.extend o line)).entries other).map Prod.fst =
      (r.entries other).map Prod.fst := by
  rw [entries_update]
  split
  · next same => rw [Entries.keys_extend, same]
  · rfl

theorem entries_start (r : Document) (s other : String) :
    (r.update s id).entries other = r.entries other := by
  rw [entries_update]
  split
  · next same => rw [id, same]
  · rfl

namespace Apart

theorem extend (apart : r.Apart normal) (s o line : String) :
    (r.update s (·.extend o line)).Apart normal := by
  intro other
  rw [Entries.normals_eq, keys_update_extend, ← Entries.normals_eq]
  exact apart other

theorem put (apart : r.Apart normal) (fresh : ∀ e ∈ r.entries s, normal e.1 ≠ normal o)
    (v : Value) : (r.update s (·.put o v)).Apart normal := by
  have new : o ∉ (r.entries s).map Prod.fst := fun there => by
    obtain ⟨e, given, rfl⟩ := List.mem_map.mp there
    exact fresh e given rfl
  intro other
  rw [entries_update]
  split
  · rw [Entries.normals_eq, Entries.put, Assoc.keys_put, if_neg new, List.map_append,
      ← Entries.normals_eq]
    refine (apart s).append (List.nodup_singleton _) fun key there here => ?_
    obtain ⟨e, given, rfl⟩ := List.mem_map.mp there
    exact fresh e given (List.mem_singleton.mp here)
  · exact apart other

theorem start (apart : r.Apart normal) (s : String) :
    (r.update s id).Apart normal := fun other => by
  rw [entries_start]
  exact apart other

end Apart

namespace Overlaid

variable (overlaid : Overlaid normal d r after)
include overlaid

theorem begun (begun : r.Begun s) : after.Begun s :=
  begun.imp_left fun there => by rw [overlaid.hasSection, there, Bool.true_or]

/-- Changes in a section that was begun start no section. -/
theorem hasSection_update (begun : r.Begun s) (f g : Entries → Entries) (other : String) :
    (after.update s g).hasSection other =
      ((r.update s f).hasSection other || d.hasSection other) := by
  rw [begun.hasSection_update, (overlaid.begun begun).hasSection_update, overlaid.hasSection]

theorem extend (apart : r.Apart normal) (known : o ∈ (r.entries s).map Prod.fst) (line : String) :
    Overlaid normal d (r.update s (·.extend o line))
      (after.update s (·.extend (normal o) line)) where
  set other key := by
    simp only [set?, entries_update]
    by_cases same : other = s
    · subst same
      have set := overlaid.set other
      simp only [set?] at set
      obtain ⟨v, found⟩ := Assoc.mem_keys_iff.mp known
      rw [if_pos rfl, if_pos rfl, Entries.rename_extend (apart other) known, Entries.lookup_extend,
        Entries.lookup_extend, set, set, Entries.lookup_rename (apart other) known, found]
      split <;> rfl
    · rw [if_neg same, if_neg same]
      exact overlaid.set other key
  hasSection := overlaid.hasSection_update (begun_of_mem known) _ _
  distinct other := by
    rw [keys_update_extend]
    exact overlaid.distinct other
  ordinary := ((overlaid.begun (begun_of_mem known)).hasSection_update _ _).trans overlaid.ordinary

theorem put (begun : r.Begun s) (fresh : ∀ e ∈ r.entries s, normal e.1 ≠ normal o) (v : Value) :
    Overlaid normal d (r.update s (·.put o v)) (after.update s (·.put (normal o) v)) where
  set other key := by
    simp only [set?, entries_update]
    by_cases same : other = s
    · subst same
      have set := overlaid.set other
      simp only [set?] at set
      rw [if_pos rfl, if_pos rfl,
        Entries.rename_put fun e there same => absurd same (fresh e there),
        Entries.put, Entries.put, Assoc.lookup_put, Assoc.lookup_put, set]
      split <;> rfl
    · rw [if_neg same, if_neg same]
      exact overlaid.set other key
  hasSection := overlaid.hasSection_update begun _ _
  distinct other := by
    rw [entries_update]
    split
    · exact Entries.nodup_put (overlaid.distinct s) _ _
    · exact overlaid.distinct other
  ordinary := ((overlaid.begun begun).hasSection_update _ _).trans overlaid.ordinary

/-- A section is started in both documents. -/
theorem start (other : s ≠ defaultName) :
    Overlaid normal d (r.update s id) (after.update s id) where
  set s' key := by
    rw [set?, entries_start, entries_start]
    exact overlaid.set s' key
  hasSection s' := by
    rw [Document.hasSection_update, Document.hasSection_update, overlaid.hasSection]
    by_cases here : s' = s
    · simp [here, other]
    · simp [here]
  distinct s' := by
    rw [entries_start]
    exact overlaid.distinct s'
  ordinary := by
    rw [Document.hasSection_update, overlaid.ordinary]
    simp [Ne.symm other]

/-- A section is started that the document below has already. -/
theorem start_known (there : d.hasSection s = true) : Overlaid normal d (r.update s id) after where
  set s' key := by
    rw [entries_start]
    exact overlaid.set s' key
  hasSection s' := by
    rw [Document.hasSection_update, overlaid.hasSection]
    by_cases here : s' = s
    · simp [here, there]
    · simp [here]
  distinct := overlaid.distinct
  ordinary := overlaid.ordinary

end Overlaid

end Document

end DagAccess.Ini
