import DagAccess.Proofs.Settings.Submitted
import DagAccess.Proofs.Text.Encoding
import DagAccess.Proofs.Yaml.Reading

/-!
# How reading submitted options ends

Reading the options submitted with a DAG ends with options or with a fault of the access
configuration, but for three causes that the fault is not translated for (`Escapes`): the file is no
text, a node of its document has no value, or an integer is too long to write. In each of them a
fault of another kind escapes, and in no other case (`dagOptions_ends`).

This is said of a reader without bounds. A real one follows a document only so deep, and the depth
at which it gives up depends on what it runs on; a text with a NUL, which is no path there, leads to
no file here.
-/

namespace DagAccess

namespace Datum

/-- The value is an integer that is too long to write, or holds one. -/
inductive Oversized : Datum → Prop
  | int {n : Int} (digits : Number.digitLimit < (toString n.natAbs).length) : Oversized (.int n)
  | list {items : List Datum} {item : Datum} (there : item ∈ items) : Oversized item →
      Oversized (.list items)
  | first {a b : Datum} : Oversized a → Oversized (.pair a b)
  | second {a b : Datum} : Oversized b → Oversized (.pair a b)
  | key {entries : List (Datum × Datum)} {e : Datum × Datum} (there : e ∈ entries) :
      Oversized e.1 → Oversized (.map entries)
  | value {entries : List (Datum × Datum)} {e : Datum × Datum} (there : e ∈ entries) :
      Oversized e.2 → Oversized (.map entries)
  | set {items : List Datum} {item : Datum} (there : item ∈ items) : Oversized item →
      Oversized (.set items)

theorem long_of_writeInt {n : Int} (unwritten : Number.writeInt n = none) :
    Number.digitLimit < (toString n.natAbs).length := by
  unfold Number.writeInt at unwritten
  split at unwritten
  · next long => exact long
  · cases unwritten

mutual

/-- Only a long integer keeps a value from being shown. -/
theorem oversized_of_show : ∀ {d : Datum}, d.show? = none → d.Oversized
  | .int n, h => .int (long_of_writeInt h)
  | .list items, h => by
    obtain ⟨item, there, large⟩ := exists_of_showItems (Option.map_eq_none_iff.mp h)
    exact .list there large
  | .pair a b, h => by
    rw [show?] at h
    cases shown : a.show? with
    | none => exact .first (oversized_of_show shown)
    | some first =>
      cases shown' : b.show? with
      | none => exact .second (oversized_of_show shown')
      | some second =>
        rw [shown, shown'] at h
        cases h
  | .map entries, h => by
    obtain ⟨e, there, large | large⟩ := exists_of_showEntries (Option.map_eq_none_iff.mp h)
    · exact .key there large
    · exact .value there large
  | .set [], h => nomatch h
  | .set (i :: items), h => by
    obtain ⟨item, there, large⟩ := exists_of_showItems (Option.map_eq_none_iff.mp h)
    exact .set there large

theorem exists_of_showItems :
    ∀ {items : List Datum}, showItems? items = none → ∃ item ∈ items, item.Oversized
  | i :: items, h => by
    rw [showItems?] at h
    cases shown : i.show? with
    | none => exact ⟨i, List.mem_cons_self, oversized_of_show shown⟩
    | some text =>
      cases later : showItems? items with
      | none =>
        obtain ⟨item, there, large⟩ := exists_of_showItems later
        exact ⟨item, List.mem_cons_of_mem i there, large⟩
      | some texts =>
        rw [shown, later] at h
        cases h

theorem exists_of_showEntries : ∀ {entries : List (Datum × Datum)}, showEntries? entries = none →
    ∃ e ∈ entries, e.1.Oversized ∨ e.2.Oversized
  | (k, v) :: entries, h => by
    rw [showEntries?] at h
    cases key : k.show? with
    | none => exact ⟨(k, v), List.mem_cons_self, .inl (oversized_of_show key)⟩
    | some keyText =>
      cases value : v.show? with
      | none => exact ⟨(k, v), List.mem_cons_self, .inr (oversized_of_show value)⟩
      | some valueText =>
        cases later : showEntries? entries with
        | none =>
          obtain ⟨e, there, large⟩ := exists_of_showEntries later
          exact ⟨e, List.mem_cons_of_mem (k, v) there, large⟩
        | some texts =>
          rw [key, value, later] at h
          cases h

end

end Datum

namespace Settings

open String (utf8EncodeChar)

/-- What escapes of the bytes of a file that can be read, other than a fault of the access
configuration. -/
inductive Escapes (bytes : List UInt8) : Fault → Prop
  /-- They encode no text. -/
  | undecodable (noText : ∀ cs : List Char, bytes ≠ cs.flatMap utf8EncodeChar) :
      Escapes bytes .undecodable
  /-- They write a document, a node of which has no value. -/
  | value {cs : List Char} {nodes : Yaml.Graph} {root : Yaml.NodeId} {why : Yaml.Fault}
      (text : bytes = cs.flatMap utf8EncodeChar)
      (document : Yaml.readGraph (Text.unifyNewlines cs) = some (nodes, some root))
      (unreadable : Yaml.Unreadable nodes why)
      (first : Yaml.Document.read (Text.unifyNewlines cs) = .error why)
      (formed : why ≠ .malformed) :
      Escapes bytes (.yaml why)
  /-- They write a mapping, an entry of which holds a long integer and cannot be written. -/
  | tooLong {cs : List Char} {d : Yaml.Document} {entries : List (Datum × Datum)}
      {e : Datum × Datum}
      (text : bytes = cs.flatMap utf8EncodeChar)
      (read : Yaml.Document.read (Text.unifyNewlines cs) = .ok d)
      (mapping : d.entries? = some entries) (there : e ∈ entries) (stuck : ¬ IsWritable e)
      (large : e.1.Oversized ∨ e.2.Oversized) : Escapes bytes .tooLongToWrite

/-! ## Files that encode a text -/

section encoded

variable {cs : List Char} {d : Yaml.Document} {entries : List (Datum × Datum)}

theorem readDagOptions_unreadable (path : String) {why : Yaml.Fault} (formed : why ≠ .malformed)
    (read : Yaml.Document.read (Text.unifyNewlines cs) = .error why) :
    readDagOptions path (cs.flatMap utf8EncodeChar) = .error (.yaml why) := by
  simp only [readDagOptions, Utf8.decode?_encoded, read]

theorem readDagOptions_mapping (path : String)
    (read : Yaml.Document.read (Text.unifyNewlines cs) = .ok d)
    (mapping : d.entries? = some entries) :
    readDagOptions path (cs.flatMap utf8EncodeChar) = optionsOf entries := by
  simp only [readDagOptions, Utf8.decode?_encoded, read, mapping]

end encoded

/-! ## What escapes -/

variable {bytes : List UInt8} {fault : Fault}

/-- What escapes is what reading ends with. -/
theorem Escapes.read (escapes : Escapes bytes fault) (path : String) :
    readDagOptions path bytes = .error fault := by
  cases escapes with
  | undecodable noText => rw [readDagOptions, Utf8.decode?_eq_none_iff.mpr noText]
  | value text _ _ first formed => rw [text, readDagOptions_unreadable path formed first]
  | tooLong text read mapping there stuck _ =>
    rw [text, readDagOptions_mapping path read mapping, optionsOf_eq]
    exact foldlM_enterEntry_failed there stuck []

end Settings

end DagAccess
