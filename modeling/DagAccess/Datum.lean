import DagAccess.Assoc
import DagAccess.Calendar
import DagAccess.Number.Real
import DagAccess.Text.Quoted

/-!
# Data values

The values that options are given in structured documents, and their texts. A value has two texts:
as an item of a collection it is shown with its quotes and field names, on its own a text stands for
itself and a date is plain. An option takes switches in small letters and lists as items between
commas.
-/

namespace DagAccess

/-- Kinds of collections. -/
inductive Shape
  | list
  | pair
  | map
  | set
  deriving DecidableEq, Repr

/-- A data value. -/
inductive Datum
  | null
  | bool (b : Bool)
  | int (n : Int)
  | real (x : Float)
  | text (s : String)
  | bytes (bs : List UInt8)
  | date (d : Calendar.Date)
  | moment (m : Calendar.Moment)
  | list (items : List Datum)
  | pair (first second : Datum)
  | map (entries : List (Datum × Datum))
  | set (items : List Datum)
  /-- A collection that contains the place where it is shown. -/
  | loop (shape : Shape)

instance : Inhabited Datum := ⟨.null⟩

namespace Datum

/-- The words for a switch between other values. -/
def boolWord (b : Bool) : String :=
  if b then "True" else "False"

/-- A collection inside itself. -/
def loopText : Shape → String
  | .list => "[...]"
  | .pair => "(...)"
  | .map => "\x7b...\x7d"
  | .set => "set(...)"

mutual

/-- The text of an item of a collection; nothing if it holds an integer that is too long. -/
def show? : Datum → Option String
  | .null => some "None"
  | .bool b => some (boolWord b)
  | .int n => Number.writeInt n
  | .real x => some (Number.layout.text x)
  | .text s => some (Text.quoted s)
  | .bytes bs => some (Text.quotedBytes bs)
  | .date d => some d.fieldText
  | .moment m => some m.fieldText
  | .list items => (showItems? items).map fun ts => "[" ++ ", ".intercalate ts ++ "]"
  | .pair a b => do
    let first ← a.show?
    let second ← b.show?
    return "(" ++ first ++ ", " ++ second ++ ")"
  | .map entries => (showEntries? entries).map fun ts => "\x7b" ++ ", ".intercalate ts ++ "\x7d"
  | .set [] => some "set()"
  | .set (i :: items) =>
    (showItems? (i :: items)).map fun ts => "\x7b" ++ ", ".intercalate ts ++ "\x7d"
  | .loop shape => some (loopText shape)

/-- The texts of items. -/
def showItems? : List Datum → Option (List String)
  | [] => some []
  | i :: items => do
    let t ← i.show?
    let ts ← showItems? items
    return t :: ts

/-- The texts of entries. -/
def showEntries? : List (Datum × Datum) → Option (List String)
  | [] => some []
  | (k, v) :: entries => do
    let key ← k.show?
    let value ← v.show?
    let ts ← showEntries? entries
    return (key ++ ": " ++ value) :: ts

end

/-- The text of a value on its own. -/
def plain? : Datum → Option String
  | .text s => some s
  | .date d => some d.text
  | .moment m => some m.text
  | d => d.show?

/-- The text of a value as an option. -/
def option? : Datum → Option String
  | .bool b => some (if b then "true" else "false")
  | .list items => (items.mapM plain?).map (",".intercalate ·)
  | .pair a b => ([a, b].mapM plain?).map (",".intercalate ·)
  | d => d.plain?

/-- Two values are the same key: numbers and switches by their amount, moments by their instant. -/
def sameKey : Datum → Datum → Bool
  | .null, .null => true
  | .text s, .text t => s = t
  | .bytes s, .bytes t => s = t
  | .date d, .date e => d = e
  | .moment m, .moment n => m.same n
  | .real x, .real y => x == y
  | .real x, d => (amount? d).any (Number.equalsInt x)
  | d, .real x => (amount? d).any (Number.equalsInt x)
  | d, e =>
    match amount? d, amount? e with
    | some m, some n => m = n
    | _, _ => false
where
  /-- The amount of an integer or a switch. -/
  amount? : Datum → Option Int
    | .int n => some n
    | .bool b => some (if b then 1 else 0)
    | _ => none

/-- Assigns a value to a key; the key that is there stays as it was written first. -/
def putEntry {α : Type} (key : Datum) (value : α) (entries : List (Datum × α)) : List (Datum × α) :=
  Assoc.putBy (·.sameKey key) key value entries

end Datum

end DagAccess
