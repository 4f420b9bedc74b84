import DagAccess.Yaml.Timestamp

/-!
# Tags of YAML nodes

A tag tells the kind of a node. A plain scalar without a tag has the tag of the first form that its
text matches: switch words, real numbers, integers, the merge mark, the null words, timestamps, the
default value mark, and else it is a text.
-/

namespace DagAccess.Yaml

/-- Kinds of nodes. -/
inductive Tag
  | null
  | bool
  | int
  | real
  | text
  | binary
  | timestamp
  | sequence
  | mapping
  | set
  | orderedMap
  | pairs
  | merge
  | default
  /-- A kind that nothing is made of. -/
  | unknown
  deriving DecidableEq, Repr

namespace Tag

/-- What the names of the known tags start with. -/
def leader : String := "tag:yaml.org,2002:"

/-- The names of the known tags behind their common start. -/
def names : List (String × Tag) :=
  [("null", .null), ("bool", .bool), ("int", .int), ("float", .real), ("str", .text),
   ("binary", .binary), ("timestamp", .timestamp), ("seq", .sequence), ("map", .mapping),
   ("set", .set), ("omap", .orderedMap), ("pairs", .pairs), ("merge", .merge), ("value", .default)]

/-- The tag with this full name. -/
def ofName (name : String) : Tag :=
  ((names.find? fun e => leader ++ e.1 = name).map Prod.snd).getD .unknown

/-! ## Forms of plain scalars -/

/-- The words for true and false. -/
def switches : List (List Char) :=
  ["yes", "Yes", "YES", "no", "No", "NO", "true", "True", "TRUE", "false", "False", "FALSE",
   "on", "On", "ON", "off", "Off", "OFF"].map String.toList

/-- A text without its sign. -/
def dropSign : List Char → List Char
  | '+' :: cs => cs
  | '-' :: cs => cs
  | cs => cs

/-- A digit or an underscore. -/
def isDigitOrGap (c : Char) : Bool :=
  c.isDigit || c = '_'

/-- A digit, then digits and underscores. -/
def isDigits : List Char → Bool
  | [] => false
  | c :: cs => c.isDigit && cs.all isDigitOrGap

/-- A number below 60 of one or two digits. -/
def isSixty : List Char → Bool
  | [a] => a.isDigit
  | [a, b] => '0' ≤ a && a ≤ '5' && b.isDigit
  | _ => false

/-- Nothing, or a power of ten with a sign. -/
def isPower : List Char → Bool
  | [] => true
  | e :: sign :: ds =>
    (e = 'e' || e = 'E') && (sign = '+' || sign = '-') && !ds.isEmpty && ds.all Char.isDigit
  | _ => false

/-- The form of a real number. -/
def isReal (cs : List Char) : Bool :=
  let (whole, rest) := (dropSign cs).span (· ≠ '.')
  match rest with
  | [] => false
  | _ :: tail =>
    let powerForm := isPower (tail.dropWhile isDigitOrGap)
    let counted := match Text.pieces ':' whole with
      | [ds] => isDigits ds && powerForm
      | first :: more => isDigits first && more.all isSixty && tail.all isDigitOrGap
      | [] => false
    let pointFirst := cs.head? = some '.' && tail.head?.any Char.isDigit && powerForm
    let infinite := whole.isEmpty && ["inf", "Inf", "INF"].any (·.toList = tail)
    let undefined := cs.head? = some '.' && ["nan", "NaN", "NAN"].any (·.toList = tail)
    counted || pointFirst || infinite || undefined

/-- The form of an integer: in base 2, 8, 10, 16 or 60. -/
def isInteger (cs : List Char) : Bool :=
  match dropSign cs with
  | ['0'] => true
  | '0' :: 'b' :: ds => !ds.isEmpty && ds.all fun c => c = '0' || c = '1' || c = '_'
  | '0' :: 'x' :: ds => !ds.isEmpty && ds.all fun c =>
    isDigitOrGap c || ('a' ≤ c && c ≤ 'f') || ('A' ≤ c && c ≤ 'F')
  | '0' :: ds => ds.all fun c => ('0' ≤ c && c ≤ '7') || c = '_'
  | cs =>
    match Text.pieces ':' cs with
    | first :: more => isDigits first && more.all isSixty
    | [] => false

/-- The tag of a plain scalar. A newline at the end does not matter. -/
def ofPlain (text : String) : Tag :=
  let cs := text.toList
  if cs.isEmpty then .null
  else
    let body := if cs.getLast? = some '\n' then cs.dropLast else cs
    if switches.contains body then .bool
    else if isReal body then .real
    else if isInteger body then .int
    else if body = ['<', '<'] then .merge
    else if ["~", "null", "Null", "NULL"].any (·.toList = body) then .null
    else if (Timestamp.read? body).any (·.isPlain) then .timestamp
    else if body = ['='] then .default
    else .text

end Tag

end DagAccess.Yaml
