import DagAccess.Text.CaseMap

/-!
# Small letters and capitals

Texts are mapped by the full Unicode mappings, which may change the number of characters: `ß`
becomes `SS`, `İ` becomes two characters, and a capital sigma at the end of a word becomes the final
sigma.
-/

namespace DagAccess.Text

/-- The nearest character that is not skipped has case. -/
def meetsCased (cs : List Char) : Bool :=
  match cs.dropWhile fun c => caseIgnorableRanges.covers c.toNat with
  | [] => false
  | c :: _ => casedRanges.covers c.toNat

/-- The small form of one character between what stands before it (nearest first) and after it. -/
def lowerChar (before : List Char) (c : Char) (after : List Char) : List Char :=
  if c.toNat < 0x80 then [c.toLower]
  else if c.toNat = 0x130 then ['i', '\u0307']
  else if c.toNat = 0x3A3 then
    [if meetsCased before && !meetsCased after then '\u03c2' else '\u03c3']
  else [CaseRun.image lowerRuns c]

/-- Small letters for the rest of a text; `before` is what was read, nearest first. -/
def lowerFrom (before : List Char) : List Char → List Char
  | [] => []
  | c :: after => lowerChar before c after ++ lowerFrom (c :: before) after

/-- A text in small letters. -/
def lower (s : String) : String :=
  String.ofList (lowerFrom [] s.toList)

/-- The capital form of one character. -/
def upperChar (c : Char) : List Char :=
  if c.toNat < 0x80 then [c.toUpper]
  else match upperExpansions.lookup c.toNat with
    | some cs => cs.map Char.ofNat
    | none => [CaseRun.image upperRuns c]

/-- A text in capitals. -/
def upper (s : String) : String :=
  String.ofList (s.toList.flatMap upperChar)

end DagAccess.Text
