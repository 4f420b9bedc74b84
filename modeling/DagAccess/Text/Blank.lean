/-!
# Blanks, trimming and cutting

The blanks are the 29 characters that separate words: the Unicode white space characters together
with the four information separators U+001C to U+001F. Cutting works on lists of characters, and
most operations have a twin on `String`. Texts and byte strings are also cut into lines.
-/

namespace DagAccess.Text

/-- White space, and the information separators. -/
def isBlank (c : Char) : Bool :=
  let n := c.toNat
  (0x9 ≤ n && n ≤ 0xD) || (0x1C ≤ n && n ≤ 0x20) || n == 0x85 || n == 0xA0 || n == 0x1680
    || (0x2000 ≤ n && n ≤ 0x200A) || n == 0x2028 || n == 0x2029 || n == 0x202F || n == 0x205F
    || n == 0x3000

/-- Drops the characters of the class from the end. -/
def trimRight (p : Char → Bool) (cs : List Char) : List Char :=
  (cs.reverse.dropWhile p).reverse

/-- Drops the characters of the class from both ends. -/
def trim (p : Char → Bool) (cs : List Char) : List Char :=
  trimRight p (cs.dropWhile p)

/-- The pieces between the separators; there is one more piece than there are separators. -/
def pieces (sep : Char) : List Char → List (List Char)
  | [] => [[]]
  | c :: cs =>
    if c = sep then [] :: pieces sep cs
    else match pieces sep cs with
      | [] => [[c]]
      | p :: ps => (c :: p) :: ps

theorem pieces_ne_nil (sep : Char) (cs : List Char) : pieces sep cs ≠ [] := by
  cases cs with
  | nil => simp [pieces]
  | cons c cs => unfold pieces; split <;> (try split) <;> simp

/-- The longest runs of characters that are not blank; `word` is the run being read. -/
def wordsFrom (word : List Char) : List Char → List (List Char)
  | [] => if word.isEmpty then [] else [word]
  | c :: cs =>
    if isBlank c then
      if word.isEmpty then wordsFrom [] cs else word :: wordsFrom [] cs
    else wordsFrom (word ++ [c]) cs

/-- The longest runs of characters that are not blank. -/
def words (cs : List Char) : List (List Char) :=
  wordsFrom [] cs

/-! ## On strings -/

/-- Every character is blank; so is the empty text. -/
def blank (s : String) : Bool :=
  s.toList.all isBlank

/-- Drops the characters of the class from both ends of a text. -/
def strip (p : Char → Bool) (s : String) : String :=
  String.ofList (trim p s.toList)

/-- Drops the blanks at both ends of a text. -/
def stripBlanks (s : String) : String :=
  strip isBlank s

/-- Drops the blanks at the end of a text. -/
def stripRight (s : String) : String :=
  String.ofList (trimRight isBlank s.toList)

/-- Drops the double quotes and spaces that may surround a value. -/
def unquote (s : String) : String :=
  strip (fun c => c = '"' || c = ' ') s

/-- The texts between the separators. -/
def split (sep : Char) (s : String) : List String :=
  (pieces sep s.toList).map String.ofList

/-- The text up to the first separator and the text after it, if there is one. -/
def cut (sep : Char) (cs : List Char) : List Char × Option (List Char) :=
  match cs.span (· ≠ sep) with
  | (before, []) => (before, none)
  | (before, _ :: after) => (before, some after)

/-! ## Lines

A line keeps its terminator. Texts read from files end their lines with a newline, a return or both
and are given newlines throughout by `unifyNewlines`; `Lines.ofChars` then cuts after every newline.
Byte strings are cut in place by `Lines.ofBytes`.
-/

/-- Writes every line end, be it `\n`, `\r` or `\r\n`, as a newline. -/
def unifyNewlines : List Char → List Char
  | [] => []
  | '\r' :: '\n' :: cs => '\n' :: unifyNewlines cs
  | c :: cs => (if c = '\r' then '\n' else c) :: unifyNewlines cs

namespace Lines

/-- Puts an item before the first line. -/
def push {α : Type} (a : α) : List (List α) → List (List α)
  | [] => [[a]]
  | line :: lines => (a :: line) :: lines

/-- Cuts a text after every newline. -/
def ofChars : List Char → List (List Char)
  | [] => []
  | c :: cs => if c = '\n' then [c] :: ofChars cs else push c (ofChars cs)

/-- Cuts a byte string after every newline, and after every return that no newline follows. -/
def ofBytes : List UInt8 → List (List UInt8)
  | [] => []
  | 13 :: 10 :: bs => [13, 10] :: ofBytes bs
  | b :: bs => if b = 10 || b = 13 then [b] :: ofBytes bs else push b (ofBytes bs)

end Lines

end DagAccess.Text
