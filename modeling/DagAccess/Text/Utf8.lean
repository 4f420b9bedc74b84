/-!
# Reading UTF-8

A byte sequence is read from the left. What cannot be read is measured by its longest start that
some well-formed sequence has, so a damaged text is cut at the same places by every reader:
`decodeLossy` writes one replacement character for each such start, `decode?` refuses the text, and
`decodeStart` reads up to the damage.
-/

namespace DagAccess.Utf8

/-- What the first bytes of a text are. -/
inductive Head
  /-- A character and how many bytes it takes. -/
  | char (c : Char) (size : Nat)
  /-- The longest start of a well-formed sequence; `cut` says that the text ends inside it. -/
  | damaged (size : Nat) (cut : Bool)

/-- How many bytes the first one announces, with the least and the greatest second byte. -/
def announced (b : UInt8) : Option (Nat × Nat × Nat) :=
  let n := b.toNat
  if 0xC2 ≤ n && n ≤ 0xDF then some (2, 0x80, 0xBF)
  else if n = 0xE0 then some (3, 0xA0, 0xBF)
  else if n = 0xED then some (3, 0x80, 0x9F)
  else if 0xE1 ≤ n && n ≤ 0xEF then some (3, 0x80, 0xBF)
  else if n = 0xF0 then some (4, 0x90, 0xBF)
  else if n = 0xF4 then some (4, 0x80, 0x8F)
  else if 0xF1 ≤ n && n ≤ 0xF3 then some (4, 0x80, 0xBF)
  else none

/-- Reads `todo` more bytes of a sequence of which `done` are read, the next one within bounds. -/
def continued : (todo done value lo hi : Nat) → List UInt8 → Head
  | 0, done, value, _, _, _ => .char (Char.ofNat value) done
  | _ + 1, done, _, _, _, [] => .damaged done true
  | todo + 1, done, value, lo, hi, b :: bs =>
    if lo ≤ b.toNat && b.toNat ≤ hi then
      continued todo (done + 1) (value * 64 + b.toNat % 64) 0x80 0xBF bs
    else .damaged done false

/-- Reads the first character of a text that starts with the byte `b`. -/
def head (b : UInt8) (bs : List UInt8) : Head :=
  if b < 0x80 then .char (Char.ofNat b.toNat) 1
  else match announced b with
    | none => .damaged 1 false
    | some (size, lo, hi) => continued (size - 1) 1 (b.toNat % Nat.pow 2 (7 - size)) lo hi bs

/-- The text with every damaged place replaced by U+FFFD. -/
def decodeLossy : List UInt8 → List Char
  | [] => []
  | b :: bs =>
    match head b bs with
    | .char c size => c :: decodeLossy (bs.drop (size - 1))
    | .damaged size _ => '\uFFFD' :: decodeLossy (bs.drop (size - 1))
termination_by bs => bs.length
decreasing_by all_goals simp only [List.length_drop, List.length_cons]; omega

/-- How reading a text from the left came to an end. -/
inductive Ending
  | complete
  /-- The text ends inside a character; the bytes read of it are kept. -/
  | unfinished (rest : List UInt8)
  | damaged

/-- The characters up to the first damage. -/
def decodeStart : List UInt8 → List Char × Ending
  | [] => ([], .complete)
  | b :: bs =>
    match head b bs with
    | .char c size =>
      let (cs, ending) := decodeStart (bs.drop (size - 1))
      (c :: cs, ending)
    | .damaged _ true => ([], .unfinished (b :: bs))
    | .damaged _ false => ([], .damaged)
termination_by bs => bs.length
decreasing_by all_goals simp only [List.length_drop, List.length_cons]; omega

/-- The text, if no place of it is damaged. -/
def decode? (bs : List UInt8) : Option (List Char) :=
  match decodeStart bs with
  | (cs, .complete) => some cs
  | _ => none

/-! ## Blocks

Files are decoded in blocks, so a damaged place spoils its own block and what comes after it, while
the blocks before it have been read. A character may lie across the border of two blocks.
-/

/-- The number of bytes of a block. -/
def blockSize : Nat := 8192

/-- Decodes block after block; `rest` is the start of a character left over by the block before. The
flag says that everything was decoded. -/
def decodeBlocksFrom (rest : List UInt8) : (blocks : Nat) → List UInt8 → List Char × Bool
  | 0, _ => ([], rest.isEmpty)
  | blocks + 1, bytes =>
    match decodeStart (rest ++ bytes.take blockSize) with
    | (_, .damaged) => ([], false)
    | (cs, .complete) =>
      let (more, complete) := decodeBlocksFrom [] blocks (bytes.drop blockSize)
      (cs ++ more, complete)
    | (cs, .unfinished rest) =>
      let (more, complete) := decodeBlocksFrom rest blocks (bytes.drop blockSize)
      (cs ++ more, complete)

/-- The characters of the blocks before the first damaged one, and whether that is all. -/
def decodeBlocks (bytes : List UInt8) : List Char × Bool :=
  decodeBlocksFrom [] ((bytes.length + blockSize - 1) / blockSize) bytes

end DagAccess.Utf8
