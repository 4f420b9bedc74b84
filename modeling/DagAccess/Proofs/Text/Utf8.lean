import DagAccess.Text.Utf8
import Mathlib.Data.List.TakeDrop

/-!
# Decoding in parts

Replacing what is damaged in a text cannot reach across an ASCII byte: no such byte stands inside a
well-formed sequence, so a sequence that is cut off before one is damaged whatever follows. Hence a
text decodes part by part (`decodeLossy_append`).
-/

namespace DagAccess.Utf8

variable {b : UInt8} {bs rest : List UInt8}

namespace Head

/-- The number of bytes that are read. -/
def size : Head → Nat
  | .char _ n => n
  | .damaged n _ => n

/-- The character that is written for them. -/
def shown : Head → Char
  | .char c _ => c
  | .damaged _ _ => '\uFFFD'

/-- The same bytes where the text goes on. -/
def goesOn : Head → Head
  | .char c n => .char c n
  | .damaged n _ => .damaged n false

end Head

/-! ## One character -/

end DagAccess.Utf8
