import DagAccess.Text.Blank
import DagAccess.Text.Case

/-!
# Texts in small letters

A text of characters that are their own small form is its own small form (`lower_of_small`). So are
ASCII texts without capitals, and blanks.
-/

namespace DagAccess.Text

variable {c : Char} {cs : List Char}

/-- The character is its own small form, whatever stands around it. -/
def IsSmall (c : Char) : Prop :=
  ∀ before after, lowerChar before c after = [c]

theorem lowerFrom_of_small (small : ∀ c ∈ cs, IsSmall c) (before : List Char) :
    lowerFrom before cs = cs := by
  induction cs generalizing before with
  | nil => rfl
  | cons c rest ih =>
    obtain ⟨first, later⟩ := List.forall_mem_cons.mp small
    rw [lowerFrom, first, ih later]
    rfl

theorem lower_of_small {s : String} (small : ∀ c ∈ s.toList, IsSmall c) : lower s = s := by
  rw [lower, lowerFrom_of_small small, String.ofList_toList]

theorem lowerChar_ne_nil (before : List Char) (c : Char) (after : List Char) :
    lowerChar before c after ≠ [] := by
  unfold lowerChar
  split
  · exact List.cons_ne_nil _ _
  · split
    · exact List.cons_ne_nil _ _
    · split <;> exact List.cons_ne_nil _ _

/-- Only the empty text has the empty text as its small form. -/
theorem lower_eq_empty_iff {s : String} : lower s = "" ↔ s = "" := by
  constructor
  · intro empty
    have nothing : lowerFrom [] s.toList = [] := by
      have same := congrArg String.toList empty
      rwa [lower, String.toList_ofList] at same
    cases chars : s.toList with
    | nil => exact String.toList_injective chars
    | cons c rest =>
      rw [chars, lowerFrom] at nothing
      exact absurd (List.append_eq_nil_iff.mp nothing).1 (lowerChar_ne_nil _ _ _)
  · rintro rfl
    rfl

theorem isSmall_of_ascii (ascii : c.toNat < 0x80) (noCapital : c.toLower = c) : IsSmall c := by
  intro before after
  rw [lowerChar, if_pos ascii, noCapital]

/-! ## Blanks -/

/-- The code points of the blanks. -/
def blankCodes : List Nat :=
  [0x9, 0xA, 0xB, 0xC, 0xD, 0x1C, 0x1D, 0x1E, 0x1F, 0x20, 0x85, 0xA0, 0x1680, 0x2000, 0x2001,
  0x2002, 0x2003, 0x2004, 0x2005, 0x2006, 0x2007, 0x2008, 0x2009, 0x200A, 0x2028, 0x2029, 0x202F,
  0x205F, 0x3000]

theorem mem_blankCodes (blank : isBlank c = true) : c.toNat ∈ blankCodes := by
  simp only [isBlank, Bool.or_eq_true, Bool.and_eq_true, decide_eq_true_eq, beq_iff_eq] at blank
  simp only [blankCodes, List.mem_cons, List.not_mem_nil, or_false]
  omega

theorem isSmall_of_blank (blank : isBlank c = true) : IsSmall c := by
  have each : ∀ n ∈ blankCodes, (n < 0x80 → (Char.ofNat n).toLower = Char.ofNat n) ∧
      n ≠ 0x130 ∧ n ≠ 0x3A3 ∧ CaseRun.image lowerRuns (Char.ofNat n) = Char.ofNat n := by
    decide +kernel
  obtain ⟨ascii, noDot, noSigma, image⟩ := each c.toNat (mem_blankCodes blank)
  rw [Char.ofNat_toNat] at ascii image
  by_cases low : c.toNat < 0x80
  · exact isSmall_of_ascii low (ascii low)
  · intro before after
    rw [lowerChar, if_neg low, if_neg noDot, if_neg noSigma, image]

/-- Blanks have no capitals. -/
theorem lower_of_blank {s : String} (blank : blank s = true) : lower s = s :=
  lower_of_small fun c hc => isSmall_of_blank (List.all_eq_true.mp blank c hc)

end DagAccess.Text
