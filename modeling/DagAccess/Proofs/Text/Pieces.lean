import DagAccess.Text.Blank
import Mathlib.Data.List.DropRight
import Mathlib.Data.List.TakeWhile

/-!
# Trimming and cutting

Trimming takes characters of a class away at both ends and nothing else (`exists_eq_trim`): what was
trimmed stays as it is (`trim_trim`), and characters of the class in front do not matter
(`trim_append`). Cutting at a separator is the library's `List.splitOn` (`pieces_eq_splitOn`), which
undoes joining.
-/

namespace DagAccess.Text

variable {p : Char → Bool} {sep : Char} {cs : List Char}

/-! ## Runs -/

/-- The first run of a text ends where characters of another class follow, whatever stands behind
it. -/
theorem takeWhile_append_of_head {back : List Char} (h : ∀ c ∈ back.head?, p c = false)
    (cs : List Char) :
    (cs ++ back).takeWhile p = cs.takeWhile p ∧
    (cs ++ back).dropWhile p = cs.dropWhile p ++ back := by
  induction cs with
  | nil =>
    cases back with
    | nil => exact ⟨rfl, rfl⟩
    | cons c rest =>
      have stop : ¬ p c = true := by simp [h c rfl]
      exact ⟨List.takeWhile_cons_of_neg stop, List.dropWhile_cons_of_neg stop⟩
  | cons c rest ih =>
    by_cases first : p c = true
    · simp [first, ih.1, ih.2]
    · simp [first]

/-! ## Trimming -/

theorem trim_eq_rdropWhile (p : Char → Bool) (cs : List Char) :
    trim p cs = (cs.dropWhile p).rdropWhile p := rfl

/-- A text is what trimming leaves of it between characters of the class. -/
theorem exists_eq_trim (p : Char → Bool) (cs : List Char) :
    ∃ front back, (∀ c ∈ front, p c = true) ∧ (∀ c ∈ back, p c = true) ∧
      cs = front ++ trim p cs ++ back := by
  refine ⟨cs.takeWhile p, (cs.dropWhile p).rtakeWhile p, ?_, ?_, ?_⟩
  · exact fun c hc => List.mem_takeWhile_imp hc
  · exact fun c hc => List.mem_rtakeWhile_imp hc
  · rw [List.append_assoc, trim_eq_rdropWhile, List.rdropWhile_append_rtakeWhile,
      List.takeWhile_append_dropWhile]

/-- A text is what trimming at its end leaves of it before characters of the class. -/
theorem exists_eq_trimRight (p : Char → Bool) (cs : List Char) :
    ∃ back, (∀ c ∈ back, p c = true) ∧ cs = trimRight p cs ++ back :=
  ⟨cs.rtakeWhile p, fun _ hc => List.mem_rtakeWhile_imp hc, List.rdropWhile_append_rtakeWhile.symm⟩

theorem mem_of_mem_trim {c : Char} (h : c ∈ trim p cs) : c ∈ cs := by
  obtain ⟨front, back, -, -, whole⟩ := exists_eq_trim p cs
  rw [whole]
  exact List.mem_append_left back (List.mem_append_right front h)

theorem trim_eq_nil_iff : trim p cs = [] ↔ ∀ c ∈ cs, p c = true := by
  constructor
  · intro nothing c hc
    obtain ⟨front, back, before, after, whole⟩ := exists_eq_trim p cs
    rw [nothing, List.append_nil] at whole
    rw [whole] at hc
    exact (List.mem_append.mp hc).elim (before c) (after c)
  · intro h
    rw [trim_eq_rdropWhile, List.dropWhile_eq_nil_iff.mpr h]
    rfl

/-- A text without characters of the class is not changed. -/
theorem trim_eq_self (h : ∀ c ∈ cs, p c = false) : trim p cs = cs := by
  have front : cs.dropWhile p = cs := by
    cases cs with
    | nil => rfl
    | cons c rest => exact List.dropWhile_cons_of_neg (by simp [h c List.mem_cons_self])
  rw [trim_eq_rdropWhile, front, List.rdropWhile_eq_self_iff]
  exact fun ne => by simp [h _ (List.getLast_mem ne)]

theorem dropWhile_trim (p : Char → Bool) (cs : List Char) :
    (trim p cs).dropWhile p = trim p cs := by
  have front := List.rdropWhile_prefix p (cs.dropWhile p)
  rw [← trim_eq_rdropWhile] at front
  cases trimmed : trim p cs with
  | nil => rfl
  | cons c rest =>
    rw [trimmed] at front
    obtain ⟨tail, same⟩ := front
    have head := List.head?_dropWhile_not p cs
    rw [← same] at head
    exact List.dropWhile_cons_of_neg (by simpa using head)

@[simp]
theorem trim_trim (p : Char → Bool) (cs : List Char) : trim p (trim p cs) = trim p cs := by
  rw [trim_eq_rdropWhile p (trim p cs), dropWhile_trim, trim_eq_rdropWhile,
    List.rdropWhile_idempotent]

/-- Characters of the class in front do not matter. -/
theorem trim_append {gap : List Char} (h : ∀ c ∈ gap, p c = true) (cs : List Char) :
    trim p (gap ++ cs) = trim p cs := by
  rw [trim_eq_rdropWhile, trim_eq_rdropWhile, List.dropWhile_append_of_pos h]

/-- Characters of the class behind a text do not matter. -/
theorem trim_append_right {gap : List Char} (h : ∀ c ∈ gap, p c = true) (cs : List Char) :
    trim p (cs ++ gap) = trim p cs := by
  have gone : gap.dropWhile p = [] := List.dropWhile_eq_nil_iff.mpr h
  have backward : ∀ c ∈ gap.reverse, p c = true := fun c hc => h c (List.mem_reverse.mp hc)
  rw [trim, trim, List.dropWhile_append, gone]
  split
  · next none => rw [List.isEmpty_iff.mp none]
  · rw [trimRight, trimRight, List.reverse_append, List.dropWhile_append_of_pos backward]

@[simp]
theorem unquote_unquote (s : String) : unquote (unquote s) = unquote s := by
  simp only [unquote, strip, String.toList_ofList, trim_trim]

/-! ## Pieces -/

theorem pieces_eq_splitOn (sep : Char) (cs : List Char) : pieces sep cs = cs.splitOn sep := by
  induction cs with
  | nil => rfl
  | cons c rest ih =>
    rw [pieces, ih, List.splitOn_cons_eq_if_modifyHead]
    simp only [beq_iff_eq]
    split
    · rfl
    · cases cut : rest.splitOn sep with
      | nil => exact absurd cut (List.splitOn_ne_nil sep rest)
      | cons first more => rfl

/-- What is put in front of a text without adding separators goes to its first piece. -/
theorem pieces_append {front : List Char} (h : sep ∉ front) {first : List Char}
    {rest : List (List Char)} (cut : pieces sep cs = first :: rest) :
    pieces sep (front ++ cs) = (front ++ first) :: rest := by
  induction front with
  | nil => exact cut
  | cons c front ih =>
    obtain ⟨other, later⟩ := not_or.mp (mt List.mem_cons.mpr h)
    rw [List.cons_append, pieces, if_neg (Ne.symm other), ih later]
    rfl

/-- What is put behind a text without adding separators goes to its last piece. -/
theorem pieces_append_right {back : List Char} (h : sep ∉ back) (cs : List Char) :
    ∃ init last, pieces sep cs = init ++ [last] ∧
      pieces sep (cs ++ back) = init ++ [last ++ back] := by
  induction cs with
  | nil =>
    have whole : pieces sep (back ++ []) = [back ++ []] := pieces_append h rfl
    rw [List.append_nil] at whole
    exact ⟨[], [], rfl, whole⟩
  | cons c rest ih =>
    obtain ⟨init, last, short, long⟩ := ih
    rw [List.cons_append, pieces, pieces, short, long]
    by_cases separates : c = sep
    · rw [if_pos separates, if_pos separates]
      exact ⟨[] :: init, last, rfl, rfl⟩
    · rw [if_neg separates, if_neg separates]
      cases init with
      | nil => exact ⟨[], c :: last, rfl, rfl⟩
      | cons first init => exact ⟨(c :: first) :: init, last, rfl, rfl⟩

/-- Pieces consist of characters of the text other than the separator. -/
theorem mem_piece {piece : List Char} (h : piece ∈ pieces sep cs) {c : Char} (hc : c ∈ piece) :
    c ≠ sep ∧ c ∈ cs := by
  induction cs generalizing piece with
  | nil =>
    rw [pieces, List.mem_singleton] at h
    rw [h] at hc
    cases hc
  | cons d rest ih =>
    rw [pieces] at h
    split at h
    · rcases List.mem_cons.mp h with rfl | later
      · cases hc
      · exact ⟨(ih later hc).1, List.mem_cons_of_mem d (ih later hc).2⟩
    · next other =>
      split at h
      · next none => exact absurd none (pieces_ne_nil sep rest)
      · next first more cut =>
        rw [cut] at ih
        rcases List.mem_cons.mp h with rfl | later
        · rcases List.mem_cons.mp hc with rfl | inFirst
          · exact ⟨other, List.mem_cons_self⟩
          · have inside := ih List.mem_cons_self inFirst
            exact ⟨inside.1, List.mem_cons_of_mem d inside.2⟩
        · have inside := ih (List.mem_cons_of_mem first later) hc
          exact ⟨inside.1, List.mem_cons_of_mem d inside.2⟩

end DagAccess.Text
