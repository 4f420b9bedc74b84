import DagAccess.Number.Integer
import Mathlib.Data.List.DropRight
import Mathlib.Data.List.TakeWhile

/-!
# Reading decimal numbers

What is written for an integer is read as that integer unless it is too long (`readInt_toString`),
spaces around a number do not matter, be it well formed or not (`readInt_spaces`), and a text with a
double quote in it is no number (`readInt_of_quote`).
-/

namespace DagAccess.Number

variable {c : Char} {cs gap : List Char}

/-! ## Spaces around a number -/

/-- Spaces behind a text stay as they are unless the text breaks off before them. -/
theorem plainForm_append (spaces : ∀ c ∈ gap, c = ' ') (cs : List Char) :
    plainForm (cs ++ gap) = plainForm cs ++ gap ∨ plainForm (cs ++ gap) = plainForm cs := by
  induction cs with
  | nil =>
    left
    induction gap with
    | nil => rfl
    | cons c gap ih =>
      obtain ⟨rfl, later⟩ := List.forall_mem_cons.mp spaces
      exact congrArg (' ' :: ·) (ih later)
  | cons c cs ih =>
    have longer (d : Char) : d :: plainForm (cs ++ gap) = (d :: plainForm cs) ++ gap ∨
        d :: plainForm (cs ++ gap) = d :: plainForm cs :=
      ih.imp (congrArg (d :: ·)) (congrArg (d :: ·))
    rw [List.cons_append, plainForm, plainForm]
    split
    · exact longer c
    · split
      · exact longer ' '
      · split
        · exact longer _
        · exact .inr rfl

theorem plainForm_spaces (spaces : ∀ c ∈ gap, c = ' ') (cs : List Char) :
    plainForm (gap ++ cs) = gap ++ plainForm cs := by
  induction gap with
  | nil => rfl
  | cons c gap ih =>
    obtain ⟨rfl, later⟩ := List.forall_mem_cons.mp spaces
    exact congrArg (' ' :: ·) (ih later)

theorem digitIn?_space : digitIn? 10 ' ' = none := by decide

/-- Spaces behind digits are left over. -/
theorem readRun_append (spaces : ∀ c ∈ gap, c = ' ') (cs : List Char) (value seen : Nat)
    (hole : Bool) :
    readRun 10 value seen hole (cs ++ gap) =
      (readRun 10 value seen hole cs).map fun run => { run with rest := run.rest ++ gap } := by
  induction cs generalizing value seen hole with
  | nil =>
    cases gap with
    | nil => cases hole <;> rfl
    | cons c gap =>
      obtain ⟨rfl, -⟩ := List.forall_mem_cons.mp spaces
      rw [List.nil_append, readRun, readRun, if_neg (by decide), digitIn?_space]
      cases hole <;> rfl
  | cons c cs ih =>
    rw [List.cons_append, readRun, readRun]
    by_cases line : c = '_'
    · rw [if_pos line, if_pos line]
      cases hole with
      | true => rfl
      | false => exact ih _ _ _
    · rw [if_neg line, if_neg line]
      cases digitIn? 10 c with
      | some d => exact ih _ _ _
      | none => cases hole <;> rfl

theorem dropBase_ten (cs : List Char) : dropBase 10 cs = cs := by
  unfold dropBase
  split
  · rw [if_neg (by simp [baseLetter?])]
  · rfl

/-- Reads what follows the sign of a number. -/
def readUnsigned (sign : Int) (cs : List Char) : Except Refusal Int :=
  if cs.head? = some '_' then .error .malformed
  else match readRun 10 0 0 false cs with
    | none => .error .malformed
    | some run =>
      if digitLimit < run.digits then .error (.tooLong run.digits)
      else if run.digits = 0 ∨ (run.rest.any fun c => !isPlainBlank c) then .error .malformed
      else .ok (sign * run.value)

theorem readInt_eq (cs : List Char) :
    readInt 10 cs =
      let signed := readSign ((plainForm cs).dropWhile isPlainBlank)
      readUnsigned signed.1 signed.2 := by
  simp only [readInt, dropBase_ten, true_and]
  rfl

theorem isPlainBlank_of_spaces (spaces : ∀ c ∈ gap, c = ' ') :
    ∀ c ∈ gap, isPlainBlank c = true := by
  intro c hc
  rw [spaces c hc]
  decide

theorem readUnsigned_append (spaces : ∀ c ∈ gap, c = ' ') (sign : Int) (cs : List Char) :
    readUnsigned sign (cs ++ gap) = readUnsigned sign cs := by
  have first : (cs ++ gap).head? = some '_' ↔ cs.head? = some '_' := by
    cases cs with
    | cons c cs => rfl
    | nil =>
      refine ⟨fun line => ?_, nofun⟩
      have same := spaces '_' (List.mem_of_mem_head? line)
      cases same
  have blank : (gap.any fun c => !isPlainBlank c) = false := by
    rw [List.any_eq_false]
    intro c hc
    rw [isPlainBlank_of_spaces spaces c hc]
    decide
  unfold readUnsigned
  simp only [first, readRun_append spaces]
  cases readRun 10 0 0 false cs with
  | none => rfl
  | some run => simp only [Option.map_some, List.any_append, blank, Bool.or_false]

theorem readSign_cons (c : Char) (cs : List Char) :
    readSign (c :: cs) = if c = '-' then (-1, cs) else if c = '+' then (1, cs)
      else (1, c :: cs) := by
  unfold readSign
  split
  · next same =>
    cases same
    rfl
  · next same =>
    cases same
    rfl
  · next minus plus =>
    rw [if_neg fun same => minus cs (by rw [same]), if_neg fun same => plus cs (by rw [same])]

theorem readSign_append (nonempty : cs ≠ []) (gap : List Char) :
    readSign (cs ++ gap) = ((readSign cs).1, (readSign cs).2 ++ gap) := by
  cases cs with
  | nil => exact absurd rfl nonempty
  | cons c rest =>
    rw [List.cons_append, readSign_cons, readSign_cons]
    split
    · rfl
    · split <;> rfl

/-- Spaces around a number do not matter. -/
theorem readInt_spaces {front back : List Char} (before : ∀ c ∈ front, c = ' ')
    (behind : ∀ c ∈ back, c = ' ') (cs : List Char) :
    readInt 10 (front ++ (cs ++ back)) = readInt 10 cs := by
  have start : (plainForm (front ++ (cs ++ back))).dropWhile isPlainBlank =
      (plainForm (cs ++ back)).dropWhile isPlainBlank := by
    rw [plainForm_spaces before, List.dropWhile_append,
      List.dropWhile_eq_nil_iff.mpr (isPlainBlank_of_spaces before)]
    rfl
  rw [readInt_eq, readInt_eq, start]
  rcases plainForm_append behind cs with kept | broken
  · rw [kept, List.dropWhile_append]
    by_cases nothing : (plainForm cs).dropWhile isPlainBlank = []
    · rw [nothing, List.dropWhile_eq_nil_iff.mpr (isPlainBlank_of_spaces behind)]
      rfl
    · rw [if_neg (by simpa using nothing), readSign_append nothing]
      exact readUnsigned_append behind _ _
  · rw [broken]

/-! ## What is not read -/

/-- The characters of a number, read in ASCII. -/
def isUsual (c : Char) : Bool :=
  isPlainBlank c || c = '-' || c = '+' || c = '_' || (digitIn? 10 c).isSome

theorem isUsual_of_readRun {value seen : Nat} {hole : Bool} {run : Run}
    (read : readRun 10 value seen hole cs = some run) :
    ∀ c ∈ cs, isUsual c = true ∨ c ∈ run.rest := by
  induction cs generalizing value seen hole with
  | nil => exact nofun
  | cons c cs ih =>
    rw [readRun] at read
    by_cases line : c = '_'
    · rw [if_pos line] at read
      cases hole with
      | true => cases read
      | false => exact List.forall_mem_cons.mpr ⟨.inl (by simp [isUsual, line]), ih read⟩
    · rw [if_neg line] at read
      cases digit : digitIn? 10 c with
      | some d =>
        rw [digit] at read
        exact List.forall_mem_cons.mpr ⟨.inl (by simp [isUsual, digit]), ih read⟩
      | none =>
        rw [digit] at read
        cases hole with
        | true => cases read
        | false =>
          cases read
          exact fun _ => .inr

theorem isUsual_of_readUnsigned {sign n : Int} (read : readUnsigned sign cs = .ok n) :
    ∀ c ∈ cs, isUsual c = true := by
  unfold readUnsigned at read
  split at read
  · cases read
  · split at read
    · cases read
    · next run reading =>
      split at read
      · cases read
      · split at read
        · cases read
        · next sound =>
          have blank := List.any_eq_false.mp (Bool.eq_false_iff.mpr (not_or.mp sound).2)
          intro c hc
          rcases isUsual_of_readRun reading c hc with usual | left
          · exact usual
          · have plain := blank c left
            simp [isUsual, by simpa using plain]

theorem mem_readSign (h : c ∈ cs) : c = '-' ∨ c = '+' ∨ c ∈ (readSign cs).2 := by
  cases cs with
  | nil => cases h
  | cons d rest =>
    rw [readSign_cons]
    split
    · next minus => exact (List.mem_cons.mp h).imp (·.trans minus) .inr
    · split
      · next plus => exact .inr ((List.mem_cons.mp h).imp_left (·.trans plus))
      · exact .inr (.inr h)

theorem isUsual_of_readInt {n : Int} (read : readInt 10 cs = .ok n) :
    ∀ c ∈ plainForm cs, isUsual c = true := by
  rw [readInt_eq] at read
  have unsigned := isUsual_of_readUnsigned read
  intro c hc
  rw [← List.takeWhile_append_dropWhile (p := isPlainBlank) (l := plainForm cs)] at hc
  rcases List.mem_append.mp hc with blank | later
  · simp [isUsual, List.mem_takeWhile_imp blank]
  · rcases mem_readSign later with rfl | rfl | inside
    · rfl
    · rfl
    · exact unsigned c inside

/-- A character of ASCII is kept unless the text breaks off before it. -/
theorem mem_plainForm (ascii : c.toNat < 0x7F) (h : c ∈ cs) :
    c ∈ plainForm cs ∨ '?' ∈ plainForm cs := by
  induction cs with
  | nil => cases h
  | cons d cs ih =>
    have later (e : Char) (there : c ∈ cs) : c ∈ e :: plainForm cs ∨ '?' ∈ e :: plainForm cs :=
      (ih there).imp (List.mem_cons_of_mem e) (List.mem_cons_of_mem e)
    rw [plainForm]
    rcases List.mem_cons.mp h with rfl | there
    · rw [if_pos ascii]
      exact .inl List.mem_cons_self
    · split
      · exact later d there
      · split
        · exact later ' ' there
        · split
          · exact later _ there
          · exact .inr List.mem_cons_self

/-- A text with a double quote is no number. -/
theorem readInt_of_quote (quoted : '"' ∈ cs) : ∃ why, readInt 10 cs = .error why := by
  cases read : readInt 10 cs with
  | error why => exact ⟨why, rfl⟩
  | ok n =>
    have usual := isUsual_of_readInt read
    rcases mem_plainForm (by decide) quoted with kept | broken
    · exact absurd (usual _ kept) (by decide)
    · exact absurd (usual _ broken) (by decide)

/-! ## Numbers as they are written -/

theorem ascii_of_isDigit (digit : c.isDigit = true) : 0x30 ≤ c.toNat ∧ c.toNat ≤ 0x39 := by
  have bounds : '0' ≤ c ∧ c ≤ '9' := by
    simpa [Char.isDigit, Char.le_def] using digit
  exact bounds

theorem digitIn?_of_isDigit (digit : c.isDigit = true) :
    digitIn? 10 c = some (c.toNat - '0'.toNat) := by
  obtain ⟨low, high⟩ := ascii_of_isDigit digit
  have bounds : '0' ≤ c ∧ c ≤ '9' := ⟨low, high⟩
  simp only [digitIn?, bounds.1, bounds.2, decide_true, Bool.and_self, if_true]
  rw [if_pos (by omega)]
  rfl

/-- Digits are read as their value. -/
theorem readRun_digits (digits : ∀ c ∈ cs, c.isDigit = true) (value seen : Nat) :
    readRun 10 value seen false cs = some ⟨Nat.ofDigitChars 10 cs value, seen + cs.length, []⟩ := by
  induction cs generalizing value seen with
  | nil => rfl
  | cons c cs ih =>
    obtain ⟨first, later⟩ := List.forall_mem_cons.mp digits
    have noLine : c ≠ '_' := by
      rintro rfl
      exact absurd first (by decide)
    rw [readRun, if_neg noLine, digitIn?_of_isDigit first]
    simp only
    rw [ih later, Nat.ofDigitChars_cons, Nat.mul_comm, List.length_cons, Nat.add_right_comm,
      Nat.add_assoc]

theorem plainForm_of_ascii (ascii : ∀ c ∈ cs, c.toNat < 0x7F) : plainForm cs = cs := by
  induction cs with
  | nil => rfl
  | cons c cs ih =>
    obtain ⟨first, later⟩ := List.forall_mem_cons.mp ascii
    rw [plainForm, if_pos first, ih later]

theorem plainForm_digits (digits : ∀ c ∈ cs, c.isDigit = true) : plainForm cs = cs := by
  refine plainForm_of_ascii fun c hc => ?_
  obtain ⟨-, high⟩ := ascii_of_isDigit (digits c hc)
  omega

/-- The digits of a natural number are read as the number, unless they are too many. -/
theorem readUnsigned_toDigits (sign : Int) (n : Nat) :
    readUnsigned sign (Nat.toDigits 10 n) =
      if digitLimit < (Nat.toDigits 10 n).length then .error (.tooLong (Nat.toDigits 10 n).length)
      else .ok (sign * n) := by
  have digits : ∀ c ∈ Nat.toDigits 10 n, c.isDigit = true :=
    fun c hc => Nat.isDigit_of_mem_toDigits (by decide) (by decide) hc
  have first : (Nat.toDigits 10 n).head? ≠ some '_' := by
    intro line
    exact absurd (digits '_' (List.mem_of_mem_head? line)) (by decide)
  have some_ : (Nat.toDigits 10 n).length ≠ 0 := Nat.length_toDigits_pos.ne.symm
  simp only [readUnsigned, if_neg first, readRun_digits digits, Nat.ofDigitChars_ten_toDigits,
    Nat.zero_add, some_, List.any_nil, Bool.false_eq_true, or_self, if_false]

/-- Digits have no sign in front of them. -/
theorem readInt_digits (digits : ∀ c ∈ cs, c.isDigit = true) :
    readInt 10 cs = readUnsigned 1 cs := by
  rw [readInt_eq, plainForm_digits digits]
  cases cs with
  | nil => rfl
  | cons c rest =>
    have first := digits c List.mem_cons_self
    obtain ⟨low, high⟩ := ascii_of_isDigit first
    have other {d : Char} (noDigit : d.isDigit = false) : c ≠ d := by
      rintro rfl
      rw [first] at noDigit
      cases noDigit
    have dark : ¬ isPlainBlank c = true := by
      simp only [isPlainBlank, other (d := ' ') rfl, decide_false, Bool.false_or, Bool.and_eq_true,
        decide_eq_true_eq]
      omega
    rw [List.dropWhile_cons_of_neg dark, readSign_cons, if_neg (other rfl), if_neg (other rfl)]

theorem readInt_minus (digits : ∀ c ∈ cs, c.isDigit = true) :
    readInt 10 ('-' :: cs) = readUnsigned (-1) cs := by
  have plain : plainForm ('-' :: cs) = '-' :: cs := by
    rw [plainForm, if_pos (by decide), plainForm_digits digits]
  rw [readInt_eq, plain, List.dropWhile_cons_of_neg (by decide), readSign_cons, if_pos rfl]

/-- **Written integers are read.** The text of an integer is read as the integer, unless it has too
many digits. -/
theorem readInt_toString (n : Int) :
    readInt 10 (toString n).toList =
      if digitLimit < (toString n.natAbs).length then .error (.tooLong (toString n.natAbs).length)
        else .ok n := by
  have digits (m : Nat) : ∀ c ∈ Nat.toDigits 10 m, c.isDigit = true :=
    fun c hc => Nat.isDigit_of_mem_toDigits (by decide) (by decide) hc
  have size : (toString n.natAbs).length = (Nat.toDigits 10 n.natAbs).length := by
    rw [Nat.toString_eq_ofList_toDigits, String.length_ofList]
  rw [size, Int.toString_eq_repr, Int.repr_eq_if]
  split
  · next sign =>
    have magnitude : n.toNat = n.natAbs := by omega
    rw [magnitude, Nat.toList_repr, readInt_digits (digits _), readUnsigned_toDigits, Int.one_mul,
      Int.natAbs_of_nonneg sign]
  · next sign =>
    have magnitude : (-n).toNat = n.natAbs := by omega
    have value : -1 * (n.natAbs : Int) = n := by omega
    rw [magnitude, String.toList_append, Nat.toList_repr]
    exact (readInt_minus (digits _)).trans (by rw [readUnsigned_toDigits, value])

end DagAccess.Number
