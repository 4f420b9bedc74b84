import DagAccess.Text.Utf8
import Mathlib.Tactic.SplitIfs

/-!
# What can be decoded

A byte sequence is decoded without damage if and only if it is the encoding of a text, and then to
that text (`decode?_eq_some_iff`). So what is refused encodes nothing (`decode?_eq_none_iff`). The
argument goes character by character: the encoding of a character is read as that character whatever
follows (`head_encoded`), and what is read as a character is its encoding (`encodes_of_head`).
-/

namespace DagAccess.Utf8

open String (utf8EncodeChar)

variable {b : UInt8} {bs : List UInt8} {c : Char} {size lo hi : Nat} {cs : List Char}

/-! ## First bytes -/

/-- First bytes by the lengths of their sequences. The second byte is bounded where a shorter
sequence would do, where it would lead to a surrogate, and where it would lead beyond the last
character. -/
theorem announced_eq (b : UInt8) :
    announced b =
      if 0xC2 ≤ b.toNat ∧ b.toNat ≤ 0xDF then some (2, 0x80, 0xBF)
      else if 0xE0 ≤ b.toNat ∧ b.toNat ≤ 0xEF then
        some (3, if b.toNat = 0xE0 then 0xA0 else 0x80, if b.toNat = 0xED then 0x9F else 0xBF)
      else if 0xF0 ≤ b.toNat ∧ b.toNat ≤ 0xF4 then
        some (4, if b.toNat = 0xF0 then 0x90 else 0x80, if b.toNat = 0xF4 then 0x8F else 0xBF)
      else none := by
  simp only [announced, Bool.and_eq_true, decide_eq_true_eq]
  generalize b.toNat = n
  split_ifs <;> first | rfl | omega

/-- A byte that announces a sequence is read together with it. -/
theorem head_announced (large : 0x80 ≤ b.toNat) (h : announced b = some (size, lo, hi))
    (bs : List UInt8) :
    head b bs = continued (size - 1) 1 (b.toNat % Nat.pow 2 (7 - size)) lo hi bs := by
  have notAscii : ¬ b < 0x80 := Nat.not_lt.mpr large
  rw [head, if_neg notAscii, h]

theorem continued_cons (low : lo ≤ b.toNat) (high : b.toNat ≤ hi) (todo done value : Nat)
    (bs : List UInt8) :
    continued (todo + 1) done value lo hi (b :: bs) =
      continued todo (done + 1) (value * 64 + b.toNat % 64) 0x80 0xBF bs := by
  rw [continued, decide_eq_true low, decide_eq_true high]
  rfl

/-! ## Sequences by their length -/

section sequences

variable {b₀ b₁ b₂ b₃ : UInt8} {v : Nat}

/-- Two bytes are read as the value that they hold. -/
theorem head_two (h₀ : b₀.toNat = v / 64 + 192) (h₁ : b₁.toNat = v % 64 + 128) (low : 0x80 ≤ v)
    (high : v < 0x800) (rest : List UInt8) : head b₀ (b₁ :: rest) = .char (Char.ofNat v) 2 := by
  have announces : announced b₀ = some (2, 0x80, 0xBF) := by
    rw [announced_eq, if_pos (by omega)]
  have value : b₀.toNat % 32 * 64 + b₁.toNat % 64 = v := by omega
  rw [head_announced (by omega) announces, continued_cons (by omega) (by omega)]
  exact congrArg (fun n => Head.char (Char.ofNat n) 2) value

theorem head_three (h₀ : b₀.toNat = v / 4096 + 224) (h₁ : b₁.toNat = v / 64 % 64 + 128)
    (h₂ : b₂.toNat = v % 64 + 128) (low : 0x800 ≤ v) (high : v < 0x10000)
    (scalar : v < 0xD800 ∨ 0xDFFF < v) (rest : List UInt8) :
    head b₀ (b₁ :: b₂ :: rest) = .char (Char.ofNat v) 3 := by
  have announces : announced b₀ =
      some (3, if b₀.toNat = 0xE0 then 0xA0 else 0x80, if b₀.toNat = 0xED then 0x9F else 0xBF) := by
    rw [announced_eq, if_neg (by omega), if_pos (by omega)]
  have value : (b₀.toNat % 16 * 64 + b₁.toNat % 64) * 64 + b₂.toNat % 64 = v := by omega
  rw [head_announced (by omega) announces, continued_cons (by split <;> omega) (by split <;> omega),
    continued_cons (by omega) (by omega)]
  exact congrArg (fun n => Head.char (Char.ofNat n) 3) value

theorem head_four (h₀ : b₀.toNat = v / 262144 + 240) (h₁ : b₁.toNat = v / 4096 % 64 + 128)
    (h₂ : b₂.toNat = v / 64 % 64 + 128) (h₃ : b₃.toNat = v % 64 + 128) (low : 0x10000 ≤ v)
    (high : v < 0x110000) (rest : List UInt8) :
    head b₀ (b₁ :: b₂ :: b₃ :: rest) = .char (Char.ofNat v) 4 := by
  have announces : announced b₀ =
      some (4, if b₀.toNat = 0xF0 then 0x90 else 0x80, if b₀.toNat = 0xF4 then 0x8F else 0xBF) := by
    rw [announced_eq, if_neg (by omega), if_neg (by omega), if_pos (by omega)]
  have value : ((b₀.toNat % 8 * 64 + b₁.toNat % 64) * 64 + b₂.toNat % 64) * 64 +
      b₃.toNat % 64 = v := by omega
  rw [head_announced (by omega) announces, continued_cons (by split <;> omega) (by split <;> omega),
    continued_cons (by omega) (by omega), continued_cons (by omega) (by omega)]
  exact congrArg (fun n => Head.char (Char.ofNat n) 4) value

theorem toNat_byte {n : Nat} (small : n < 256) : (UInt8.ofNat n).toNat = n :=
  UInt8.toNat_ofNat_of_lt' small

theorem byte_eq {n : Nat} (h : b.toNat = n) : UInt8.ofNat n = b := by
  rw [← h, UInt8.ofNat_toNat]

theorem toNat_scalar (scalar : v < 0xD800 ∨ 0xDFFF < v ∧ v < 0x110000) :
    (Char.ofNat v).val.toNat = v := by
  rw [Char.ofNat, dif_pos scalar]
  rfl

theorem encode_two (h₀ : b₀.toNat = v / 64 + 192) (h₁ : b₁.toNat = v % 64 + 128) (low : 0x80 ≤ v)
    (high : v < 0x800) : utf8EncodeChar (Char.ofNat v) = [b₀, b₁] := by
  unfold utf8EncodeChar
  rw [toNat_scalar (by omega)]
  dsimp only
  rw [if_neg (by omega), if_pos (by omega), byte_eq (b := b₀) (by omega), byte_eq h₁]

theorem encode_three (h₀ : b₀.toNat = v / 4096 + 224) (h₁ : b₁.toNat = v / 64 % 64 + 128)
    (h₂ : b₂.toNat = v % 64 + 128) (low : 0x800 ≤ v) (high : v < 0x10000)
    (scalar : v < 0xD800 ∨ 0xDFFF < v) : utf8EncodeChar (Char.ofNat v) = [b₀, b₁, b₂] := by
  unfold utf8EncodeChar
  rw [toNat_scalar (by omega)]
  dsimp only
  rw [if_neg (by omega), if_neg (by omega), if_pos (by omega), byte_eq (b := b₀) (by omega),
    byte_eq h₁, byte_eq h₂]

theorem encode_four (h₀ : b₀.toNat = v / 262144 + 240) (h₁ : b₁.toNat = v / 4096 % 64 + 128)
    (h₂ : b₂.toNat = v / 64 % 64 + 128) (h₃ : b₃.toNat = v % 64 + 128) (low : 0x10000 ≤ v)
    (high : v < 0x110000) : utf8EncodeChar (Char.ofNat v) = [b₀, b₁, b₂, b₃] := by
  unfold utf8EncodeChar
  rw [toNat_scalar (by omega)]
  dsimp only
  rw [if_neg (by omega), if_neg (by omega), if_neg (by omega),
    byte_eq (b := b₀) (by omega), byte_eq h₁,
    byte_eq h₂, byte_eq h₃]

end sequences

/-- The encoding of a character is read as that character, whatever follows. -/
theorem head_encoded (c : Char) (rest : List UInt8) : ∃ b bs, utf8EncodeChar c = b :: bs ∧
    head b (bs ++ rest) = .char c (bs.length + 1) := by
  have scalar : c.val.toNat < 0xD800 ∨ 0xDFFF < c.val.toNat ∧ c.val.toNat < 0x110000 := c.valid
  have back : Char.ofNat c.val.toNat = c := Char.ofNat_toNat c
  unfold utf8EncodeChar
  generalize c.val.toNat = v at scalar back
  subst back
  dsimp only
  have trail (n : Nat) : (UInt8.ofNat (n % 64 + 128)).toNat = n % 64 + 128 := toNat_byte (by omega)
  split_ifs with one two three
  · have byte : (UInt8.ofNat v).toNat = v := toNat_byte (by omega)
    have ascii : UInt8.ofNat v < 0x80 := by
      show (UInt8.ofNat v).toNat < 0x80
      omega
    refine ⟨_, _, rfl, ?_⟩
    rw [head, if_pos ascii, byte]
    rfl
  · have first : (UInt8.ofNat (v / 64 % 32 + 192)).toNat = v / 64 + 192 := by
      rw [toNat_byte (by omega)]
      omega
    exact ⟨_, _, rfl, head_two first (trail v) (by omega) (by omega) rest⟩
  · have first : (UInt8.ofNat (v / 4096 % 16 + 224)).toNat = v / 4096 + 224 := by
      rw [toNat_byte (by omega)]
      omega
    exact ⟨_, _, rfl,
      head_three first (trail (v / 64)) (trail v) (by omega) (by omega) (by omega) rest⟩
  · have first : (UInt8.ofNat (v / 262144 % 8 + 240)).toNat = v / 262144 + 240 := by
      rw [toNat_byte (by omega)]
      omega
    exact ⟨_, _, rfl,
      head_four first (trail (v / 4096)) (trail (v / 64)) (trail v) (by omega) (by omega) rest⟩

/-! ## What is read as a character -/

theorem of_continued {todo done value : Nat}
    (h : continued (todo + 1) done value lo hi bs = .char c size) :
    ∃ b rest, bs = b :: rest ∧ lo ≤ b.toNat ∧ b.toNat ≤ hi ∧
      continued todo (done + 1) (value * 64 + b.toNat % 64) 0x80 0xBF rest = .char c size := by
  cases bs with
  | nil => cases h
  | cons b rest =>
    rw [continued] at h
    split at h
    · next within =>
      obtain ⟨low, high⟩ : lo ≤ b.toNat ∧ b.toNat ≤ hi := by simpa using within
      exact ⟨b, rest, rfl, low, high, h⟩
    · cases h

theorem of_continued_zero {done value : Nat} (h : continued 0 done value lo hi bs = .char c size) :
    c = Char.ofNat value ∧ size = done :=
  ⟨(Head.char.inj h).1.symm, (Head.char.inj h).2.symm⟩

/-- The first byte and as many of the others as are read with it encode the character. -/
def Encodes (b : UInt8) (bs : List UInt8) (c : Char) (size : Nat) : Prop :=
  ∃ taken rest, bs = taken ++ rest ∧ size = taken.length + 1 ∧ utf8EncodeChar c = b :: taken

theorem encodes_ascii (ascii : b < 0x80) (bs : List UInt8) :
    Encodes b bs (Char.ofNat b.toNat) 1 := by
  have small : b.toNat < 0x80 := ascii
  refine ⟨[], bs, rfl, rfl, ?_⟩
  unfold utf8EncodeChar
  rw [toNat_scalar (by omega)]
  dsimp only
  rw [if_pos (by omega), byte_eq rfl]

theorem encodes_of_two (first : 0xC2 ≤ b.toNat ∧ b.toNat ≤ 0xDF)
    (h : continued 1 1 (b.toNat % 32) 0x80 0xBF bs = .char c size) : Encodes b bs c size := by
  obtain ⟨b₁, rest, rfl, low₁, high₁, h⟩ := of_continued h
  obtain ⟨rfl, rfl⟩ := of_continued_zero h
  refine ⟨[b₁], rest, rfl, rfl, ?_⟩
  exact encode_two (v := b.toNat % 32 * 64 + b₁.toNat % 64) (by omega) (by omega)
    (by omega) (by omega)

/-- Neither shorter sequences nor surrogates are within the bounds. -/
theorem encodes_of_three (first : 0xE0 ≤ b.toNat ∧ b.toNat ≤ 0xEF)
    (h : continued 2 1 (b.toNat % 16) (if b.toNat = 0xE0 then 0xA0 else 0x80)
      (if b.toNat = 0xED then 0x9F else 0xBF) bs = .char c size) : Encodes b bs c size := by
  obtain ⟨b₁, _, rfl, low₁, high₁, h⟩ := of_continued h
  obtain ⟨b₂, rest, rfl, low₂, high₂, h⟩ := of_continued h
  obtain ⟨rfl, rfl⟩ := of_continued_zero h
  refine ⟨[b₁, b₂], rest, rfl, rfl, ?_⟩
  have second : 0x80 ≤ b₁.toNat ∧ b₁.toNat ≤ 0xBF ∧ (b.toNat = 0xE0 → 0xA0 ≤ b₁.toNat) ∧
      (b.toNat = 0xED → b₁.toNat ≤ 0x9F) := by
    split at low₁ <;> split at high₁ <;> omega
  exact encode_three (v := (b.toNat % 16 * 64 + b₁.toNat % 64) * 64 + b₂.toNat % 64)
    (by omega) (by omega)
    (by omega) (by omega) (by omega) (by omega)

/-- Neither shorter sequences nor values beyond the last character are within the bounds. -/
theorem encodes_of_four (first : 0xF0 ≤ b.toNat ∧ b.toNat ≤ 0xF4)
    (h : continued 3 1 (b.toNat % 8) (if b.toNat = 0xF0 then 0x90 else 0x80)
      (if b.toNat = 0xF4 then 0x8F else 0xBF) bs = .char c size) : Encodes b bs c size := by
  obtain ⟨b₁, _, rfl, low₁, high₁, h⟩ := of_continued h
  obtain ⟨b₂, _, rfl, low₂, high₂, h⟩ := of_continued h
  obtain ⟨b₃, rest, rfl, low₃, high₃, h⟩ := of_continued h
  obtain ⟨rfl, rfl⟩ := of_continued_zero h
  refine ⟨[b₁, b₂, b₃], rest, rfl, rfl, ?_⟩
  have second : 0x80 ≤ b₁.toNat ∧ b₁.toNat ≤ 0xBF ∧ (b.toNat = 0xF0 → 0x90 ≤ b₁.toNat) ∧
      (b.toNat = 0xF4 → b₁.toNat ≤ 0x8F) := by
    split at low₁ <;> split at high₁ <;> omega
  exact encode_four
    (v := ((b.toNat % 8 * 64 + b₁.toNat % 64) * 64 + b₂.toNat % 64) * 64 + b₃.toNat % 64)
    (by omega) (by omega) (by omega) (by omega) (by omega) (by omega)

/-- What is read as a character is its encoding. -/
theorem encodes_of_head (h : head b bs = .char c size) : Encodes b bs c size := by
  by_cases ascii : b < 0x80
  · rw [head, if_pos ascii] at h
    obtain ⟨rfl, rfl⟩ := Head.char.inj h
    exact encodes_ascii ascii bs
  · cases announces : announced b with
    | none =>
      rw [head, if_neg ascii, announces] at h
      cases h
    | some bounds =>
      obtain ⟨length, lo, hi⟩ := bounds
      rw [head_announced (Nat.not_lt.mp ascii) announces] at h
      rw [announced_eq] at announces
      by_cases two : 0xC2 ≤ b.toNat ∧ b.toNat ≤ 0xDF
      · rw [if_pos two] at announces
        cases announces
        exact encodes_of_two two h
      rw [if_neg two] at announces
      by_cases three : 0xE0 ≤ b.toNat ∧ b.toNat ≤ 0xEF
      · rw [if_pos three] at announces
        cases announces
        exact encodes_of_three three h
      rw [if_neg three] at announces
      by_cases four : 0xF0 ≤ b.toNat ∧ b.toNat ≤ 0xF4
      · rw [if_pos four] at announces
        cases announces
        exact encodes_of_four four h
      · rw [if_neg four] at announces
        cases announces

/-! ## Texts -/

/-- A text begins with the character that is read first. -/
theorem decode?_cons (b : UInt8) (bs : List UInt8) :
    decode? (b :: bs) = match head b bs with
      | .char c size => (decode? (bs.drop (size - 1))).map (c :: ·)
      | .damaged _ _ => none := by
  rw [decode?, decodeStart]
  cases head b bs with
  | char c size =>
    simp only [decode?]
    rcases decodeStart (bs.drop (size - 1)) with ⟨cs, ending⟩
    cases ending <;> rfl
  | damaged size cut => cases cut <;> rfl

theorem decode?_encoded (cs : List Char) : decode? (cs.flatMap utf8EncodeChar) = some cs := by
  induction cs with
  | nil => simp [decode?, decodeStart]
  | cons c cs ih =>
    obtain ⟨b, bs, encoded, read⟩ := head_encoded c (cs.flatMap utf8EncodeChar)
    rw [List.flatMap_cons, encoded, List.cons_append, decode?_cons, read]
    simp only [Nat.add_sub_cancel, List.drop_left, ih, Option.map_some]

theorem encoded_of_decode (h : decode? bs = some cs) : bs = cs.flatMap utf8EncodeChar := by
  -- by induction on the length, as a character takes several bytes
  induction measure : bs.length using Nat.strongRecOn generalizing bs cs with
  | _ n ih =>
    cases bs with
    | nil =>
      obtain rfl : [] = cs := by simpa [decode?, decodeStart] using h
      rfl
    | cons b bs =>
      rw [decode?_cons] at h
      cases read : head b bs with
      | damaged size cut =>
        rw [read] at h
        cases h
      | char c size =>
        rw [read] at h
        obtain ⟨later, decoded, rfl⟩ := Option.map_eq_some_iff.mp h
        obtain ⟨taken, rest, rfl, rfl, encoded⟩ := encodes_of_head read
        rw [Nat.add_sub_cancel, List.drop_left] at decoded
        have shorter : rest.length < n := by
          rw [← measure, List.length_cons, List.length_append]
          omega
        rw [List.flatMap_cons, encoded, ← ih _ shorter decoded rfl, List.cons_append]

/-- A byte sequence is decoded if and only if it encodes a text, and then to that text. -/
theorem decode?_eq_some_iff : decode? bs = some cs ↔ bs = cs.flatMap utf8EncodeChar :=
  ⟨encoded_of_decode, fun encoded => encoded ▸ decode?_encoded cs⟩

theorem decode?_eq_none_iff :
    decode? bs = none ↔ ∀ cs : List Char, bs ≠ cs.flatMap utf8EncodeChar := by
  rw [Option.eq_none_iff_forall_ne_some]
  exact forall_congr' fun cs => not_congr decode?_eq_some_iff

end DagAccess.Utf8
