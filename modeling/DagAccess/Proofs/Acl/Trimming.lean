import DagAccess.Proofs.Acl.Listing

/-!
# Access lists and trimming

Blanks at the end of an access list never matter (`Listing.read_append_blank`). A space at its start
does, as it says that the list has groups only: without it the first names are taken for users. So a
list means the same without the spaces around it only if it `BearsTrimming` (`Listing.read_trim`).
-/

namespace DagAccess

namespace Text

variable {p : Char → Bool} {sep : Char} {cs : List Char}

theorem dropWhile_congr {q : Char → Bool} (h : ∀ c ∈ cs, p c = q c) :
    cs.dropWhile p = cs.dropWhile q := by
  induction cs with
  | nil => rfl
  | cons c rest ih =>
    obtain ⟨first, later⟩ := List.forall_mem_cons.mp h
    rw [List.dropWhile_cons, List.dropWhile_cons, first, ih later]

/-- Classes that agree on the characters of a text trim it alike. -/
theorem trim_congr {q : Char → Bool} (h : ∀ c ∈ cs, p c = q c) : trim p cs = trim q cs := by
  have backward : ∀ c ∈ (cs.dropWhile q).reverse, p c = q c :=
    fun c hc => h c (List.dropWhile_subset q (List.mem_reverse.mp hc))
  rw [trim, trim, trimRight, trimRight, dropWhile_congr h, dropWhile_congr backward]

/-- Without double quotes only spaces are taken away. -/
theorem toList_unquote {s : String} (h : '"' ∉ s.toList) :
    (unquote s).toList = trim (· = ' ') s.toList := by
  rw [unquote, strip, String.toList_ofList]
  refine trim_congr fun c hc => ?_
  have other : c ≠ '"' := fun same => h (same ▸ hc)
  simp [other]

/-- Every other character than the separator is in some piece. -/
theorem exists_mem_piece {c : Char} (h : c ∈ cs) (other : c ≠ sep) :
    ∃ piece ∈ pieces sep cs, c ∈ piece := by
  induction cs with
  | nil => cases h
  | cons d rest ih =>
    rw [pieces]
    by_cases separates : d = sep
    · rw [if_pos separates]
      rcases List.mem_cons.mp h with rfl | later
      · exact absurd separates other
      · obtain ⟨piece, hp, hc⟩ := ih later
        exact ⟨piece, List.mem_cons_of_mem _ hp, hc⟩
    · rw [if_neg separates]
      cases cut : pieces sep rest with
      | nil => exact absurd cut (pieces_ne_nil sep rest)
      | cons first more =>
        rw [cut] at ih
        rcases List.mem_cons.mp h with rfl | later
        · exact ⟨c :: first, List.mem_cons_self, List.mem_cons_self⟩
        · obtain ⟨piece, hp, hc⟩ := ih later
          rcases List.mem_cons.mp hp with rfl | inMore
          · exact ⟨d :: piece, List.mem_cons_self, List.mem_cons_of_mem d hc⟩
          · exact ⟨piece, List.mem_cons_of_mem _ inMore, hc⟩

end Text

namespace Acl

open Text

/-! ## Names -/

/-- Commas in front of names do not matter. -/
theorem readNames_append_commas {front : List Char} (commas : ∀ c ∈ front, c = ',')
    (cs : List Char) : readNames (front ++ cs) = readNames cs := by
  induction front with
  | nil => rfl
  | cons c front ih =>
    obtain ⟨rfl, later⟩ := List.forall_mem_cons.mp commas
    have cut : pieces ',' (',' :: (front ++ cs)) = [] :: pieces ',' (front ++ cs) := by
      rw [pieces, if_pos rfl]
    rw [List.cons_append, readNames_eq, cut, List.map_cons,
      List.filter_cons_of_neg (by simp [trim, trimRight]), ← readNames_eq, ih later]

/-- No names are read from a text without blanks only if it consists of commas. -/
theorem readNames_eq_empty_iff {cs : List Char} (noBlank : ∀ c ∈ cs, isBlank c = false) :
    readNames cs = ∅ ↔ ∀ c ∈ cs, c = ',' := by
  constructor
  · intro nothing c hc
    by_contra other
    obtain ⟨piece, hp, inside⟩ := exists_mem_piece hc other
    have clean : trim isBlank piece = piece :=
      trim_eq_self fun d hd => noBlank d (mem_piece hp hd).2
    have named : String.ofList piece ∈ readNames cs := by
      refine mem_readNames.mpr ⟨piece, hp, ?_, ?_⟩
      · rw [clean, String.toList_ofList]
      · intro empty
        have nil : piece = [] := by simpa using empty
        rw [nil] at inside
        cases inside
    rw [nothing] at named
    exact PrincipalSet.not_mem_empty _ named
  · intro commas
    rw [← List.append_nil cs, readNames_append_commas commas]
    decide

/-! ## Lists -/

/-- Blanks behind an access list do not matter. -/
theorem Listing.read_append_blank {back : List Char} (blank : ∀ c ∈ back, isBlank c = true)
    (cs : List Char) : Listing.read (cs ++ back) = Listing.read cs := by
  have trimmed := trim_append_right blank cs
  by_cases everyone : trim isBlank cs = wildcard.toList
  · rw [Listing.read_wildcard everyone, Listing.read_wildcard (trimmed.trans everyone)]
  · have first : ∀ c ∈ back.head?, (!isBlank c) = false :=
      fun c hc => by simp [blank c (List.mem_of_mem_head? hc)]
    have cut := takeWhile_append_of_head first cs
    rw [Listing.read_eq everyone, Listing.read_eq (mt trimmed.symm.trans everyone), cut.1, cut.2,
      readNames_append_blank blank]

/-- The access list means the same without a space at its start: there is none, or the list is the
wildcard, or nothing but commas stands where users would be named. -/
def BearsTrimming (cs : List Char) : Prop :=
  cs.head? = some ' ' → trim isBlank cs = wildcard.toList ∨
    ∀ c ∈ (cs.dropWhile (· = ' ')).takeWhile (!isBlank ·), c = ','

theorem isBlank_of_space {c : Char} (h : decide (c = ' ') = true) : isBlank c = true := by
  rw [of_decide_eq_true h]
  decide

/-- A space in front of an access list matters if users are read without it. -/
theorem Listing.read_append_spaces {front cs : List Char} (ne : front ≠ [])
    (blank : ∀ c ∈ front, isBlank c = true) (other : trim isBlank cs ≠ wildcard.toList) :
    Listing.read cs = Listing.read (front ++ cs) ↔ ∀ c ∈ cs.takeWhile (!isBlank ·), c = ',' := by
  have noBlank : ∀ c ∈ cs.takeWhile (!isBlank ·), isBlank c = false := by
    intro c hc
    simpa using List.mem_takeWhile_imp hc
  have uncut : (front ++ cs).takeWhile (!isBlank ·) = [] ∧
      (front ++ cs).dropWhile (!isBlank ·) = front ++ cs := by
    cases front with
    | nil => exact absurd rfl ne
    | cons c rest =>
      have first : ¬ (!isBlank c) = true := by simp [blank c List.mem_cons_self]
      exact ⟨List.takeWhile_cons_of_neg first, List.dropWhile_cons_of_neg first⟩
  rw [Listing.read_eq other, Listing.read_eq (by rwa [trim_append blank]), uncut.1, uncut.2,
    readNames_append blank, ← readNames_eq_empty_iff noBlank]
  constructor
  · exact fun same => congrArg Listing.users same
  · intro noUsers
    have commas := (readNames_eq_empty_iff noBlank).mp noUsers
    have groups := readNames_append_commas commas (cs.dropWhile (!isBlank ·))
    rw [List.takeWhile_append_dropWhile] at groups
    rw [noUsers, groups]
    rfl

/-- An access list means the same without the spaces around it only if it bears trimming. -/
theorem Listing.read_trim (cs : List Char) :
    Listing.read (trim (· = ' ') cs) = Listing.read cs ↔ BearsTrimming cs := by
  have behind : Listing.read (trim (· = ' ') cs) = Listing.read (cs.dropWhile (· = ' ')) := by
    have parts := List.rdropWhile_append_rtakeWhile (p := (· = ' ')) (l := cs.dropWhile (· = ' '))
    have blank : ∀ c ∈ (cs.dropWhile (· = ' ')).rtakeWhile (· = ' '), isBlank c = true := by
      intro c hc
      have space := List.mem_rtakeWhile_imp hc
      exact isBlank_of_space space
    conv_rhs => rw [← parts, Listing.read_append_blank blank, ← trim_eq_rdropWhile]
  have blank : ∀ c ∈ cs.takeWhile (· = ' '), isBlank c = true := by
    intro c hc
    have space := List.mem_takeWhile_imp hc
    exact isBlank_of_space space
  have parts := List.takeWhile_append_dropWhile (p := (· = ' ')) (l := cs)
  have trimmed : trim isBlank cs = trim isBlank (cs.dropWhile (· = ' ')) := by
    conv_lhs => rw [← parts, trim_append blank]
  rw [behind]
  -- what is left to compare are the spaces in front
  by_cases spaced : cs.head? = some ' '
  · have ne : cs.takeWhile (· = ' ') ≠ [] := by
      cases cs with
      | nil => cases spaced
      | cons c rest =>
        obtain rfl : c = ' ' := Option.some.inj spaced
        rw [List.takeWhile_cons_of_pos (by decide)]
        exact List.cons_ne_nil _ _
    by_cases everyone : trim isBlank cs = wildcard.toList
    · rw [Listing.read_wildcard everyone, Listing.read_wildcard (trimmed.symm.trans everyone)]
      exact iff_of_true rfl fun _ => .inl everyone
    · have spaces := Listing.read_append_spaces ne blank (mt trimmed.trans everyone)
      rw [parts] at spaces
      rw [spaces, BearsTrimming]
      simp only [spaced, everyone, false_or, forall_const]
  · have same : cs.dropWhile (· = ' ') = cs := by
      cases cs with
      | nil => rfl
      | cons c rest => exact List.dropWhile_cons_of_neg (by simpa using spaced)
    rw [same]
    exact iff_of_true rfl fun first => absurd first spaced

end Acl

end DagAccess
