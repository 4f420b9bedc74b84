import DagAccess.Proofs.Acl.Listing

/-!
# Where names stand

A name stands in a text if it is written there between gaps: commas, blanks and the ends of the
text. Every name that an access list names stands in its text (`stands_of_read`), and a name without
commas stands in a join of texts only where it stands in one of them (`Stands.of_join`). So joining
texts names nobody new. A user name that is a whole piece between commas is named for certain
(`mem_read_of_piece`).
-/

namespace DagAccess.Acl

open Text

/-- What may stand beside a name. -/
def IsGap (c : Char) : Prop :=
  c = ',' ∨ isBlank c = true

instance : DecidablePred IsGap :=
  fun c => inferInstanceAs (Decidable (c = ',' ∨ isBlank c = true))

/-- The name is written in the text, with gaps or nothing beside it. -/
def Stands (name text : List Char) : Prop :=
  ∃ before after, text = before ++ name ++ after ∧
    (∀ c ∈ before.getLast?, IsGap c) ∧ ∀ c ∈ after.head?, IsGap c

variable {name text piece cs : List Char} {sep : Char}

theorem stands_self (name : List Char) : Stands name name :=
  ⟨[], [], by simp, nofun, nofun⟩

/-- Texts that end with a gap, unless they are empty, make up such a text. -/
theorem gap_of_getLast {front back : List Char} (outer : ∀ c ∈ front.getLast?, IsGap c)
    (inner : ∀ c ∈ back.getLast?, IsGap c) : ∀ c ∈ (front ++ back).getLast?, IsGap c := by
  intro c last
  rw [List.getLast?_append] at last
  cases ended : back.getLast? with
  | none => exact outer c (by simpa [ended] using last)
  | some d =>
    obtain rfl : d = c := by simpa [ended] using last
    exact inner d ended

/-- Texts that begin with a gap, unless they are empty, make up such a text. -/
theorem gap_of_head {front back : List Char} (inner : ∀ c ∈ front.head?, IsGap c)
    (outer : ∀ c ∈ back.head?, IsGap c) : ∀ c ∈ (front ++ back).head?, IsGap c := by
  intro c first
  cases front with
  | nil => exact outer c first
  | cons d front => exact inner c first

namespace Stands

/-- In a text without gaps nothing stands but the text itself. -/
theorem eq_of_noGap (h : Stands name text) (noGap : ∀ c ∈ text, ¬ IsGap c) : name = text := by
  obtain ⟨before, after, rfl, left, right⟩ := h
  have first : before = [] := by
    refine List.getLast?_eq_none_iff.mp (Option.eq_none_iff_forall_not_mem.mpr fun c last => ?_)
    have inside : c ∈ before := List.mem_of_getLast? last
    exact noGap c (by simp [inside]) (left c last)
  have last : after = [] := by
    refine List.head?_eq_none_iff.mp (Option.eq_none_iff_forall_not_mem.mpr fun c begun => ?_)
    have inside : c ∈ after := List.mem_of_head? begun
    exact noGap c (by simp [inside]) (right c begun)
  rw [first, last, List.nil_append, List.append_nil]

/-- Blanks around a name that stands in a text do not matter. -/
theorem trim (h : Stands piece text) : Stands (trim isBlank piece) text := by
  obtain ⟨before, after, rfl, left, right⟩ := h
  obtain ⟨front, back, blank, blank', whole⟩ := exists_eq_trim isBlank piece
  refine ⟨before ++ front, back ++ after, ?_, gap_of_getLast left fun c last => ?_,
    gap_of_head (fun c first => ?_) right⟩
  · conv_lhs => rw [whole]
    simp only [List.append_assoc]
  · exact .inr (blank c (List.mem_of_getLast? last))
  · exact .inr (blank' c (List.mem_of_head? first))

theorem append (h : Stands name text) {rest : List Char} (gap : ∀ c ∈ rest.head?, IsGap c) :
    Stands name (text ++ rest) := by
  obtain ⟨before, after, rfl, left, right⟩ := h
  exact ⟨before, after ++ rest, by simp only [List.append_assoc], left, gap_of_head right gap⟩

theorem prepend (h : Stands name text) {front : List Char} (gap : ∀ c ∈ front.getLast?, IsGap c) :
    Stands name (front ++ text) := by
  obtain ⟨before, after, rfl, left, right⟩ := h
  exact ⟨front ++ before, after, by simp only [List.append_assoc], gap_of_getLast gap left, right⟩

/-- A name that stands in two texts with a comma between them stands in one of them, if it has no
commas. -/
theorem of_append (noComma : ',' ∉ name) {rest : List Char}
    (h : Stands name (text ++ ',' :: rest)) : Stands name text ∨ Stands name rest := by
  obtain ⟨before, after, whole, left, right⟩ := h
  rcases List.append_eq_append_iff.mp whole.symm with ⟨more, inText, behind⟩ | ⟨more, ahead, behind⟩
  · -- the name ends before the comma
    refine .inl ⟨before, more, inText, left, fun c first => ?_⟩
    cases more with
    | nil => cases first
    | cons d more => exact right c (behind ▸ first)
  · cases more with
    | nil => exact .inl ⟨before, [], by simpa using ahead.symm, left, nofun⟩
    | cons d more =>
      obtain ⟨rfl, rfl⟩ := List.cons.inj behind
      rcases List.append_eq_append_iff.mp ahead with ⟨more', -, across⟩ | ⟨more', begun, across⟩
      · -- the comma would stand in the name
        exact absurd (across ▸ List.mem_append_right more' List.mem_cons_self) noComma
      · cases more' with
        | nil =>
          rw [List.nil_append] at across
          exact absurd (across ▸ List.mem_cons_self) noComma
        | cons d more' =>
          -- the name begins behind the comma
          obtain ⟨rfl, rfl⟩ := List.cons.inj across
          refine .inr ⟨more', after, rfl, fun c last => left c ?_, right⟩
          cases more' with
          | nil => cases last
          | cons d more' => simpa [begun, List.getLast?_append, List.getLast?_cons] using last

/-- A name that stands in a join of texts stands in one of them, if it has no commas. -/
theorem of_join (nonempty : name ≠ []) (noComma : ',' ∉ name) :
    ∀ texts : List (List Char), Stands name ([','].intercalate texts) →
      ∃ text ∈ texts, Stands name text
  | [], h => by
    obtain ⟨before, after, whole, -, -⟩ := h
    exact absurd (by simpa using whole : before = [] ∧ name = [] ∧ after = []).2.1 nonempty
  | [text], h => ⟨text, List.mem_singleton_self text, by simpa using h⟩
  | text :: next :: texts, h => by
    rw [List.intercalate_cons_cons, List.append_assoc, List.singleton_append] at h
    rcases of_append noComma h with first | later
    · exact ⟨text, List.mem_cons_self, first⟩
    · obtain ⟨found, there, stands⟩ := of_join nonempty noComma (next :: texts) later
      exact ⟨found, List.mem_cons_of_mem text there, stands⟩

end Stands

/-! ## Names of an access list -/

theorem stands_of_join :
    ∀ {texts : List (List Char)}, piece ∈ texts → Stands piece ([','].intercalate texts)
  | [text], h => by
    obtain rfl := List.mem_singleton.mp h
    simpa using stands_self piece
  | text :: next :: texts, h => by
    rw [List.intercalate_cons_cons]
    rcases List.mem_cons.mp h with rfl | later
    · rw [List.append_assoc]
      exact (stands_self piece).append fun c first => .inl (Option.some.inj first).symm
    · refine (stands_of_join later).prepend fun c last => .inl ?_
      rw [List.getLast?_append] at last
      exact (Option.some.inj last).symm

theorem stands_of_piece (h : piece ∈ pieces ',' cs) : Stands piece cs := by
  rw [pieces_eq_splitOn] at h
  have stands := stands_of_join h
  rwa [List.intercalate_splitOn] at stands

theorem stands_of_readNames {name : String} (h : name ∈ readNames cs) : Stands name.toList cs := by
  obtain ⟨piece, found, trimmed, -⟩ := mem_readNames.mp h
  rw [← trimmed]
  exact (stands_of_piece found).trim

/-- Names behind a blank stand in the whole text. -/
theorem stands_behind_blank {name : String} (gap : ∀ c ∈ cs.head?, isBlank c = true)
    (h : name ∈ readNames cs) (front : List Char) : Stands name.toList (front ++ cs) := by
  cases cs with
  | nil =>
    rw [readNames_blank (by simp)] at h
    exact absurd h (PrincipalSet.not_mem_empty name)
  | cons c cs =>
    have blank : ∀ d ∈ [c], isBlank d = true := by simpa using gap c rfl
    rw [← List.singleton_append, readNames_append blank] at h
    rw [← List.singleton_append, ← List.append_assoc]
    refine (stands_of_readNames h).prepend fun d last => .inr ?_
    rw [List.getLast?_append] at last
    exact blank d (List.mem_singleton.mpr (Option.some.inj last).symm)

/-- A text goes on with a blank where its first run without blanks ends. -/
theorem isBlank_of_head (c : Char) (first : c ∈ (cs.dropWhile (!isBlank ·)).head?) :
    isBlank c = true := by
  have stopped := List.head?_dropWhile_not (!isBlank ·) cs
  rw [Option.mem_def.mp first] at stopped
  simpa using stopped

/-- All users and groups that are read from a text stand in it. -/
theorem stands_of_read {name : String}
    (h : name ∈ (Listing.read cs).users ∨ name ∈ (Listing.read cs).groups) :
    Stands name.toList cs := by
  by_cases everyone : trim isBlank cs = wildcard.toList
  · rw [Listing.read_wildcard everyone] at h
    obtain rfl : name = wildcard := by
      rcases h with user | group
      · exact List.mem_singleton.mp (PrincipalSet.mem_ofList.mp user)
      · exact absurd group (PrincipalSet.not_mem_empty name)
    rw [← everyone]
    exact (stands_self cs).trim
  · rw [Listing.read_eq everyone] at h
    rw [← List.takeWhile_append_dropWhile (p := (!isBlank ·)) (l := cs)]
    rcases h with user | group
    · exact (stands_of_readNames user).append fun c first => .inr (isBlank_of_head c first)
    · exact stands_behind_blank isBlank_of_head group _

/-! ## Pieces of an access list -/

/-- Two texts behind each other share the piece where they meet. -/
theorem pieces_append_pieces (sep : Char) (front back : List Char) : ∃ init last first rest,
    pieces sep front = init ++ [last] ∧ pieces sep back = first :: rest ∧
      pieces sep (front ++ back) = init ++ (last ++ first) :: rest := by
  induction front with
  | nil =>
    cases cut : pieces sep back with
    | nil => exact absurd cut (pieces_ne_nil sep back)
    | cons first rest => exact ⟨[], [], first, rest, rfl, rfl, cut⟩
  | cons c front ih =>
    obtain ⟨init, last, first, rest, ahead, behind, whole⟩ := ih
    rw [List.cons_append, pieces, pieces, ahead, whole]
    by_cases separates : c = sep
    · rw [if_pos separates, if_pos separates]
      exact ⟨[] :: init, last, first, rest, rfl, behind, rfl⟩
    · rw [if_neg separates, if_neg separates]
      cases init with
      | nil => exact ⟨[], c :: last, first, rest, rfl, behind, rfl⟩
      | cons other init => exact ⟨(c :: other) :: init, last, first, rest, rfl, behind, rfl⟩

theorem pieces_of_clean (clean : sep ∉ piece) : pieces sep piece = [piece] := by
  have whole : pieces sep (piece ++ []) = [piece ++ []] := pieces_append clean rfl
  rwa [List.append_nil] at whole

/-- A text without separators is a piece of every join of texts that it is one of. -/
theorem mem_pieces_join (clean : sep ∉ piece) :
    ∀ {texts : List (List Char)}, piece ∈ texts → piece ∈ pieces sep ([sep].intercalate texts)
  | [text], h => by
    obtain rfl := List.mem_singleton.mp h
    simp [pieces_of_clean clean]
  | text :: next :: texts, h => by
    rw [List.intercalate_cons_cons, List.append_assoc, List.singleton_append]
    obtain ⟨init, last, first, rest, ahead, behind, whole⟩ :=
      pieces_append_pieces sep text (sep :: [sep].intercalate (next :: texts))
    rw [pieces, if_pos rfl] at behind
    obtain ⟨rfl, rfl⟩ := List.cons.inj behind
    rw [whole, List.append_nil, List.append_cons, ← ahead]
    rcases List.mem_cons.mp h with rfl | later
    · rw [pieces_of_clean clean]
      exact List.mem_append_left _ (List.mem_singleton_self piece)
    · exact List.mem_append_right _ (mem_pieces_join clean later)

/-- A piece without blanks is a piece of the part for users or of the part for groups. -/
theorem mem_pieces_parts (clean : ∀ c ∈ piece, isBlank c = false) (h : piece ∈ pieces ',' cs) :
    piece ∈ pieces ',' (cs.takeWhile (!isBlank ·)) ∨
    piece ∈ pieces ',' (cs.dropWhile (!isBlank ·)) := by
  obtain ⟨init, last, first, rest, users, groups, whole⟩ :=
    pieces_append_pieces ',' (cs.takeWhile (!isBlank ·)) (cs.dropWhile (!isBlank ·))
  rw [List.takeWhile_append_dropWhile] at whole
  rw [whole] at h
  rcases List.mem_append.mp h with inUsers | h
  · exact .inl (users ▸ List.mem_append_left [last] inUsers)
  rcases List.mem_cons.mp h with meet | inGroups
  · cases behind : cs.dropWhile (!isBlank ·) with
    | nil =>
      rw [behind] at groups
      obtain ⟨rfl, -⟩ := List.cons.inj (groups.symm : first :: rest = [[]])
      rw [List.append_nil] at meet
      exact .inl (users ▸ meet ▸ List.mem_append_right init (List.mem_singleton_self _))
    | cons c groupText =>
      -- the piece would go on across the blank where the groups begin
      have blank : isBlank c = true := isBlank_of_head c (by rw [behind]; rfl)
      have noComma : ',' ∉ [c] := by
        intro comma
        obtain rfl := List.mem_singleton.mp comma
        exact Bool.noConfusion (blank.symm.trans isBlank_comma)
      obtain ⟨start, more, cut⟩ := List.exists_cons_of_ne_nil (pieces_ne_nil ',' groupText)
      rw [behind, ← List.singleton_append, pieces_append noComma cut] at groups
      obtain ⟨rfl, -⟩ := List.cons.inj groups
      have inside : c ∈ piece := meet ▸ List.mem_append_right last List.mem_cons_self
      exact Bool.noConfusion (blank.symm.trans (clean c inside))
  · exact .inr (groups ▸ List.mem_cons_of_mem first inGroups)

/-- A user name that is a piece of a text is read from it, be it as a user or as a group. -/
theorem mem_read_of_piece {name : String} (plain : IsUserName name)
    (h : name.toList ∈ pieces ',' cs) :
    name ∈ (Listing.read cs).users ∨ name ∈ (Listing.read cs).groups := by
  have trimmed : trim isBlank name.toList = name.toList := trim_eq_self plain.noBlank
  have read {part : List Char} (there : name.toList ∈ pieces ',' part) : name ∈ readNames part :=
    mem_readNames.mpr ⟨name.toList, there, trimmed, plain.nonempty⟩
  by_cases everyone : trim isBlank cs = wildcard.toList
  · have both := read h
    obtain ⟨front, back, blank, blank', whole⟩ := exists_eq_trim isBlank cs
    rw [whole, readNames_append_blank blank', readNames_append blank, everyone] at both
    rw [Listing.read_wildcard everyone]
    have same : readNames wildcard.toList = .ofList [wildcard] := by decide
    exact .inl (same ▸ both)
  · rw [Listing.read_eq everyone]
    exact (mem_pieces_parts plain.noBlank h).imp read read

end DagAccess.Acl
