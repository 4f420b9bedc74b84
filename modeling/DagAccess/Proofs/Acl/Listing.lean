import DagAccess.Acl.Listing
import DagAccess.Proofs.Principal
import DagAccess.Proofs.Text.Pieces
import Mathlib.Data.List.TakeDrop

/-!
# Reading what was written

A name that stands in an access list has no comma and no blank at its ends, as a group name may
have, or no blank at all, as a user name. Names between commas are read back as they were written
(`readNames_commaSeparated`), and a text that starts with user names is cut behind them, so users
and groups are read back together (`Listing.read_written`). All names that are read from a text are
of these forms (`Listing.read_wellFormed`).
-/

namespace DagAccess.Acl

open Text

/-- A name that can be written among groups. -/
structure IsGroupName (name : String) : Prop where
  nonempty : name ≠ ""
  noComma : ',' ∉ name.toList
  trimmed : trim isBlank name.toList = name.toList

/-- A name that can be written among users. -/
structure IsUserName (name : String) : Prop where
  nonempty : name ≠ ""
  noComma : ',' ∉ name.toList
  noBlank : ∀ c ∈ name.toList, isBlank c = false

instance (name : String) : Decidable (IsGroupName name) :=
  decidable_of_iff (name ≠ "" ∧ ',' ∉ name.toList ∧ trim isBlank name.toList = name.toList)
    ⟨fun ⟨nonempty, noComma, trimmed⟩ => ⟨nonempty, noComma, trimmed⟩,
      fun ⟨nonempty, noComma, trimmed⟩ => ⟨nonempty, noComma, trimmed⟩⟩

instance (name : String) : Decidable (IsUserName name) :=
  decidable_of_iff (name ≠ "" ∧ ',' ∉ name.toList ∧ name.toList.all (!isBlank ·) = true)
    ⟨fun ⟨nonempty, noComma, noBlank⟩ => ⟨nonempty, noComma, by simpa using noBlank⟩,
      fun ⟨nonempty, noComma, noBlank⟩ => ⟨nonempty, noComma, by simpa using noBlank⟩⟩

theorem IsUserName.isGroupName {name : String} (h : IsUserName name) : IsGroupName name :=
  ⟨h.nonempty, h.noComma, trim_eq_self h.noBlank⟩

theorem wildcard_isUserName : IsUserName wildcard := by
  refine ⟨by decide, by decide, ?_⟩
  intro c hc
  obtain rfl := List.mem_singleton.mp hc
  rfl

theorem isBlank_comma : isBlank ',' = false := by decide

/-! ## Names between commas -/

theorem commaSeparated_toList (names : List String) :
    (commaSeparated names).toList = [','].intercalate (names.map String.toList) := by
  rw [commaSeparated, String.toList_intercalate]
  rfl

theorem commaSeparated_cons {name : String} {names : List String} (h : names ≠ []) :
    commaSeparated (name :: names) = name ++ "," ++ commaSeparated names :=
  String.intercalate_cons_of_ne_nil h

/-- Names that have characters give a text that has some. -/
theorem commaSeparated_eq_empty_iff {names : List String} (h : ∀ name ∈ names, name ≠ "") :
    commaSeparated names = "" ↔ names = [] := by
  cases names with
  | nil => simp [commaSeparated]
  | cons name rest =>
    have first := h name List.mem_cons_self
    by_cases last : rest = []
    · simp [last, commaSeparated, first]
    · simp [commaSeparated_cons last, first]

/-- One more name comes with a separator where there are others. -/
theorem append_commaSeparated (name : String) {names : List String}
    (h : ∀ name ∈ names, name ≠ "") :
    name ++ (if commaSeparated names = "" then "" else "," ++ commaSeparated names) =
      commaSeparated (name :: names) := by
  by_cases last : names = []
  · simp [last, commaSeparated]
  · rw [if_neg (mt (commaSeparated_eq_empty_iff h).mp last), commaSeparated_cons last,
      String.append_assoc]

/-- The text of user names has no blanks. -/
theorem commaSeparated_noBlank {names : List String} (h : ∀ name ∈ names, IsUserName name) :
    ∀ c ∈ (commaSeparated names).toList, isBlank c = false := by
  induction names with
  | nil => simp [commaSeparated]
  | cons name rest ih =>
    have first := (h name List.mem_cons_self).noBlank
    by_cases last : rest = []
    · rw [last, commaSeparated, String.intercalate_singleton]
      exact first
    · intro c hc
      rw [commaSeparated_cons last, String.toList_append, String.toList_append,
        List.append_assoc] at hc
      rcases List.mem_append.mp hc with inName | hc
      · exact first c inName
      · rcases List.mem_cons.mp hc with rfl | later
        · exact isBlank_comma
        · exact ih (fun n hn => h n (List.mem_cons_of_mem name hn)) c later

theorem readNames_eq (cs : List Char) :
    readNames cs =
      .ofList ((((pieces ',' cs).map (trim isBlank)).filter (· ≠ [])).map String.ofList) :=
  rfl

/-- Group names are read as they were written. -/
theorem readNames_commaSeparated {names : List String} (h : ∀ name ∈ names, IsGroupName name) :
    readNames (commaSeparated names).toList = .ofList names := by
  by_cases empty : names = []
  · rw [empty]
    decide
  · have clean : ∀ text ∈ names.map String.toList, ',' ∉ text := by
      intro text ht
      obtain ⟨name, hn, rfl⟩ := List.mem_map.mp ht
      exact (h name hn).noComma
    have trimmed : (names.map String.toList).map (trim isBlank) = names.map String.toList := by
      rw [List.map_map]
      exact List.map_congr_left fun name hn => (h name hn).trimmed
    have kept : (names.map String.toList).filter (· ≠ []) = names.map String.toList := by
      rw [List.filter_eq_self]
      intro text ht
      obtain ⟨name, hn, rfl⟩ := List.mem_map.mp ht
      simpa using (h name hn).nonempty
    rw [readNames_eq, commaSeparated_toList, pieces_eq_splitOn,
      List.splitOn_intercalate ',' clean (by simpa using empty), trimmed, kept, List.map_map]
    congr 1
    exact (List.map_congr_left fun name _ => String.ofList_toList).trans (List.map_id names)

/-- Blanks in front of names do not matter. -/
theorem readNames_append {gap : List Char} (blank : ∀ c ∈ gap, isBlank c = true) (cs : List Char) :
    readNames (gap ++ cs) = readNames cs := by
  have noComma : ',' ∉ gap := fun h => Bool.noConfusion (isBlank_comma.symm.trans (blank ',' h))
  cases cut : pieces ',' cs with
  | nil => exact absurd cut (pieces_ne_nil ',' cs)
  | cons first rest =>
    rw [readNames_eq, readNames_eq, pieces_append noComma cut, cut, List.map_cons, List.map_cons,
      trim_append blank]

theorem readNames_dropWhile_blank (cs : List Char) :
    readNames (cs.dropWhile isBlank) = readNames cs := by
  have gap : ∀ c ∈ cs.takeWhile isBlank, isBlank c = true := fun c hc => List.mem_takeWhile_imp hc
  rw [← readNames_append gap, List.takeWhile_append_dropWhile]

/-- Blanks behind names do not matter. -/
theorem readNames_append_blank {back : List Char} (blank : ∀ c ∈ back, isBlank c = true)
    (cs : List Char) : readNames (cs ++ back) = readNames cs := by
  have noComma : ',' ∉ back := fun h => Bool.noConfusion (isBlank_comma.symm.trans (blank ',' h))
  obtain ⟨init, last, short, long⟩ := pieces_append_right noComma cs
  rw [readNames_eq, readNames_eq, long, short, List.map_append, List.map_append, List.map_singleton,
    List.map_singleton, trim_append_right blank]

/-- No names are read from blanks. -/
theorem readNames_blank {cs : List Char} (blank : ∀ c ∈ cs, isBlank c = true) :
    readNames cs = ∅ := by
  rw [← List.append_nil cs, readNames_append blank]
  decide

/-- A name that is read is a trimmed piece of the text. -/
theorem mem_readNames {name : String} {cs : List Char} :
    name ∈ readNames cs ↔ ∃ piece ∈ pieces ',' cs, trim isBlank piece = name.toList ∧
    name ≠ "" := by
  rw [readNames_eq, PrincipalSet.mem_ofList, List.mem_map]
  simp only [List.mem_filter, List.mem_map, decide_eq_true_eq]
  constructor
  · rintro ⟨text, ⟨⟨piece, hp, trimmed⟩, nonempty⟩, rfl⟩
    refine ⟨piece, hp, ?_, ?_⟩
    · rw [trimmed, String.toList_ofList]
    · simpa using nonempty
  · rintro ⟨piece, hp, trimmed, nonempty⟩
    refine ⟨name.toList, ⟨⟨piece, hp, trimmed⟩, ?_⟩, String.ofList_toList⟩
    simpa using nonempty

theorem readNames_isGroupName {name : String} {cs : List Char} (h : name ∈ readNames cs) :
    IsGroupName name := by
  obtain ⟨piece, hp, trimmed, nonempty⟩ := mem_readNames.mp h
  refine ⟨nonempty, ?_, ?_⟩
  · intro comma
    rw [← trimmed] at comma
    exact (mem_piece hp (mem_of_mem_trim comma)).1 rfl
  · rw [← trimmed, trim_trim]

/-- From a text without blanks only user names are read. -/
theorem readNames_isUserName {name : String} {cs : List Char}
    (noBlank : ∀ c ∈ cs, isBlank c = false) (h : name ∈ readNames cs) : IsUserName name := by
  obtain ⟨nonempty, noComma, -⟩ := readNames_isGroupName h
  obtain ⟨piece, hp, trimmed, -⟩ := mem_readNames.mp h
  refine ⟨nonempty, noComma, ?_⟩
  intro c hc
  rw [← trimmed] at hc
  exact noBlank c (mem_piece hp (mem_of_mem_trim hc)).2

/-! ## Access lists -/

/-- A text that is not the wildcard among blanks is cut at its first blank. -/
theorem Listing.read_eq {cs : List Char} (h : trim isBlank cs ≠ wildcard.toList) :
    Listing.read cs =
      ⟨readNames (cs.takeWhile (!isBlank ·)), readNames (cs.dropWhile (!isBlank ·))⟩ := by
  unfold Listing.read
  by_cases blank : ∀ c ∈ cs, isBlank c = true
  · have users : cs.takeWhile (!isBlank ·) = [] := by
      cases cs with
      | nil => rfl
      | cons c rest => exact List.takeWhile_cons_of_neg (by simp [blank c List.mem_cons_self])
    have groups : ∀ c ∈ cs.dropWhile (!isBlank ·), isBlank c = true :=
      fun c hc => blank c (List.dropWhile_subset _ hc)
    rw [if_pos (List.all_eq_true.mpr blank), users, readNames_blank groups]
    rfl
  · rw [if_neg (mt List.all_eq_true.mp blank), if_neg h]
    simp only [List.span_eq_takeWhile_dropWhile]
    -- neither the blanks at the end nor those between users and groups matter to the names
    obtain ⟨back, ended, whole⟩ := exists_eq_trimRight isBlank cs
    have first : ∀ c ∈ back.head?, (!isBlank c) = false :=
      fun c hc => by simp [ended c (List.mem_of_mem_head? hc)]
    have cut := takeWhile_append_of_head first (trimRight isBlank cs)
    rw [← whole] at cut
    rw [cut.1, cut.2, readNames_append_blank ended, readNames_dropWhile_blank]

theorem Listing.read_wildcard {cs : List Char} (h : trim isBlank cs = wildcard.toList) :
    Listing.read cs = ⟨.ofList [wildcard], ∅⟩ := by
  have notBlank : ¬ ∀ c ∈ cs, isBlank c = true := by
    intro blank
    rw [← trim_eq_nil_iff, h] at blank
    exact absurd blank (by decide)
  rw [Listing.read, if_neg (mt List.all_eq_true.mp notBlank), if_pos h]

/-- Where nothing but blanks stands around the wildcard, what has no blanks is the wildcard. -/
theorem eq_wildcard_of_append {us gs front back : List Char} (ne : us ≠ [])
    (users : ∀ c ∈ us, isBlank c = false) (before : ∀ c ∈ front, isBlank c = true)
    (after : ∀ c ∈ back, isBlank c = true) (whole : us ++ gs = front ++ wildcard.toList ++ back) :
    us = wildcard.toList ∧ gs = back := by
  cases us with
  | nil => exact absurd rfl ne
  | cons c rest =>
    have first := users c List.mem_cons_self
    cases front with
    | cons b front =>
      obtain ⟨rfl, -⟩ := List.cons.inj whole
      exact Bool.noConfusion (first.symm.trans (before c List.mem_cons_self))
    | nil =>
      obtain ⟨rfl, same⟩ := List.cons.inj whole
      replace same : rest ++ gs = back := same
      cases rest with
      | nil => exact ⟨rfl, same⟩
      | cons d rest =>
        have blank : isBlank d = true := after d (same ▸ List.mem_cons_self)
        have clean := users d (List.mem_cons_of_mem _ List.mem_cons_self)
        exact Bool.noConfusion (clean.symm.trans blank)

/-- A text that starts with something else than blanks is cut behind that. -/
theorem Listing.read_append {us gs : List Char} (ne : us ≠ [])
    (users : ∀ c ∈ us, isBlank c = false) (groups : ∀ c ∈ gs.head?, isBlank c = true) :
    Listing.read (us ++ gs) = ⟨readNames us, readNames gs⟩ := by
  have clean : ∀ c ∈ us, (!isBlank c) = true := fun c hc => by simp [users c hc]
  have first : ∀ c ∈ gs.head?, (!isBlank c) = false := fun c hc => by simp [groups c hc]
  have cut := takeWhile_append_of_head first us
  by_cases everyone : trim isBlank (us ++ gs) = wildcard.toList
  · -- the text is the wildcard and blanks: both ways of reading agree
    obtain ⟨front, back, before, after, whole⟩ := exists_eq_trim isBlank (us ++ gs)
    rw [everyone] at whole
    obtain ⟨rfl, rfl⟩ := eq_wildcard_of_append ne users before after whole
    rw [Listing.read_wildcard everyone, readNames_blank after]
    rfl
  · rw [Listing.read_eq everyone, cut.1, cut.2, List.takeWhile_eq_self_iff.mpr clean,
      List.dropWhile_eq_nil_iff.mpr clean, List.nil_append]

/-- A listing of names that can be written. -/
structure Listing.WellFormed (l : Listing) : Prop where
  users : ∀ name ∈ l.users, IsUserName name
  groups : ∀ name ∈ l.groups, IsGroupName name

theorem Listing.empty_wellFormed : Listing.WellFormed ⟨∅, ∅⟩ :=
  ⟨fun name h => absurd h (PrincipalSet.not_mem_empty name),
    fun name h => absurd h (PrincipalSet.not_mem_empty name)⟩

/-- The names that are read from a text can be written. -/
theorem Listing.read_wellFormed (cs : List Char) : (Listing.read cs).WellFormed := by
  by_cases everyone : trim isBlank cs = wildcard.toList
  · rw [Listing.read_wildcard everyone]
    refine ⟨?_, fun name h => absurd h (PrincipalSet.not_mem_empty name)⟩
    intro name h
    rw [PrincipalSet.mem_ofList, List.mem_singleton] at h
    rw [h]
    exact wildcard_isUserName
  · rw [Listing.read_eq everyone]
    constructor
    · exact fun name h =>
        readNames_isUserName (fun c hc => by simpa using List.mem_takeWhile_imp hc) h
    · exact fun name h => readNames_isGroupName h

/-- Users and groups are read as they were written, if there are users. -/
theorem Listing.read_written {us gs : List String} (ne : us ≠ [])
    (users : ∀ name ∈ us, IsUserName name) (groups : ∀ name ∈ gs, IsGroupName name) {gap : String}
    (apart : gap ≠ "") (blank : ∀ c ∈ gap.toList, isBlank c = true) :
    Listing.read (commaSeparated us ++ if gs = [] then "" else gap ++ commaSeparated gs).toList =
      ⟨.ofList us, .ofList gs⟩ := by
  have first : (commaSeparated us).toList ≠ [] := by
    have nonempty := (commaSeparated_eq_empty_iff fun name h => (users name h).nonempty).not.mpr ne
    simpa using nonempty
  have usersRead := readNames_commaSeparated fun name h => (users name h).isGroupName
  rw [String.toList_append]
  by_cases empty : gs = []
  · rw [if_pos empty, Listing.read_append first (commaSeparated_noBlank users) (by simp),
      usersRead, empty, readNames_blank (by simp)]
    rfl
  · have start : ∀ c ∈ (gap.toList ++ (commaSeparated gs).toList).head?, isBlank c = true := by
      cases chars : gap.toList with
      | nil => exact absurd chars (by simpa using apart)
      | cons c rest => simpa using blank c (chars ▸ List.mem_cons_self)
    rw [if_neg empty, String.toList_append,
      Listing.read_append first (commaSeparated_noBlank users) start, usersRead,
      readNames_append blank, readNames_commaSeparated groups]

end DagAccess.Acl
