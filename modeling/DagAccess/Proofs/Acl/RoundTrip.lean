import DagAccess.Proofs.Manager.WellFormed
import DagAccess.Proofs.Principal.Finite

/-!
# Written access lists are read back

Users and groups that are written one after the other are read as they were written, each name where
it first stands (`Listing.read_written_iff`). One text means something else than it was written for:
the wildcard behind blanks, as a group that stands alone, is read as the wildcard for all users. So
what was read from a text survives to be written and read again, but for that one listing
(`read_write_iff`). Both are said of the entries that options make for an action
(`options_written`).
-/

namespace DagAccess.Acl

open Text

variable {us gs : List String} {gap : String}

/-! ## Groups alone -/

theorem not_mem_of_blank {cs : List Char} (blank : ∀ c ∈ cs, isBlank c = true) : ',' ∉ cs :=
  fun comma => Bool.noConfusion (isBlank_comma.symm.trans (blank ',' comma))

/-- Only the wildcard is written like the wildcard. -/
theorem eq_of_trim_commaSeparated (groups : ∀ name ∈ gs, IsGroupName name)
    (alike : trim isBlank (commaSeparated gs).toList = wildcard.toList) : gs = [wildcard] := by
  -- the text is the wildcard among blanks, so it has no comma and one name at most
  have noComma : ',' ∉ (commaSeparated gs).toList := by
    obtain ⟨front, back, before, after, whole⟩ := exists_eq_trim isBlank (commaSeparated gs).toList
    rw [whole, alike]
    simp [not_mem_of_blank before, not_mem_of_blank after, wildcard]
  match gs with
  | [] => exact absurd alike (by decide)
  | [name] =>
    rw [commaSeparated, String.intercalate_singleton,
      (groups name List.mem_cons_self).trimmed] at alike
    rw [String.toList_inj.mp alike]
  | name :: other :: rest =>
    rw [commaSeparated_cons (List.cons_ne_nil other rest)] at noComma
    exact absurd (by simp) noComma

/-- A text that starts with a blank lists groups only. -/
theorem Listing.read_blank_append (apart : gap ≠ "") (blank : ∀ c ∈ gap.toList, isBlank c = true)
    {cs : List Char} (other : trim isBlank cs ≠ wildcard.toList) :
    Listing.read (gap.toList ++ cs) = ⟨∅, readNames cs⟩ := by
  have start : ∀ p : Char → Bool, (∀ c, p c = !isBlank c) →
      (gap.toList ++ cs).takeWhile p = [] ∧ (gap.toList ++ cs).dropWhile p = gap.toList ++ cs := by
    intro p opposite
    cases chars : gap.toList with
    | nil => exact absurd chars (by simpa using apart)
    | cons c rest =>
      have stop : ¬ p c = true := by simp [opposite, blank c (chars ▸ List.mem_cons_self)]
      exact ⟨List.takeWhile_cons_of_neg stop, List.dropWhile_cons_of_neg stop⟩
  obtain ⟨users, groups⟩ := start (!isBlank ·) fun _ => rfl
  rw [Listing.read_eq (by rwa [trim_append blank]), users, groups, readNames_append blank]
  rfl

theorem Listing.read_gap_wildcard (blank : ∀ c ∈ gap.toList, isBlank c = true) :
    Listing.read (gap ++ commaSeparated [wildcard]).toList = ⟨.ofList [wildcard], ∅⟩ := by
  refine Listing.read_wildcard ?_
  rw [String.toList_append, trim_append blank]
  decide

/-! ## Users and groups -/

/-- The text of users and groups: the groups stand behind a gap, if there are any. -/
def writtenText (gap : String) (us gs : List String) : String :=
  commaSeparated us ++ if gs = [] then "" else gap ++ commaSeparated gs

theorem Listing.write_eq (gap : String) (l : Listing) :
    l.write gap = writtenText gap l.users.toList l.groups.toList := by
  simp only [write, writtenText, PrincipalSet.isEmpty, List.isEmpty_iff]

/-- Users and groups are read as they were written, unless only the wildcard was, as a group. -/
theorem Listing.read_written_iff (users : ∀ name ∈ us, IsUserName name)
    (groups : ∀ name ∈ gs, IsGroupName name) (apart : gap ≠ "")
    (blank : ∀ c ∈ gap.toList, isBlank c = true) :
    Listing.read (writtenText gap us gs).toList = ⟨.ofList us, .ofList gs⟩ ↔
      ¬ (us = [] ∧ gs = [wildcard]) := by
  -- with users the text starts with a name, and nothing in it is special
  by_cases nobody : us = []
  · subst nobody
    have text : writtenText gap [] gs = if gs = [] then "" else gap ++ commaSeparated gs :=
      String.empty_append
    rw [text]
    by_cases empty : gs = []
    · subst empty
      exact iff_of_true rfl nofun
    · rw [if_neg empty]
      by_cases special : gs = [wildcard]
      · subst special
        rw [Listing.read_gap_wildcard blank]
        exact iff_of_false (by decide) (fun other => other ⟨rfl, rfl⟩)
      · have other : trim isBlank (commaSeparated gs).toList ≠ wildcard.toList :=
          mt (eq_of_trim_commaSeparated groups) special
        rw [String.toList_append, Listing.read_blank_append apart blank other,
          readNames_commaSeparated groups]
        exact iff_of_true rfl (fun both => special both.2)
  · exact iff_of_true (Listing.read_written nobody users groups apart blank)
      (fun both => nobody both.1)

/-- What was read from a text is written and read again as it was, unless it is the wildcard as the
only name, a group. -/
theorem Listing.read_write_iff (apart : gap ≠ "") (blank : ∀ c ∈ gap.toList, isBlank c = true)
    (cs : List Char) :
    Listing.read ((Listing.read cs).write gap).toList = Listing.read cs ↔
      Listing.read cs ≠ ⟨∅, .ofList [wildcard]⟩ := by
  have names := Listing.read_wellFormed cs
  generalize Listing.read cs = l at names
  obtain ⟨users, groups⟩ := l
  have again := Listing.read_written_iff names.users names.groups apart blank
  rw [PrincipalSet.ofList_toList, PrincipalSet.ofList_toList] at again
  rw [Listing.write_eq, again, Ne, Listing.mk.injEq]
  refine not_congr (and_congr ?_ ?_)
  · exact ⟨fun empty => PrincipalSet.eq_of_toList empty, fun same => same ▸ rfl⟩
  · exact ⟨fun single => PrincipalSet.eq_of_toList single, fun same => same ▸ rfl⟩

/-! ## Entries of options -/

/-- The entry that is made of names, none if there are none. -/
def entryOf (names : PrincipalSet) : Option PrincipalSet :=
  if names.isEmpty then none else some names

theorem entryOf_inj {s t : PrincipalSet} : entryOf s = entryOf t ↔ s = t := by
  refine ⟨fun same => ?_, congrArg entryOf⟩
  unfold entryOf at same
  split at same <;> split at same
  · next first second =>
    rw [PrincipalSet.eq_empty_of_isEmpty first, PrincipalSet.eq_empty_of_isEmpty second]
  · cases same
  · cases same
  · exact Option.some.inj same

theorem entryOf_ofList (names : List String) :
    (entryOf (.ofList names)).map (·.toList) = if names =
      [] then none else some names.eraseDups := by
  have empty : (PrincipalSet.ofList names).isEmpty = true ↔ names = [] := by
    rw [PrincipalSet.isEmpty_iff, List.eq_nil_iff_forall_not_mem]
    simp only [PrincipalSet.mem_ofList]
  unfold entryOf
  by_cases none : names = []
  · rw [if_pos (empty.mpr none), if_pos none]
    rfl
  · rw [if_neg (mt empty.mp none), if_neg none, Option.map_some, PrincipalSet.toList_ofList]

/-- Where no entry is without names, an action has an entry if it has names. -/
theorem find?_eq_entryOf {a : AllowList} {about : AclType → Prop} {kind : String → Prop}
    (filled : a.All fun t s => about t ∧ s.Filled kind) (t : AclType) :
    a.find? t = entryOf (a.principals t) := by
  unfold AllowList.principals
  cases found : a.find? t with
  | none => rfl
  | some s =>
    have nonempty := (filled _ (Assoc.mem_of_lookup found)).2.nonempty
    exact (if_neg (mt List.isEmpty_iff.mp nonempty)).symm

/-- Options make the entries of what the option of an action lists. -/
theorem find?_readGrants (conf : Options) (t : AclType) :
    (readGrants t.scope conf).users.find? t = entryOf (listed conf t).users ∧
    (readGrants t.scope conf).groups.find? t = entryOf (listed conf t).groups := by
  have filled := readGrants_wellFormed t.scope conf
  have listing := listing_readGrants t.scope conf t
  rw [if_pos rfl] at listing
  rw [find?_eq_entryOf filled.users, find?_eq_entryOf filled.groups, ← listing]
  exact ⟨rfl, rfl⟩

theorem listed_of_lookup {conf : Options} {t : AclType} {text : String}
    (given : conf.lookup t.option = some text) : listed conf t = Listing.read text.toList := by
  rw [listed, given]

/-- **Reading undoes writing.** Users and groups that were written are the entries of the option,
each name where it first stands; what a text lists is the same after it was written again. The
exception is the wildcard as the only name, a group: it is read as the wildcard for all users. -/
theorem options_written (t : AclType) (apart : gap ≠ "")
    (blank : ∀ c ∈ gap.toList, isBlank c = true) :
    (∀ (us gs : List String) (conf : Options), (∀ name ∈ us, IsUserName name) →
      (∀ name ∈ gs, IsGroupName name) → ¬ (us = [] ∧ gs = [wildcard]) →
      conf.lookup t.option =
        some (commaSeparated us ++ if gs = [] then "" else gap ++ commaSeparated gs) →
      ((readGrants t.scope conf).users.find? t).map (·.toList) =
          (if us = [] then none else some us.eraseDups) ∧
        ((readGrants t.scope conf).groups.find? t).map (·.toList) =
          (if gs = [] then none else some gs.eraseDups)) ∧
    (∀ (text : String) (conf again : Options), conf.lookup t.option = some text →
      again.lookup t.option = some (((readGrants t.scope conf).listing t).write gap) →
      ((readGrants t.scope again).users.find? t = (readGrants t.scope conf).users.find? t ∧
          (readGrants t.scope again).groups.find? t = (readGrants t.scope conf).groups.find? t ↔
        ¬ ((readGrants t.scope conf).users.find? t = none ∧
          (readGrants t.scope conf).groups.find? t = some (.ofList [wildcard])))) := by
  constructor
  · intro us gs conf users groups ordinary given
    have read := (Listing.read_written_iff users groups apart blank).mpr ordinary
    have listing : listed conf t = ⟨.ofList us, .ofList gs⟩ := (listed_of_lookup given).trans read
    rw [(find?_readGrants conf t).1, (find?_readGrants conf t).2, listing, entryOf_ofList,
      entryOf_ofList]
    exact ⟨rfl, rfl⟩
  · intro text conf again given written
    have listing := listing_readGrants t.scope conf t
    rw [if_pos rfl, listed_of_lookup given] at listing
    rw [listing] at written
    -- entries are the same exactly if the names are, so the law of listings decides
    have none : (none : Option PrincipalSet) = entryOf ∅ := rfl
    have group : some (PrincipalSet.ofList [wildcard]) = entryOf (.ofList [wildcard]) := rfl
    rw [(find?_readGrants conf t).1, (find?_readGrants conf t).2, (find?_readGrants again t).1,
      (find?_readGrants again t).2, listed_of_lookup given, listed_of_lookup written, none, group,
      entryOf_inj, entryOf_inj, entryOf_inj, entryOf_inj, ← Listing.mk.injEq, ← Listing.mk.injEq]
    exact Listing.read_write_iff apart blank text.toList

theorem options_written_repeated :
    (" \t" ≠ "" ∧ (∀ c ∈ " \t".toList, isBlank c = true)) ∧
    ((∀ name ∈ ["bob", "alice", "bob"], IsUserName name) ∧
      (∀ name ∈ ["etl team", "*"], IsGroupName name)) ∧
    (((readGrants .am [("view_acls", "bob,alice,bob \tetl team,*")]).users.find? .amView).map
      (·.toList) =
        some ["bob", "alice"] ∧
      ((readGrants .am [("view_acls", "bob,alice,bob \tetl team,*")]).groups.find? .amView).map
        (·.toList) = some ["etl team", "*"]) ∧
    ¬ ((readGrants .am [("view_acls", " \t*")]).users.find? .amView =
          (readGrants .am [("view_acls", " *,*")]).users.find? .amView ∧
        (readGrants .am [("view_acls", " \t*")]).groups.find? .amView =
          (readGrants .am [("view_acls", " *,*")]).groups.find? .amView) := by
  have apart : " \t" ≠ "" := by decide
  have blank : ∀ c ∈ " \t".toList, isBlank c = true := List.all_eq_true.mp (by decide)
  have user : ∀ name ∈ ["bob", "alice", "bob"], IsUserName name := by decide
  have group : ∀ name ∈ ["etl team", "*"], IsGroupName name := by decide
  obtain ⟨written, again⟩ := options_written .amView apart blank
  refine ⟨⟨apart, blank⟩, ⟨user, group⟩, ?_, ?_⟩
  · exact written ["bob", "alice", "bob"] ["etl team", "*"] _ user group (by decide) (by decide)
  · have kept :=
      again " *,*" [("view_acls", " *,*")] [("view_acls", " \t*")] (by decide) (by decide +kernel)
    exact mt kept.mp (not_not_intro (by decide +kernel))

end DagAccess.Acl
