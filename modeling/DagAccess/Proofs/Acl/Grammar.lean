import DagAccess.Proofs.Acl.RoundTrip

/-!
# The grammar of access lists

What a text lists is said here without the way it is read: a text is blank, or it is the wildcard,
or it is cut behind the longest run without blanks that it starts with (`Cut`), and names stand
between commas on both sides (`Lists`). Every text lists one thing, the one that is read from it
(`lists_iff_read`). So options grant what their texts list, and nothing else in a configuration
matters (`readGrants_follow_grammar`).
-/

namespace DagAccess.Acl

open Text

/-! ## Texts and their parts -/

/-- A text is cut behind the longest run without blanks that it starts with. -/
structure Cut (text users rest : List Char) : Prop where
  whole : text = users ++ rest
  clean : ∀ c ∈ users, isBlank c = false
  longest : ∀ c ∈ rest.head?, isBlank c = true

theorem cut_iff {text users rest : List Char} : Cut text users rest ↔
    users = text.takeWhile (!isBlank ·) ∧ rest = text.dropWhile (!isBlank ·) := by
  constructor
  · rintro ⟨rfl, clean, longest⟩
    have first : ∀ c ∈ rest.head?, (!isBlank c) = false := fun c hc => by simp [longest c hc]
    have every : ∀ c ∈ users, (!isBlank c) = true := fun c hc => by simp [clean c hc]
    have cut := takeWhile_append_of_head first users
    rw [cut.1, cut.2, List.takeWhile_eq_self_iff.mpr every, List.dropWhile_eq_nil_iff.mpr every]
    exact ⟨rfl, rfl⟩
  · rintro ⟨rfl, rfl⟩
    refine ⟨List.takeWhile_append_dropWhile.symm, ?_, ?_⟩
    · exact fun c hc => by simpa using List.mem_takeWhile_imp hc
    · intro c hc
      have stopped := List.head?_dropWhile_not (!isBlank ·) text
      rw [Option.mem_def.mp hc] at stopped
      simpa using stopped

theorem cut_self (text : List Char) :
    Cut text (text.takeWhile (!isBlank ·)) (text.dropWhile (!isBlank ·)) :=
  cut_iff.mpr ⟨rfl, rfl⟩

/-- The non-empty pieces between commas. -/
def userNames (cs : List Char) : List String :=
  ((cs.splitOn ',').filter (· ≠ [])).map String.ofList

/-- The non-blank pieces between commas, without the blanks around them. -/
def groupNames (cs : List Char) : List String :=
  (((cs.splitOn ',').map (trim isBlank)).filter (· ≠ [])).map String.ofList

/-- Users and groups that a text lists, each name where it first stands. -/
inductive Lists (text : List Char) : List String → List String → Prop
  | nobody (blank : ∀ c ∈ text, isBlank c = true) : Lists text [] []
  | everybody (alone : trim isBlank text = wildcard.toList) : Lists text [wildcard] []
  | names {users rest : List Char} (cut : Cut text users rest)
      (written : ¬ ∀ c ∈ text, isBlank c = true) (other : trim isBlank text ≠ wildcard.toList) :
      Lists text (userNames users).eraseDups (groupNames rest).eraseDups

/-! ## Reading finds what is listed -/

variable {text users rest : List Char} {us gs : List String}

theorem readNames_eq_groupNames (cs : List Char) : readNames cs = .ofList (groupNames cs) := by
  rw [readNames_eq, pieces_eq_splitOn]
  rfl

/-- Where no blanks stand there is nothing to trim. -/
theorem groupNames_eq_userNames (clean : ∀ c ∈ users, isBlank c = false) :
    groupNames users = userNames users := by
  have same : (users.splitOn ',').map (trim isBlank) = users.splitOn ',' := by
    refine (List.map_congr_left fun piece hp => trim_eq_self fun c hc => ?_).trans (List.map_id _)
    rw [← pieces_eq_splitOn] at hp
    exact clean c (mem_piece hp hc).2
  rw [groupNames, same, userNames]

/-- What a text lists is read from it. -/
theorem Lists.read (h : Lists text us gs) :
    (Listing.read text).users.toList = us ∧ (Listing.read text).groups.toList = gs := by
  cases h with
  | nobody blank =>
    rw [Listing.read, if_pos (List.all_eq_true.mpr blank)]
    exact ⟨rfl, rfl⟩
  | everybody alone =>
    rw [Listing.read_wildcard alone]
    exact ⟨rfl, rfl⟩
  | names cut _ other =>
    have clean := cut.clean
    obtain ⟨rfl, rfl⟩ := cut_iff.mp cut
    rw [Listing.read_eq other, readNames_eq_groupNames, readNames_eq_groupNames,
      PrincipalSet.toList_ofList, PrincipalSet.toList_ofList, groupNames_eq_userNames clean]
    exact ⟨rfl, rfl⟩

theorem exists_lists (text : List Char) : ∃ us gs, Lists text us gs := by
  by_cases blank : ∀ c ∈ text, isBlank c = true
  · exact ⟨_, _, .nobody blank⟩
  · by_cases alone : trim isBlank text = wildcard.toList
    · exact ⟨_, _, .everybody alone⟩
    · exact ⟨_, _, .names (cut_self text) blank alone⟩

/-- Every text lists one thing, the one that is read from it. -/
theorem lists_iff_read : Lists text us gs ↔
    us = (Listing.read text).users.toList ∧ gs = (Listing.read text).groups.toList := by
  constructor
  · intro lists
    obtain ⟨users, groups⟩ := lists.read
    exact ⟨users.symm, groups.symm⟩
  · rintro ⟨rfl, rfl⟩
    obtain ⟨us, gs, lists⟩ := exists_lists text
    obtain ⟨users, groups⟩ := lists.read
    rwa [users, groups]

/-- Every user is listed where the wildcard stands alone or between the commas in front. -/
theorem wildcard_mem_read (cut : Cut text users rest) :
    wildcard ∈ (Listing.read text).users ↔
      trim isBlank text = wildcard.toList ∨ wildcard.toList ∈ users.splitOn ',' := by
  by_cases alone : trim isBlank text = wildcard.toList
  · rw [Listing.read_wildcard alone]
    exact iff_of_true (by decide) (.inl alone)
  · have listed : wildcard ∈ userNames users ↔ wildcard.toList ∈ users.splitOn ',' := by
      have nonempty : wildcard.toList ≠ [] := by decide
      rw [userNames, List.mem_map]
      constructor
      · rintro ⟨piece, hp, same⟩
        rw [← same, String.toList_ofList]
        exact (List.mem_filter.mp hp).1
      · exact fun hp => ⟨_, List.mem_filter.mpr ⟨hp, decide_eq_true nonempty⟩, String.ofList_toList⟩
    have clean := cut.clean
    obtain ⟨rfl, rfl⟩ := cut_iff.mp cut
    rw [Listing.read_eq alone, readNames_eq_groupNames, PrincipalSet.mem_ofList,
      groupNames_eq_userNames clean, listed]
    exact ⟨.inr, fun either => either.resolve_left alone⟩

/-! ## What options grant -/

/-- The entry that is made of listed names, none if nothing is listed. -/
def entryFor (names : List String) : Option (List String) :=
  if names = [] then none else some names

theorem entryOf_toList (names : PrincipalSet) :
    (entryOf names).map (·.toList) = entryFor names.toList := by
  simp only [entryOf, entryFor, PrincipalSet.isEmpty, List.isEmpty_iff]
  split <;> rfl

/-- Nothing is granted for the actions of the other scope. -/
theorem find?_readGrants_other {scope : Scope} {t : AclType} (other : t.scope ≠ scope)
    (conf : Options) :
    (readGrants scope conf).users.find? t = none ∧
    (readGrants scope conf).groups.find? t = none := by
  have filled := readGrants_wellFormed scope conf
  have listing := listing_readGrants scope conf t
  rw [if_neg other] at listing
  have users : (readGrants scope conf).users.principals t = ∅ := congrArg Listing.users listing
  have groups : (readGrants scope conf).groups.principals t = ∅ := congrArg Listing.groups listing
  rw [find?_eq_entryOf filled.users, find?_eq_entryOf filled.groups, users, groups]
  exact ⟨rfl, rfl⟩

/-- Only the options of a scope matter to what is granted. -/
theorem readGrants_congr {scope : Scope} {conf other : Options}
    (same : ∀ t : AclType, t.scope = scope → other.lookup t.option = conf.lookup t.option) :
    readGrants scope other = readGrants scope conf := by
  rw [readGrants_eq_foldl, readGrants_eq_foldl]
  refine List.foldl_ext _ _ _ fun g t ht => ?_
  have about : t.scope = scope := by revert ht; cases scope <;> cases t <;> decide
  rw [enterOption, enterOption, same t about]

/-- **Options grant what the grammar says.** For each action of the scope there is an entry of the
users and one of the groups that the text of its option lists, none where the text lists nobody or
the option is not set; every user is among the users only by a wildcard that stands alone or between
the commas in front. The other actions have no entries, and nothing else in the configuration
matters. -/
theorem readGrants_follow_grammar (scope : Scope) (conf : Options) :
    (∀ t : AclType, t.scope = scope →
      (conf.lookup t.option = none →
        (readGrants scope conf).users.find? t = none ∧
          (readGrants scope conf).groups.find? t = none) ∧
      (∀ text, conf.lookup t.option = some text →
        (∃ us gs, Lists text.toList us gs) ∧
        (∀ us gs, Lists text.toList us gs →
          ((readGrants scope conf).users.find? t).map (·.toList) = entryFor us ∧
          ((readGrants scope conf).groups.find? t).map (·.toList) = entryFor gs) ∧
        (∃ users rest, Cut text.toList users rest ∧
          (wildcard ∈ (readGrants scope conf).users.principals t ↔
            trim isBlank text.toList = wildcard.toList ∨ wildcard.toList ∈ users.splitOn ',')))) ∧
    (∀ t : AclType, t.scope ≠ scope →
      (readGrants scope conf).users.find? t = none ∧
        (readGrants scope conf).groups.find? t = none) ∧
    (∀ other : Options,
      (∀ t : AclType, t.scope = scope → other.lookup t.option = conf.lookup t.option) →
      readGrants scope other = readGrants scope conf) := by
  refine ⟨?_, fun t other => find?_readGrants_other other conf, fun other => readGrants_congr⟩
  rintro t rfl
  obtain ⟨users, groups⟩ := find?_readGrants conf t
  constructor
  · intro unset
    rw [users, groups, listed, unset]
    exact ⟨rfl, rfl⟩
  · intro text given
    rw [listed_of_lookup given] at users groups
    refine ⟨exists_lists text.toList, ?_, ?_⟩
    · intro us gs lists
      obtain ⟨rfl, rfl⟩ := lists_iff_read.mp lists
      rw [users, groups, entryOf_toList, entryOf_toList]
      exact ⟨rfl, rfl⟩
    · have principals : (readGrants t.scope conf).users.principals t =
          (Listing.read text.toList).users := by
        have listing := listing_readGrants t.scope conf t
        rw [if_pos rfl, listed_of_lookup given] at listing
        exact congrArg Listing.users listing
      rw [principals]
      exact ⟨_, _, cut_self text.toList, wildcard_mem_read (cut_self text.toList)⟩

/-- A text with stray commas and blanks of several kinds, and a wildcard in both scopes. -/
def untidyOptions : Options :=
  [("view_acls", ",alice,*,,alice\u00a0eng , ,\u2003 ops team,eng "), ("dag_view_acls", "*")]

theorem readGrants_follow_grammar_untidy :
    untidyOptions.lookup AclType.amView.option =
      some ",alice,*,,alice\u00a0eng , ,\u2003 ops team,eng " ∧
    Lists ",alice,*,,alice\u00a0eng , ,\u2003 ops team,eng ".toList ["alice",
      "*"] ["eng", "ops team"] ∧
    ((readGrants .am untidyOptions).users.find? .amView).map (·.toList) = some ["alice", "*"] ∧
    ((readGrants .am untidyOptions).groups.find? .amView).map (·.toList) =
      some ["eng", "ops team"] ∧
    (readGrants .am untidyOptions).users.find? .amModify = none ∧
    (readGrants .am untidyOptions).users.find? .dagView = none := by
  have given : untidyOptions.lookup AclType.amView.option =
      some ",alice,*,,alice\u00a0eng , ,\u2003 ops team,eng " := by decide
  have lists : Lists ",alice,*,,alice\u00a0eng , ,\u2003 ops team,eng ".toList
      ["alice", "*"] ["eng", "ops team"] := by
    have cut : Cut ",alice,*,,alice\u00a0eng , ,\u2003 ops team,eng ".toList
        ",alice,*,,alice".toList "\u00a0eng , ,\u2003 ops team,eng ".toList :=
      cut_iff.mpr ⟨by decide, by decide⟩
    have written : ¬ ∀ c ∈ ",alice,*,,alice\u00a0eng , ,\u2003 ops team,eng ".toList,
        isBlank c = true :=
      fun blank => absurd (blank ',' (by decide)) (by decide)
    have users : (userNames ",alice,*,,alice".toList).eraseDups = ["alice", "*"] := by decide
    have groups : (groupNames "\u00a0eng , ,\u2003 ops team,eng ".toList).eraseDups =
        ["eng", "ops team"] := by decide
    rw [← users, ← groups]
    exact .names cut written (by decide)
  obtain ⟨granted, others, -⟩ := readGrants_follow_grammar .am untidyOptions
  obtain ⟨users, groups⟩ := ((granted .amView rfl).2 _ given).2.1 _ _ lists
  exact ⟨given, lists, users, groups, ((granted .amModify rfl).1 (by decide)).1,
    (others .dagView (by decide)).1⟩

end DagAccess.Acl
