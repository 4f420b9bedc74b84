import DagAccess.Groups.Cache

/-!
# Caches and what happened to them

What happens to a cache is a history of lookups that were answered and of invalidations.
`History.latest` is the last event about a user, which says all that should be known about the user.
A cache agrees with a history (`Cache.Agrees`) if its entries are the latest events of their users
and all latest lookups that have not expired are among them. The entries stand in the order of their
times, so dropping the expired ones at the front drops all of them (`expire_eq_unexpired`). Every
operation of the cache keeps the agreement, and `Agrees.find?_unexpired_iff` says what is found
then.
-/

namespace DagAccess.Groups

/-! ## Histories -/

/-- What happens to a cache. -/
inductive Event
  /-- A lookup of the user that began at a time was answered. -/
  | found (user : String) (began : Int) (groups : PrincipalSet)
  /-- The lookups of a user were invalidated, or all of them. -/
  | dropped (user : Option String)
  deriving DecidableEq

/-- The event says something about the user. -/
def Event.isAbout (user : String) : Event → Bool
  | .found other _ _ => other = user
  | .dropped none => true
  | .dropped (some other) => other = user

/-- What happened, the last event first. -/
abbrev History := List Event

/-- The last event about a user. -/
def History.latest (h : History) (user : String) : Option Event :=
  h.find? (·.isAbout user)

namespace History

variable {h : History} {user : String}

theorem latest_cons_about {e : Event} (about : e.isAbout user = true) :
    latest (e :: h) user = some e :=
  List.find?_cons_of_pos about

theorem latest_cons_other {e : Event} (about : ¬ e.isAbout user = true) :
    latest (e :: h) user = h.latest user :=
  List.find?_cons_of_neg about

end History

namespace Cache

variable {c : Cache} {lifetime now : Int}

/-! ## Expiry of sorted entries -/

/-- The entries that have not expired. -/
def unexpired (c : Cache) (lifetime now : Int) : Cache :=
  c.filter fun e => now - e.fetched < lifetime

theorem mem_unexpired {e : CacheEntry} :
    e ∈ c.unexpired lifetime now ↔ e ∈ c ∧ now - e.fetched < lifetime := by
  rw [unexpired, List.mem_filter, decide_eq_true_eq]

/-- The times of the entries do not decrease. -/
def Sorted (c : Cache) : Prop :=
  c.Pairwise fun e later => e.fetched ≤ later.fetched

/-- Of sorted entries, all that have expired are dropped. -/
theorem expire_eq_unexpired (sorted : c.Sorted) :
    c.expire lifetime now = c.unexpired lifetime now := by
  induction c with
  | nil => rfl
  | cons e rest ih =>
    obtain ⟨first, sorted⟩ := List.pairwise_cons.mp sorted
    by_cases young : now - e.fetched < lifetime
    · -- behind an entry that has not expired, none has
      have youngToo : ∀ later ∈ rest, decide (now - later.fetched < lifetime) = true := by
        intro later there
        have order := first later there
        rw [decide_eq_true_eq]
        omega
      have notOld : ¬ isExpired lifetime now e = true := by
        rw [isExpired, decide_eq_true_eq]
        omega
      rw [expire, List.dropWhile_cons_of_neg notOld, unexpired,
        List.filter_cons_of_pos (by simpa using young), List.filter_eq_self.mpr youngToo]
    · have old : isExpired lifetime now e = true := by
        rw [isExpired, decide_eq_true_eq]
        omega
      rw [expire, List.dropWhile_cons_of_pos old, unexpired,
        List.filter_cons_of_neg (by simpa using young)]
      exact ih sorted

theorem find?_eq_none_iff {user : String} : c.find? user = none ↔ ∀ e ∈ c, e.user ≠ user := by
  simp [find?]

theorem mem_forget {e : CacheEntry} {user : String} :
    e ∈ c.forget user ↔ e ∈ c ∧ e.user ≠ user := by
  rw [forget, List.mem_filter, decide_eq_true_eq]

/-- A user that is not there is added behind the others. -/
theorem store_eq_append {user : String} (miss : c.find? user = none) (fetched : Int)
    (groups : PrincipalSet) : c.store user fetched groups = c ++ [⟨user, fetched, groups⟩] := by
  have others : c.forget user = c :=
    List.filter_eq_self.mpr fun e there => decide_eq_true (find?_eq_none_iff.mp miss e there)
  rw [store, others]

/-! ## Agreement with a history -/

/-- A cache at a time of its clock knows what a history says. -/
structure Agrees (lifetime : Int) (c : Cache) (clock : Int) (h : History) : Prop where
  sorted : c.Sorted
  past : ∀ e ∈ c, e.fetched ≤ clock
  sound : ∀ e ∈ c, h.latest e.user = some (.found e.user e.fetched e.groups)
  complete : ∀ {user began groups}, h.latest user = some (.found user began groups) →
    ⟨user, began, groups⟩ ∈ c ∨ lifetime ≤ clock - began

namespace Agrees

variable {clock : Int} {h : History} {user : String}

/-- Where nothing is to be known, an empty cache will do. -/
theorem nil (nothing : ∀ user began groups, h.latest user ≠ some (.found user began groups)) :
    Agrees lifetime [] clock h := by
  refine ⟨.nil, ?_, ?_, ?_⟩
  · exact fun e there => absurd there List.not_mem_nil
  · exact fun e there => absurd there List.not_mem_nil
  · exact fun last => absurd last (nothing _ _ _)

theorem start (lifetime clock : Int) : Agrees lifetime [] clock [] := by
  apply nil
  intro user began groups last
  cases last

/-- Time may go on. -/
theorem elapse (agrees : Agrees lifetime c clock h) (later : clock ≤ now) :
    Agrees lifetime c now h := by
  refine ⟨agrees.sorted, ?_, agrees.sound, ?_⟩
  · exact fun e there => Int.le_trans (agrees.past e there) later
  · intro user began groups last
    rcases agrees.complete last with there | old
    · exact .inl there
    · right
      omega

/-- What has expired may be dropped. -/
theorem unexpired (agrees : Agrees lifetime c clock h) :
    Agrees lifetime (c.unexpired lifetime clock) clock h := by
  refine ⟨agrees.sorted.filter _, ?_, ?_, ?_⟩
  · exact fun e there => agrees.past e (mem_unexpired.mp there).1
  · exact fun e there => agrees.sound e (mem_unexpired.mp there).1
  · intro user began groups last
    by_cases young : clock - began < lifetime
    · rcases agrees.complete last with there | old
      · exact .inl (mem_unexpired.mpr ⟨there, young⟩)
      · exact absurd young (Int.not_lt.mpr old)
    · exact .inr (Int.not_lt.mp young)

/-- Forgetting a user leaves what is to be known about others after an event about the user. -/
theorem sound_forget (agrees : Agrees lifetime c clock h) {event : Event}
    (about : ∀ other, event.isAbout other = true ↔ other = user) :
    ∀ e ∈ c.forget user, History.latest (event :: h) e.user =
      some (.found e.user e.fetched e.groups) := by
  intro e there
  obtain ⟨there, different⟩ := mem_forget.mp there
  rw [History.latest_cons_other (mt (about e.user).mp different)]
  exact agrees.sound e there

theorem complete_forget (agrees : Agrees lifetime c clock h) {event : Event}
    (about : ∀ other, event.isAbout other = true ↔ other = user) {other : String} {began : Int}
    {groups : PrincipalSet} (different : other ≠ user)
    (last : History.latest (event :: h) other = some (.found other began groups)) :
    ⟨other, began, groups⟩ ∈ c.forget user ∨ lifetime ≤ clock - began := by
  rw [History.latest_cons_other (mt (about other).mp different)] at last
  rcases agrees.complete last with there | old
  · exact .inl (mem_forget.mpr ⟨there, different⟩)
  · exact .inr old

/-- An invalidation drops the entry of its user. -/
theorem forget (agrees : Agrees lifetime c clock h) (user : String) :
    Agrees lifetime (c.forget user) clock (.dropped (some user) :: h) := by
  have about : ∀ other, (Event.dropped (some user)).isAbout other = true ↔ other = user := by
    simp [Event.isAbout, eq_comm]
  refine ⟨agrees.sorted.filter _, ?_, agrees.sound_forget about, ?_⟩
  · exact fun e there => agrees.past e (mem_forget.mp there).1
  · intro other began groups last
    by_cases same : other = user
    · rw [History.latest_cons_about ((about other).mpr same)] at last
      cases last
    · exact agrees.complete_forget about same last

/-- The invalidation of everything drops all entries. -/
theorem clear (lifetime clock : Int) (h : History) :
    Agrees lifetime [] clock (.dropped none :: h) := by
  apply nil
  intro user began groups last
  rw [History.latest_cons_about rfl] at last
  cases last

/-- An answered lookup takes the place of an earlier one of its user, behind all others. -/
theorem store (agrees : Agrees lifetime c clock h) (user : String) (groups : PrincipalSet) :
    Agrees lifetime (c.store user clock groups) clock (.found user clock groups :: h) := by
  have about : ∀ other, (Event.found user clock groups).isAbout other = true ↔ other = user := by
    simp [Event.isAbout, eq_comm]
  refine ⟨?_, ?_, ?_, ?_⟩
  · refine List.pairwise_append.mpr ⟨agrees.sorted.filter _, List.pairwise_singleton _ _, ?_⟩
    intro e there new stored
    rw [List.mem_singleton.mp stored]
    exact agrees.past e (mem_forget.mp there).1
  · intro e there
    rcases List.mem_append.mp there with old | new
    · exact agrees.past e (mem_forget.mp old).1
    · obtain rfl := List.mem_singleton.mp new
      exact Int.le_refl clock
  · intro e there
    rcases List.mem_append.mp there with old | new
    · exact agrees.sound_forget about e old
    · rw [List.mem_singleton.mp new]
      exact History.latest_cons_about ((about user).mpr rfl)
  · intro other began others last
    by_cases same : other = user
    · rw [History.latest_cons_about ((about other).mpr same)] at last
      cases last
      exact .inl (List.mem_append_right _ List.mem_cons_self)
    · rcases agrees.complete_forget about same last with there | old
      · exact .inl (List.mem_append_left _ there)
      · exact .inr old

/-- An entry of a user holds what the latest event says. -/
theorem found_of_mem (agrees : Agrees lifetime c clock h) {groups : PrincipalSet}
    (found : c.find? user = some groups) :
    ∃ began, ⟨user, began, groups⟩ ∈ c ∧ h.latest user = some (.found user began groups) := by
  obtain ⟨e, first, rfl⟩ := Option.map_eq_some_iff.mp found
  have there := List.mem_of_find?_eq_some first
  have named : e.user = user := by simpa using List.find?_some first
  subst named
  exact ⟨e.fetched, there, agrees.sound e there⟩

/-- What is found for a user, once expired entries are gone, is what the latest event says, unless
that has expired. -/
theorem find?_unexpired_iff (agrees : Agrees lifetime c clock h) {groups : PrincipalSet} :
    (c.unexpired lifetime clock).find? user = some groups ↔
      ∃ began, h.latest user = some (.found user began groups) ∧ clock - began < lifetime := by
  have kept := agrees.unexpired
  constructor
  · intro found
    obtain ⟨began, there, last⟩ := kept.found_of_mem found
    exact ⟨began, last, (mem_unexpired.mp there).2⟩
  · rintro ⟨began, last, young⟩
    have there := (kept.complete last).resolve_right (Int.not_le.mpr young)
    have hit : (c.unexpired lifetime clock).find? user ≠ none :=
      fun miss => find?_eq_none_iff.mp miss _ there rfl
    obtain ⟨other, found⟩ := Option.ne_none_iff_exists'.mp hit
    obtain ⟨_, -, lastToo⟩ := kept.found_of_mem found
    rw [last] at lastToo
    cases lastToo
    exact found

end Agrees

end Cache

end DagAccess.Groups
