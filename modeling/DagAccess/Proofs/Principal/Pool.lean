import DagAccess.Proofs.Principal.Finite

/-!
# Steps on pools as steps on finite sets

`FinitePool.Comes` says what every step means where the sets are those of mathematics: what it
answers, when it fails, and which finite sets there are after it. A step on a pool comes to just
that, keeps the order of names, and leaves alone whatever it does not name (`Meets`), so every
sequence of steps does (`Pool.run_refines`). Which names there are never depends on the order, but
for `pop`, which may take any.
-/

namespace DagAccess.PrincipalSet

/-! ## Finite sets under names -/

/-- Finite sets under names. -/
abbrev FinitePool := String → Option (Finset String)

/-- The names that the other side of a step refers to. -/
def referred : String ⊕ Operand → List String
  | .inl other => [other]
  | .inr _ => []

namespace Step

/-- The names that have to stand for sets, in the order in which they are looked up. -/
def reads : Step → List String
  | .new _ _ => []
  | .copy id _ | .add id _ | .discard id _ | .remove id _ | .contains id _ | .pop id | .clear id
  | .size id | .describe id => [id]
  | .update id other | .combine id _ _ other | .combineInPlace id _ other | .compare id _ other =>
    id :: referred other

/-- The name that a step gives to a set. -/
def binds? : Step → Option String
  | .new id _ | .add id _ | .discard id _ | .remove id _ | .pop id | .clear id | .update id _
  | .combineInPlace id _ _ => some id
  | .copy _ target | .combine _ target _ _ => some target
  | .contains _ _ | .size _ | .describe _ | .compare _ _ _ => none

end Step

namespace FinitePool

/-- Gives a name to a finite set. -/
def put (F : FinitePool) (id : String) (A : Finset String) : FinitePool :=
  Function.update F id (some A)

/-- The finite set of the other side of a step that works on `A`. -/
def side (F : FinitePool) (A : Finset String) : String ⊕ Operand → Option (Finset String)
  | .inl other => F other
  | .inr .itself => some A
  | .inr (.set t) => some t.toFinset
  | .inr (.list names) => some names.toFinset

/-- What a step comes to with finite sets. A plain list has no order of inclusion and equals no
set. -/
inductive Comes (F : FinitePool) : Step → Except StepFault Answer → FinitePool → Prop
  | new (id : String) (names : List String) :
      Comes F (.new id names) (.ok .done) (F.put id names.toFinset)
  | copy {id target A} (there : F id = some A) :
      Comes F (.copy id target) (.ok .done) (F.put target A)
  | add {id name A} (there : F id = some A) :
      Comes F (.add id name) (.ok .done) (F.put id (Insert.insert name A))
  | discard {id name A} (there : F id = some A) :
      Comes F (.discard id name) (.ok .done) (F.put id (A.erase name))
  | remove {id name A} (there : F id = some A) (member : name ∈ A) :
      Comes F (.remove id name) (.ok .done) (F.put id (A.erase name))
  | missing {id name A} (there : F id = some A) (absent : name ∉ A) :
      Comes F (.remove id name) (.error (.missing name)) F
  | contains {id name A} (there : F id = some A) :
      Comes F (.contains id name) (.ok (.truth (name ∈ A))) F
  | pop {id name A} (there : F id = some A) (member : name ∈ A) :
      Comes F (.pop id) (.ok (.name name)) (F.put id (A.erase name))
  | nothingToPop {id} (there : F id = some ∅) : Comes F (.pop id) (.error .nothingToPop) F
  | clear {id A} (there : F id = some A) : Comes F (.clear id) (.ok .done) (F.put id ∅)
  | size {id A} (there : F id = some A) : Comes F (.size id) (.ok (.count A.card)) F
  | describe {id A} (there : F id = some A) (text : String) :
      Comes F (.describe id) (.ok (.name text)) F
  | update {id other A B} (there : F id = some A) (beside : F.side A other = some B) :
      Comes F (.update id other) (.ok .done) (F.put id (A ∪ B))
  | combine {id target c other A B} (there : F id = some A) (beside : F.side A other = some B) :
      Comes F (.combine id target c other) (.ok .made) (F.put target (c.apply A B))
  | combineInPlace {id c other A B} (there : F id = some A) (beside : F.side A other = some B) :
      Comes F (.combineInPlace id c other) (.ok .done) (F.put id (c.apply A B))
  | compare {id c other A B b} (there : F id = some A) (beside : F.side A other = some B)
      (comparable : ∀ names, other = .inr (.list names) → c = .disjoint)
      (holds : b = true ↔ c.Holds A B) :
      Comes F (.compare id c other) (.ok (.truth b)) F
  | unlike {id A c} (there : F id = some A) (names : List String) (equality : c = .eq ∨ c = .ne) :
      Comes F (.compare id c (.inr (.list names))) (.ok (.truth (c = .ne))) F
  | incomparable {id A c} (there : F id = some A) (names : List String)
      (inclusion : c = .le ∨ c = .lt ∨ c = .ge ∨ c = .gt) :
      Comes F (.compare id c (.inr (.list names))) (.error .incomparable) F
  | noSet {s id} (absent : s.reads.find? (fun id => (F id).isNone) = some id) :
      Comes F s (.error (.noSet id)) F

end FinitePool

open FinitePool (Comes)

/-! ## Pools -/

namespace Pool

variable {p q : Pool} {id : String} {s t : PrincipalSet}

/-- The sets of a pool without the order of their names. -/
def finite (p : Pool) : FinitePool := fun id => (p.lookup id).map toFinset

theorem finite_of_lookup (there : p.lookup id = some s) : p.finite id = some s.toFinset := by
  rw [finite, there]
  rfl

theorem lookup_put (p : Pool) (id other : String) (s : PrincipalSet) :
    (p.put id s).lookup other = if other = id then some s else p.lookup other := by
  rw [put, Assoc.lookup_put]
  simp only [beq_iff_eq]

theorem finite_put (p : Pool) (id : String) (s : PrincipalSet) :
    (p.put id s).finite = p.finite.put id s.toFinset := by
  funext other
  rw [finite, lookup_put, FinitePool.put, Function.update_apply, finite]
  split <;> rfl

theorem find_of_lookup (there : p.lookup id = some s) : p.find id = .ok s := by
  rw [find, there]

theorem find_of_missing (absent : p.lookup id = none) : p.find id = .error (.noSet id) := by
  rw [find, absent]

/-- The names of a set in their order, none if there is no such set. -/
def sequence (p : Pool) (id : String) : List String :=
  ((p.lookup id).getD ∅).toList

theorem sequence_of_lookup (there : p.lookup id = some s) : p.sequence id = s.toList := by
  rw [sequence, there]
  rfl

/-- The names of the other side of a step in their order. -/
def given (p : Pool) (id : String) : String ⊕ Operand → List String
  | .inl other => p.sequence other
  | .inr o => o.names ((p.lookup id).getD ∅)

/-- The set that a step makes or changes, the names from which it starts, and those that it is
given. -/
def origin? (p : Pool) : Step → Option (String × List String × List String)
  | .new id names => some (id, [], names)
  | .copy id target => some (target, p.sequence id, [])
  | .add id name => some (id, p.sequence id, [name])
  | .discard id _ | .remove id _ | .pop id | .clear id => some (id, p.sequence id, [])
  | .update id other | .combineInPlace id _ other => some (id, p.sequence id, p.given id other)
  | .combine id target c other =>
    some (target, if c = .intersection then [] else p.sequence id, p.given id other)
  | .contains _ _ | .size _ | .describe _ | .compare _ _ _ => none

/-- A step comes to what it means for finite sets, keeps the order of names, and changes no set that
it does not name. -/
structure Meets (p : Pool) (s : Step) (outcome : Except StepFault Answer) (q : Pool) : Prop where
  comes : Comes p.finite s outcome q.finite
  distinct : ∀ id t, q.lookup id = some t → t.toList.Nodup
  ordered : ∀ target before given t, p.origin? s = some (target, before, given) →
    outcome.isOk = true → q.lookup target = some t → Follows before given t.toList
  others : ∀ id, s.binds? ≠ some id → q.lookup id = p.lookup id
  failed : ∀ fault, outcome = .error fault → q = p

/-! ## What is found -/

theorem bind_find {α : Type} (there : p.lookup id = some s)
    (next : PrincipalSet → Except StepFault α) : (p.find id >>= next) = next s := by
  rw [find_of_lookup there]
  rfl

/-- The other side of a step that works on a set of the pool was found. -/
structure Beside (p : Pool) (id : String) (s : PrincipalSet) (other : String ⊕ Operand)
    (o : Operand) : Prop where
  found : p.operand id other = .ok o
  names : p.given id other = o.names s
  finite : p.finite.side s.toFinset other = some (o.names s).toFinset
  list : ∀ names, o = .list names ↔ other = .inr (.list names)

theorem exists_beside (there : p.lookup id = some s) {other : String ⊕ Operand}
    (present : ∀ name ∈ referred other, ∃ t, p.lookup name = some t) :
    ∃ o, Beside p id s other o := by
  cases other with
  | inr o =>
    refine ⟨o, rfl, ?_, ?_, fun names => ?_⟩
    · rw [given, there]
      rfl
    · cases o <;> rfl
    · exact ⟨fun same => same ▸ rfl, Sum.inr.inj⟩
  | inl name =>
    obtain ⟨t, found⟩ := present name List.mem_cons_self
    by_cases same : name = id
    · -- a set that is named beside itself is the very set
      obtain rfl : t = s := Option.some.inj (found.symm.trans (same ▸ there))
      refine ⟨.itself, ?_, sequence_of_lookup found, finite_of_lookup found, fun names => ?_⟩
      · rw [operand, if_pos same]
      · simp
    · refine ⟨.set t, ?_, sequence_of_lookup found, finite_of_lookup found, fun names => ?_⟩
      · rw [operand, if_neg same, find_of_lookup found]
        rfl
      · simp

theorem bind_operand {α : Type} (there : p.lookup id = some s) {other : String ⊕ Operand}
    {o : Operand} (beside : Beside p id s other o)
    (next : PrincipalSet → Operand → Except StepFault α) :
    (p.find id >>= fun s => p.operand id other >>= next s) = next s o := by
  rw [bind_find there, beside.found]
  rfl

/-- A step fails at the first name that stands for no set. -/
theorem step_of_missing {s : Step}
    (absent : s.reads.find? (fun id => (p.finite id).isNone) = some id) :
    p.step s = .error (.noSet id) := by
  -- the steps on one name, and those that may refer to a second one
  have alone : ∀ {α : Type} {first : String} {next : PrincipalSet → Except StepFault α},
      [first].find? (fun id => (p.finite id).isNone) = some id →
      (p.find first >>= next) = .error (.noSet id) := by
    intro α first next absent
    have missing := List.find?_some absent
    obtain rfl := List.mem_singleton.mp (List.mem_of_find?_eq_some absent)
    rw [find_of_missing (by simpa [finite] using missing)]
    rfl
  have both : ∀ {α : Type} {first : String} {other : String ⊕ Operand}
      {next : PrincipalSet → Operand → Except StepFault α},
      (first :: referred other).find? (fun id => (p.finite id).isNone) = some id →
      (p.find first >>= fun s => p.operand first other >>= next s) = .error (.noSet id) := by
    intro α first other next absent
    cases found : p.lookup first with
    | none =>
      rw [List.find?_cons_of_pos (by simp [finite, found])] at absent
      obtain rfl := Option.some.inj absent
      rw [find_of_missing found]
      rfl
    | some t =>
      rw [List.find?_cons_of_neg (by simp [finite, found])] at absent
      cases other with
      | inr o => cases absent
      | inl name =>
        have missing := List.find?_some absent
        obtain rfl := List.mem_singleton.mp (List.mem_of_find?_eq_some absent)
        have missing : p.lookup id = none := by simpa [finite] using missing
        have different : id ≠ first := fun same => by
          rw [same, found] at missing
          cases missing
        rw [bind_find found, operand, if_neg different, find_of_missing missing]
        rfl
  cases s with
  | new other names => cases absent
  | copy _ _ | add _ _ | discard _ _ | remove _ _ | contains _ _ | pop _ | clear _ | size _
  | describe _ => exact alone absent
  | update _ _ | combine _ _ _ _ | combineInPlace _ _ _ | compare _ _ _ => exact both absent

/-! ## Steps -/

/-- What a step answers and which pool it leaves; one that fails leaves the pool as it is. -/
def outcome (p : Pool) (s : Step) : Except StepFault Answer × Pool :=
  match p.step s with
  | .ok (answer, after) => (.ok answer, after)
  | .error fault => (.error fault, p)

theorem run_cons (p : Pool) (s : Step) (rest : List Step) :
    p.run (s :: rest) = p.outcome s :: (p.outcome s).2.run rest := by
  rw [run, outcome]
  cases p.step s with
  | ok result => rfl
  | error fault => rfl

/-- The outcome of a step is what the step means. -/
def Met (p : Pool) (s : Step) : Prop := Meets p s (p.outcome s).1 (p.outcome s).2

theorem met_of_fault {s : Step} {fault : StepFault} (step : p.step s = .error fault)
    (comes : Comes p.finite s (.error fault) p.finite) : p.Met s := by
  rw [Met, outcome, step]
  exact {
    comes
    distinct := fun _ t _ => t.nodup
    ordered := fun _ _ _ _ _ answered _ => Bool.noConfusion answered
    others := fun _ _ => rfl
    failed := fun _ _ => rfl }

theorem met_of_answer {s : Step} {a : Answer} (step : p.step s = .ok (a, p))
    (comes : Comes p.finite s (.ok a) p.finite) (none : p.origin? s = none) : p.Met s := by
  rw [Met, outcome, step]
  exact {
    comes
    distinct := fun _ t _ => t.nodup
    ordered := fun _ _ _ _ some _ _ => by rw [none] at some; cases some
    others := fun _ _ => rfl
    failed := fun _ same => by cases same }

theorem met_of_change {s : Step} {a : Answer} {before given : List String}
    (step : p.step s = .ok (a, p.put id t))
    (comes : Comes p.finite s (.ok a) (p.finite.put id t.toFinset)) (binds : s.binds? = some id)
    (origin : p.origin? s = some (id, before, given)) (follows : Follows before given t.toList) :
    p.Met s := by
  rw [Met, outcome, step]
  refine { comes := finite_put p id t ▸ comes, distinct := fun _ t _ => t.nodup, ordered := ?_,
           others := ?_, failed := fun _ same => by cases same }
  · intro target first later u source _ there
    rw [origin] at source
    cases source
    rw [lookup_put, if_pos rfl] at there
    exact Option.some.inj there ▸ follows
  · intro other unnamed
    have different : other ≠ id := fun same => unnamed (same ▸ binds)
    rw [lookup_put, if_neg different]

theorem met_remove (there : p.lookup id = some s) (name : String) : p.Met (.remove id name) := by
  have here := finite_of_lookup there
  have step : p.step (.remove id name) =
      if name ∈ s then .ok (.done, p.put id (s.erase name)) else .error (.missing name) := by
    refine (bind_find there _).trans ?_
    split <;> rfl
  by_cases member : name ∈ s
  · have comes := Comes.remove here (mem_toFinset.mpr member)
    rw [if_pos member] at step
    exact met_of_change step (toFinset_erase s name ▸ comes) rfl rfl
      (sequence_of_lookup there ▸ follows_erase s name)
  · rw [if_neg member] at step
    exact met_of_fault step (.missing here (mt mem_toFinset.mp member))

theorem met_pop (there : p.lookup id = some s) : p.Met (.pop id) := by
  have here := finite_of_lookup there
  cases listed : s.toList with
  | nil =>
    have step : p.step (.pop id) = .error .nothingToPop := by
      refine (bind_find there _).trans ?_
      rw [listed]
      rfl
    rw [toFinset_eq_empty_iff.mpr listed] at here
    exact met_of_fault step (.nothingToPop here)
  | cons name rest =>
    have step : p.step (.pop id) = .ok (.name name, p.put id (s.erase name)) := by
      refine (bind_find there _).trans ?_
      rw [listed]
      rfl
    have member : name ∈ s := mem_toList.mp (listed ▸ List.mem_cons_self)
    have comes := Comes.pop here (mem_toFinset.mpr member)
    exact met_of_change step (toFinset_erase s name ▸ comes) rfl rfl
      (sequence_of_lookup there ▸ follows_erase s name)

/-- Plain lists are compared in their own way: they equal no set, and have no order of inclusion. -/
theorem met_compare (there : p.lookup id = some s) (c : Comparison) {other : String ⊕ Operand}
    {o : Operand} (beside : Beside p id s other o) : p.Met (.compare id c other) := by
  have here := finite_of_lookup there
  have step : p.step (.compare id c other) =
      (s.compare? o c).elim (.error .incomparable) fun truth => .ok (.truth truth, p) := by
    refine (bind_operand there beside _).trans ?_
    cases s.compare? o c <;> rfl
  have sets : ∀ t : PrincipalSet, s.compare? o c = some (s.compare t c) →
      (o.names s).toFinset = t.toFinset → (∀ names, o ≠ .list names) →
        p.Met (.compare id c other) := by
    intro t answer same set
    rw [answer] at step
    refine met_of_answer step (.compare here beside.finite ?_ (same ▸ compare_iff)) rfl
    exact fun names list => absurd ((beside.list names).mpr list) (set names)
  cases o with
  | itself => exact sets s rfl rfl (by simp)
  | set t => exact sets t rfl rfl (by simp)
  | list names =>
    obtain rfl := (beside.list names).mp rfl
    have disjoint : (names.all (· ∉ s) : Bool) = true ↔ Disjoint s.toFinset names.toFinset := by
      simp only [List.all_eq_true, decide_eq_true_eq, Finset.disjoint_right, List.mem_toFinset,
        mem_toFinset]
    cases c with
    | eq => exact met_of_answer step (.unlike here names (.inl rfl)) rfl
    | ne => exact met_of_answer step (.unlike here names (.inr rfl)) rfl
    | le => exact met_of_fault step (.incomparable here names (.inl rfl))
    | lt => exact met_of_fault step (.incomparable here names (.inr (.inl rfl)))
    | ge => exact met_of_fault step (.incomparable here names (.inr (.inr (.inl rfl))))
    | gt => exact met_of_fault step (.incomparable here names (.inr (.inr (.inr rfl))))
    | disjoint =>
      exact met_of_answer step (.compare here beside.finite (fun _ _ => rfl) disjoint) rfl

/-- Every step comes to what it means. -/
theorem met (p : Pool) (s : Step) : p.Met s := by
  cases absent : s.reads.find? (fun id => (p.finite id).isNone) with
  | some id => exact met_of_fault (step_of_missing absent) (.noSet absent)
  | none =>
    -- every name that the step looks up stands for a set, so it fails only for reasons of its own
    have present : ∀ id ∈ s.reads, ∃ t, p.lookup id = some t := by
      intro id read
      have there := List.find?_eq_none.mp absent id read
      exact Option.ne_none_iff_exists'.mp (by simpa [finite] using there)
    cases s with
    | new id names =>
      exact met_of_change rfl (toFinset_ofList names ▸ .new id names) rfl rfl
        (follows_insertAll ∅ names)
    | copy id target =>
      obtain ⟨s, there⟩ := present id List.mem_cons_self
      exact met_of_change (bind_find there _) (.copy (finite_of_lookup there)) rfl rfl
        (sequence_of_lookup there ▸ follows_insertAll s [])
    | add id name =>
      obtain ⟨s, there⟩ := present id List.mem_cons_self
      exact met_of_change (bind_find there _)
        (toFinset_insert s name ▸ .add (finite_of_lookup there)) rfl rfl
        (sequence_of_lookup there ▸ follows_insert s name)
    | discard id name =>
      obtain ⟨s, there⟩ := present id List.mem_cons_self
      exact met_of_change (bind_find there _)
        (toFinset_erase s name ▸ .discard (finite_of_lookup there)) rfl
        rfl (sequence_of_lookup there ▸ follows_erase s name)
    | remove id name =>
      obtain ⟨s, there⟩ := present id List.mem_cons_self
      exact met_remove there name
    | contains id name =>
      obtain ⟨s, there⟩ := present id List.mem_cons_self
      have step : p.step (.contains id name) = .ok (.truth (name ∈ s.toFinset), p) := by
        simp only [mem_toFinset]
        exact bind_find there _
      exact met_of_answer step (.contains (finite_of_lookup there)) rfl
    | pop id =>
      obtain ⟨s, there⟩ := present id List.mem_cons_self
      exact met_pop there
    | clear id =>
      obtain ⟨s, there⟩ := present id List.mem_cons_self
      exact met_of_change (bind_find there _) (.clear (finite_of_lookup there)) rfl rfl
        (sequence_of_lookup there ▸ follows_empty s [])
    | size id =>
      obtain ⟨s, there⟩ := present id List.mem_cons_self
      have step : p.step (.size id) = .ok (.count s.toFinset.card, p) := by
        rw [← size_eq_card]
        exact bind_find there _
      exact met_of_answer step (.size (finite_of_lookup there)) rfl
    | describe id =>
      obtain ⟨s, there⟩ := present id List.mem_cons_self
      exact met_of_answer (bind_find there _) (.describe (finite_of_lookup there) s.describe) rfl
    | update id other =>
      obtain ⟨s, there⟩ := present id List.mem_cons_self
      obtain ⟨o, beside⟩ :=
        exists_beside there fun name read => present name (List.mem_cons_of_mem id read)
      have comes := Comes.update (finite_of_lookup there) beside.finite
      exact met_of_change (bind_operand there beside _) (toFinset_insertAll s _ ▸ comes) rfl rfl
        (sequence_of_lookup there ▸ beside.names ▸ follows_insertAll s (o.names s))
    | combine id target c other =>
      obtain ⟨s, there⟩ := present id List.mem_cons_self
      obtain ⟨o, beside⟩ :=
        exists_beside there fun name read => present name (List.mem_cons_of_mem id read)
      have comes : Comes p.finite (.combine id target c other) (.ok .made) _ :=
        .combine (finite_of_lookup there) beside.finite
      exact met_of_change (bind_operand there beside _) (toFinset_combine s o c ▸ comes) rfl rfl
        (sequence_of_lookup there ▸ beside.names ▸ follows_combine s o c)
    | combineInPlace id c other =>
      obtain ⟨s, there⟩ := present id List.mem_cons_self
      obtain ⟨o, beside⟩ :=
        exists_beside there fun name read => present name (List.mem_cons_of_mem id read)
      have comes : Comes p.finite (.combineInPlace id c other) (.ok .done) _ :=
        .combineInPlace (finite_of_lookup there) beside.finite
      exact met_of_change (bind_operand there beside _)
        (toFinset_combineInPlace s o c ▸ comes) rfl rfl
        (sequence_of_lookup there ▸ beside.names ▸ follows_combineInPlace s o c)
    | compare id c other =>
      obtain ⟨s, there⟩ := present id List.mem_cons_self
      obtain ⟨o, beside⟩ :=
        exists_beside there fun name read => present name (List.mem_cons_of_mem id read)
      exact met_compare there c beside

/-! ## Runs -/

/-- Steps one after the other, each of which comes to what it means. -/
inductive Meeting : Pool → List Step → List (Except StepFault Answer × Pool) → Prop
  | nil (p : Pool) : Meeting p [] []
  | cons {p s outcome q rest outcomes} (first : Meets p s outcome q)
      (later : Meeting q rest outcomes) :
      Meeting p (s :: rest) ((outcome, q) :: outcomes)

/-- **Sets of names are finite sets that remember their order.** -/
theorem run_refines (p : Pool) (steps : List Step) : Meeting p steps (p.run steps) := by
  induction steps generalizing p with
  | nil => exact .nil p
  | cons s rest ih =>
    rw [run_cons]
    exact .cons (p.met s) (ih _)

end Pool

end DagAccess.PrincipalSet
