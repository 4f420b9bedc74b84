import DagAccess.MergedInput

/-!
# What a merged input shares with its caller

The caller of a merged input knows the numbers of the things that it handed over and of the lists
that it was given, and may change what stands there at any time. A merged input stands `Apart` as
long as the number of its own list is none of these, and every step keeps that (`Apart.step`). So
what it answers is what it was made of, while the input that it marks ready is what stands under its
name by then (`run_insulated`).
-/

namespace DagAccess.MergedInput

variable {α : Type}

/-! ## The store -/

namespace Store

theorem lists_append (s : Store α) (list : Ref) (dir : String) (other : Ref) :
    (s.append list dir).lists[other]? =
      if list = other then s.lists[other]?.map (· ++ [dir]) else s.lists[other]? := by
  simp only [append, Array.getElem?_modify]

theorem input?_changeTable (s : Store α) (table : Ref) (f : List (String × α) → List (String × α))
    (name : String) :
    (s.changeTable table f).input? table name = (s.tables[table]?).bind fun es =>
      (f es).lookup name := by
  simp only [input?, changeTable, Array.getElem?_modify, if_true]
  cases s.tables[table]? <;> rfl

end Store

/-! ## What steps are expected to do -/

/-- What a step answers, told by what the merged input was made of. -/
def told (payload : Option Payload) (dirs : List String) : Step α → Answer
  | .payload => .payload payload
  | .workDirs => .workDirs dirs
  | _ => .done

/-- The input that stands under a name after a step, where this one stood there before. -/
def standing (name : String) (now : Option α) : Step α → Option α
  | .editInput other value => if name = other then some value else now
  | .deleteInput other => if name = other then none else now
  | _ => now

/-- The inputs that steps mark ready: for each signal what stands under the name by then. At first
this one does. -/
def marked (name : String) : Option α → List (Step α) → List (Option α)
  | _, [] => []
  | now, .ready :: rest => now :: marked name now rest
  | now, x :: rest => marked name (standing name now x) rest

theorem marked_cons (name : String) (now : Option α) (x : Step α) (rest : List (Step α)) :
    marked name now (x :: rest) = marked name now [x] ++
      marked name (standing name now x) rest := by
  cases x <;> rfl

/-! ## One step -/

/-- The merged input has a payload and directories of its own, and shares the table in which this
input stands under its name. -/
structure Apart (payload : Option Payload) (dirs : List String) (group : String) (now : Option α)
    (s : State α) : Prop where
  payload : s.context.payload = payload
  name : s.context.name = group
  dirs : s.store.lists[s.context.workDirs]? = some dirs
  handed : s.handover.workDirs ≠ some s.context.workDirs
  returned : s.context.workDirs ∉ s.returned
  shared : s.context.inputs = s.handover.inputs
  table : s.context.inputs < s.store.tables.size
  input : s.store.input? s.context.inputs group = now

namespace Apart

variable {payload : Option Payload} {dirs : List String} {group : String}
  {now : Option α} {s : State α}

/-- The caller may add to every list but the merged input's own. -/
theorem append (apart : Apart payload dirs group now s) {list : Option Ref}
    (other : list ≠ some s.context.workDirs) (dir : String) :
    Apart payload dirs group now (s.change list fun store r => store.append r dir) := by
  cases list with
  | none => exact apart
  | some r =>
    have different : r ≠ s.context.workDirs := fun same => other (congrArg some same)
    exact { apart with
      dirs := by rw [State.change, Store.lists_append, if_neg different, apart.dirs] }

/-- What the caller does to the table is what the merged input sees. -/
theorem changeTable (apart : Apart payload dirs group now s)
    {f : List (String × α) → List (String × α)} {next : Option α}
    (seen : ∀ es : List (String × α), es.lookup group = now → (f es).lookup group = next) :
    Apart payload dirs group next
      (s.change (some s.handover.inputs) fun store r => store.changeTable r f) := by
  have table : s.handover.inputs < s.store.tables.size := apart.shared ▸ apart.table
  refine { apart with
    table := ?_
    input := ?_ }
  · simpa only [State.change, Store.changeTable, Array.size_modify] using apart.table
  · have before := apart.input
    rw [State.change, apart.shared, Store.input?_changeTable, Array.getElem?_eq_getElem table]
    rw [apart.shared, Store.input?, Array.getElem?_eq_getElem table] at before
    exact seen _ before

/-- What is given out is new to everybody. -/
theorem giveDirs (apart : Apart payload dirs group now s) :
    s.giveDirs.1 = .workDirs dirs ∧ Apart payload dirs group now s.giveDirs.2 := by
  have bound : s.context.workDirs < s.store.lists.size :=
    (Array.getElem?_eq_some_iff.mp apart.dirs).1
  have here : s.store.dirs s.context.workDirs = dirs := by
    rw [Store.dirs, apart.dirs, Option.getD_some]
  constructor
  · simp only [State.giveDirs, Store.newList, here]
    simp only [Store.dirs, Array.getElem?_push_size, Option.getD_some]
  · refine { apart with
      dirs := ?_
      returned := ?_ }
    · simp only [State.giveDirs, Store.newList, Array.getElem?_push,
        if_neg (Nat.ne_of_lt bound), apart.dirs]
    · intro there
      rcases List.mem_append.mp there with before | new
      · exact apart.returned before
      · exact Nat.ne_of_lt bound (List.mem_singleton.mp new)

/-- Each step answers as expected, marks what stands under the name, and leaves the merged input
apart. -/
theorem step (apart : Apart payload dirs group now s) (x : Step α) :
    (MergedInput.step s x).1 = told payload dirs x ∧
      (MergedInput.step s x).2.ready = s.ready ++ marked group now [x] ∧
      Apart payload dirs group (standing group now x) (MergedInput.step s x).2 := by
  have nothing : s.ready = s.ready ++ [] := (List.append_nil _).symm
  have unmarked : ∀ thing f, (s.change thing f).ready = s.ready ++ [] := by
    intro thing f
    cases thing with
    | none => exact nothing
    | some r => exact nothing
  cases x with
  | payload => exact ⟨congrArg Answer.payload apart.payload, nothing, apart⟩
  | ready =>
    have seen : s.store.input? s.context.inputs s.context.name = now := by
      rw [apart.name, apart.input]
    exact ⟨rfl, congrArg (fun input => s.ready ++ [input]) seen, { apart with }⟩
  | workDirs => exact ⟨apart.giveDirs.1, nothing, apart.giveDirs.2⟩
  | editPayload bytes =>
    refine ⟨rfl, unmarked _ _, ?_⟩
    simp only [MergedInput.step]
    cases s.handover.payload with
    | none => exact apart
    | some buffer => exact { apart with }
  | editInput other value =>
    refine ⟨rfl, unmarked _ _, apart.changeTable fun es before => ?_⟩
    simp only [Assoc.lookup_put, before, beq_iff_eq, standing]
  | deleteInput other =>
    refine ⟨rfl, unmarked _ _, apart.changeTable fun es before => ?_⟩
    simp only [Assoc.lookup_erase, before, beq_iff_eq, standing]
  | editWorkDirs dir => exact ⟨rfl, unmarked _ _, apart.append apart.handed dir⟩
  | editReturned n dir =>
    refine ⟨rfl, unmarked _ _, apart.append (fun same => ?_) dir⟩
    exact apart.returned (List.mem_of_getElem? same)

/-- After any steps a step is answered as expected, and the inputs marked ready are those that stood
under the name at each signal. -/
theorem run (apart : Apart payload dirs group now s) (before : List (Step α)) (x : Step α)
    (after : List (Step α)) :
    (MergedInput.run s (before ++ x :: after))[before.length]? =
      some (told payload dirs x, s.ready ++ marked group now (before ++ [x])) := by
  induction before generalizing s now with
  | nil =>
    obtain ⟨answer, ready, -⟩ := apart.step x
    simp only [List.nil_append, List.length_nil, MergedInput.run, List.getElem?_cons_zero,
      answer, ready]
  | cons y before ih =>
    obtain ⟨-, ready, still⟩ := apart.step y
    rw [List.cons_append, List.length_cons, MergedInput.run]
    simp only [List.getElem?_cons_succ, ih still, ready]
    rw [List.append_assoc, ← marked_cons, List.cons_append]

end Apart

/-! ## A whole life -/

/-- A merged input is made apart from what its caller knows. -/
theorem make_apart {payload : Option Payload} {name : Option String}
    {inputs : Option (List (String × α))} {tracked : Bool} {workDirs : Option (List String)}
    {s : State α} (made : make payload name inputs tracked workDirs = .ok s) :
    ∃ group entries, name = some group ∧ inputs = some entries ∧ s.ready = [] ∧
      Apart payload (workDirs.getD []) group (entries.lookup group) s := by
  unfold make at made
  split at made
  · cases made
  · cases made
  · next group entries =>
    split at made
    · cases made
      refine ⟨group, entries, rfl, rfl, rfl, ?_⟩
      -- whether a buffer and a list were handed over decides which numbers there are
      cases payload <;> cases workDirs <;>
        exact ⟨rfl, rfl, rfl, nofun, nofun, rfl, Nat.one_pos, rfl⟩
    · cases made

/-- **A merged input is insulated from its caller, but for the inputs.** Whatever is done with it
and with the things handed over or given out, and in whatever order, every answer is the payload and
the directories that it was made of, and the inputs marked ready are, one for each signal, those
that stood under its name at that moment. -/
theorem run_insulated {payload : Option Payload} {name : Option String}
    {inputs : Option (List (String × α))} {tracked : Bool} {workDirs : Option (List String)}
    {s : State α} (made : make payload name inputs tracked workDirs = .ok s) :
    ∃ group entries, name = some group ∧ inputs = some entries ∧
      ∀ before x after, (run s (before ++ x :: after))[before.length]? =
        some (told payload (workDirs.getD []) x,
          marked group (entries.lookup group) (before ++ [x])) := by
  obtain ⟨group, entries, named, given, fresh, apart⟩ := make_apart made
  refine ⟨group, entries, named, given, fun before x after => ?_⟩
  rw [apart.run, fresh, List.nil_append]

/-- What a caller does that changes everything that it knows, asking for the directories before and
after. -/
def busyCaller : List (Step Nat) :=
  [.workDirs, .editReturned 0 "/lost", .editWorkDirs "/late", .editPayload [9], .ready,
    .editInput "group" 8, .ready, .deleteInput "group", .ready, .payload]

/-- The payload and the directories are still those that it was made of, and its three signals mark
the two inputs that stood under its name in turn and, after the name was deleted, none. -/
theorem run_insulated_busy : ∃ s : State Nat,
    make (some [1, 2]) (some "group") (some [("group", 7)]) true (some ["/work"]) = .ok s ∧
    (run s (busyCaller ++ [.workDirs]))[10]? = some (.workDirs ["/work"], [some 7, some 8, none]) ∧
    (run s (busyCaller ++ [.workDirs]))[9]? =
      some (.payload (some [1, 2]), [some 7, some 8, none]) := by
  obtain ⟨s, made⟩ : ∃ s : State Nat,
      make (some [1, 2]) (some "group") (some [("group", 7)]) true (some ["/work"]) = .ok s :=
    ⟨_, rfl⟩
  obtain ⟨group, entries, named, given, answers⟩ := run_insulated made
  obtain rfl := Option.some.inj named
  obtain rfl := Option.some.inj given
  exact ⟨s, made, answers busyCaller .workDirs [], answers (busyCaller.take 9) .payload [.workDirs]⟩

end DagAccess.MergedInput
