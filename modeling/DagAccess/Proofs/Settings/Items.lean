import DagAccess.Proofs.Acl.Options
import DagAccess.Proofs.Acl.Standing
import DagAccess.Proofs.Settings.Submitted
import Mathlib.Data.Bool.AllAny
import Mathlib.Data.List.ReduceOption

/-!
# Lists as option values

A list is written as the texts of its items between commas. Texts and integers have the same text in
a list as on their own. Switches are written in capitals there and a missing item as the word for
nothing, so a list means its items if and only if it has none of these (`optionText_list_eq_iff`).
The users and groups that such a text names stand in the texts of the items, and items that are
plain names are among them (`list_means_items`).
-/

namespace DagAccess

namespace Datum

/-- A scalar of the kinds that lists of names hold. -/
inductive IsScalar : Datum → Prop
  | null : IsScalar .null
  | bool (b : Bool) : IsScalar (.bool b)
  | int (n : Int) : IsScalar (.int n)
  | text (s : String) : IsScalar (.text s)

/-- A scalar that a document writes out: a text or an integer. -/
inductive IsNamed : Datum → Prop
  | int (n : Int) : IsNamed (.int n)
  | text (s : String) : IsNamed (.text s)

/-- Texts and integers have one text. -/
theorem IsNamed.option?_eq {d : Datum} (h : d.IsNamed) : d.option? = d.plain? := by
  cases h <;> rfl

theorem list_ne_null (items : List Datum) : Datum.list items ≠ .null := nofun

theorem IsNamed.ne_null {d : Datum} (h : d.IsNamed) : d ≠ .null := by
  cases h <;> nofun

end Datum

namespace Settings

open Acl Datum

/-- The text of an option with a value, if it is given one. -/
def optionText (option : String) (value : Datum) : Except Fault (Option String) :=
  (optionsOf [(.text option, value)]).map (·.lookup option)

/-- The texts of an option with each of the values, joined; values without a text are left out. -/
def joinedTexts (option : String) (values : List Datum) : Except Fault (Option String) :=
  (values.mapM (optionText option)).map fun texts => some (commaSeparated texts.reduceOption)

/-- Scalars with their texts as items of a list, and the texts of those that have one on their
own. -/
inductive Told : List Datum → List String → List String → Prop
  | nil : Told [] [] []
  | named {item : Datum} {text : String} {items texts alone} (named : item.IsNamed)
      (written : item.plain? = some text) :
      Told items texts alone → Told (item :: items) (text :: texts) (text :: alone)
  | switch {items texts alone} (b : Bool) : Told items texts alone →
      Told (.bool b :: items) (boolWord b :: texts) ((if b then "true" else "false") :: alone)
  | missing {items texts alone} : Told items texts alone →
      Told (.null :: items) ("None" :: texts) alone

variable {option text : String} {value : Datum} {items : List Datum} {texts alone : List String}

/-! ## The text of an option -/

theorem optionText_eq (given : value ≠ .null) (option : String) :
    optionText option value = match value.option? with
      | some text => .ok (some text)
      | none => .error .tooLongToWrite := by
  rw [optionText, optionsOf_eq, List.foldlM_cons, enterEntry_eq given]
  cases value.option? with
  | none => rfl
  | some text =>
    show Except.ok ((Assoc.put option text []).lookup option) = _
    rw [Assoc.lookup_put, beq_self_eq_true, if_pos rfl]

theorem optionText_list (option : String) (items : List Datum) :
    optionText option (.list items) = match items.mapM plain? with
      | some texts => .ok (some (commaSeparated texts))
      | none => .error .tooLongToWrite := by
  rw [optionText_eq (list_ne_null items), option?]
  cases items.mapM plain? <;> rfl

/-- One more scalar is told in both ways, or it is an integer that is too long to write in
either. -/
theorem told_cons_or_failed (option : String) {item : Datum} (scalar : item.IsScalar) :
    (∃ text shown, item.plain? = some text ∧ optionText option item = .ok shown ∧
      ∀ {items texts} {others : List (Option String)}, Told items texts others.reduceOption →
        Told (item :: items) (text :: texts) (shown :: others).reduceOption) ∨
    (item.plain? = none ∧ optionText option item = .error .tooLongToWrite) := by
  cases scalar with
  | null => exact .inl ⟨"None", none, rfl, rfl, .missing⟩
  | bool b =>
    have given : Datum.bool b ≠ .null := nofun
    refine .inl ⟨boolWord b, _, rfl, optionText_eq given option, fun told => ?_⟩
    exact .switch b told
  | text s =>
    refine .inl ⟨s, some s, rfl, optionText_eq (IsNamed.text s).ne_null option, fun told => ?_⟩
    exact .named (.text s) rfl told
  | int n =>
    have shown := optionText_eq (IsNamed.int n).ne_null option
    cases written : Datum.plain? (.int n) with
    | none => exact .inr ⟨rfl, by rw [shown, IsNamed.option?_eq (.int n), written]⟩
    | some text =>
      refine .inl ⟨text, some text, rfl, by rw [shown, IsNamed.option?_eq (.int n), written],
        fun told => ?_⟩
      exact .named (.int n) written told

/-- Scalars are told in both ways, or an integer among them is too long to write in either. -/
theorem told_or_failed (option : String) (scalars : ∀ item ∈ items, item.IsScalar) :
    (∃ texts shown, items.mapM plain? = some texts ∧ items.mapM (optionText option) = .ok shown ∧
      Told items texts shown.reduceOption) ∨
    (items.mapM plain? = none ∧ items.mapM (optionText option) = .error .tooLongToWrite) := by
  induction items with
  | nil => exact .inl ⟨[], [], rfl, rfl, .nil⟩
  | cons item rest ih =>
    obtain ⟨scalar, scalars⟩ := List.forall_mem_cons.mp scalars
    rw [List.mapM_cons, List.mapM_cons]
    rcases told_cons_or_failed option scalar with ⟨text, shown, plain, alone, tell⟩ | ⟨plain, alone⟩
    · rw [plain, alone]
      rcases ih scalars with ⟨texts, others, plains, each, told⟩ | ⟨plains, each⟩
      · rw [plains, each]
        exact .inl ⟨text :: texts, shown :: others, rfl, rfl, tell told⟩
      · rw [plains, each]
        exact .inr ⟨rfl, rfl⟩
    · rw [plain, alone]
      exact .inr ⟨rfl, rfl⟩

/-! ## When both ways agree -/

theorem length_boolWord (b : Bool) :
    (boolWord b).toList.length = (if b then "true" else "false").toList.length := by
  cases b <;> simp [boolWord]

/-- Texts with a comma behind each of them. -/
def ended (texts : List String) : List Char :=
  texts.flatMap fun text => text.toList ++ [',']

theorem ended_cons (text : String) (texts : List String) :
    ended (text :: texts) = text.toList ++ ',' :: ended texts := by
  simp [ended]

/-- Joined texts have no comma behind the last one. -/
theorem ended_eq (text : String) (texts : List String) :
    ended (text :: texts) = (commaSeparated (text :: texts)).toList ++ [','] := by
  induction texts generalizing text with
  | nil => simp [ended, commaSeparated]
  | cons next rest ih =>
    rw [ended_cons, ih, commaSeparated_cons (List.cons_ne_nil next rest)]
    simp only [String.toList_append, List.append_assoc]
    rfl

namespace Told

/-- No item is shorter in a list than on its own. -/
theorem length_le (told : Told items texts alone) :
    (ended alone).length ≤ (ended texts).length := by
  induction told with
  | nil => exact Nat.le_refl _
  | named named written told ih =>
    rw [ended_cons, ended_cons, List.length_append, List.length_append]
    exact Nat.add_le_add_left (Nat.succ_le_succ ih) _
  | switch b told ih =>
    rw [ended_cons, ended_cons, List.length_append, List.length_append]
    rw [length_boolWord]
    exact Nat.add_le_add_left (Nat.succ_le_succ ih) _
  | missing told ih =>
    rw [ended_cons, List.length_append]
    exact Nat.le_add_left_of_le (Nat.le_succ_of_le ih)

/-- If all texts are the same in both ways, the items are texts and integers. -/
theorem named_of_ended (told : Told items texts alone) (same : ended texts = ended alone) :
    ∀ item ∈ items, item.IsNamed := by
  induction told with
  | nil => nofun
  | named named written told ih =>
    rw [ended_cons, ended_cons, List.append_cancel_left_eq] at same
    exact List.forall_mem_cons.mpr ⟨named, ih (List.cons.inj same).2⟩
  | switch b told ih =>
    rw [ended_cons, ended_cons] at same
    have words := (List.append_inj same (length_boolWord b)).1
    exact absurd words (by cases b <;> simp [boolWord])
  | missing told ih =>
    have longer := congrArg List.length same
    have shorter := told.length_le
    rw [ended_cons, List.length_append, List.length_cons] at longer
    omega

theorem eq_of_named (told : Told items texts alone) (named : ∀ item ∈ items, item.IsNamed) :
    alone = texts := by
  induction told with
  | nil => rfl
  | named _ _ told ih => rw [ih (List.forall_mem_cons.mp named).2]
  | switch b => nomatch (List.forall_mem_cons.mp named).1
  | missing => nomatch (List.forall_mem_cons.mp named).1

/-- A list has the joined texts of its items if and only if they are texts and integers. -/
theorem commaSeparated_eq_iff (told : Told items texts alone) :
    commaSeparated texts = commaSeparated alone ↔ ∀ item ∈ items, item.IsNamed := by
  refine ⟨fun same => ?_, fun named => by rw [told.eq_of_named named]⟩
  cases texts with
  | nil =>
    cases told
    nofun
  | cons text texts =>
    cases alone with
    | cons first alone => exact told.named_of_ended (by rw [ended_eq, ended_eq, same])
    | nil =>
      -- all items are missing, and the word for nothing is there
      cases told with
      | missing told =>
        have whole := ended_eq "None" texts
        rw [same, ended_cons] at whole
        exact absurd whole (by simp [commaSeparated])

end Told

/-- A list means its items if and only if it has neither switches nor missing items, unless an
integer is too long to write. -/
theorem optionText_list_eq_iff (option : String) (scalars : ∀ item ∈ items, item.IsScalar) :
    optionText option (.list items) = joinedTexts option items ↔
      (∀ item ∈ items, item.IsNamed) ∨ items.mapM plain? = none := by
  rw [optionText_list, joinedTexts]
  rcases told_or_failed option scalars with ⟨texts, shown, plains, each, told⟩ | ⟨plains, each⟩
  · rw [plains, each, ← told.commaSeparated_eq_iff]
    simp [Except.map]
  · rw [plains, each]
    simp [Except.map]

/-! ## Who is named by a list -/

theorem mem_texts_iff (written : items.mapM plain? = some texts) :
    text ∈ texts ↔ ∃ item ∈ items, item.plain? = some text := by
  have each : some text ∈ items.map plain? ↔ some text ∈ texts.map some := by
    rw [map_of_mapM written]
  simpa using each.symm

/-- The words for switches and for nothing are plain. -/
theorem noGap_of_unnamed {item : Datum} (scalar : item.IsScalar) (unnamed : ¬ item.IsNamed)
    (written : item.plain? = some text) : ∀ c ∈ text.toList, ¬ IsGap c := by
  -- `decide` on the bounded statement itself could run through every character there is.
  cases scalar with
  | null =>
    obtain rfl := Option.some.inj written
    exact List.all_iff_forall_prop.mp (by decide +kernel)
  | bool b =>
    obtain rfl := Option.some.inj written
    cases b <;> exact List.all_iff_forall_prop.mp (by decide +kernel)
  | int n => exact absurd (.int n) unnamed
  | text s => exact absurd (.text s) unnamed

/-- The options of a DAG grant an action to a name, as a user or as a group. -/
def Names (options : Options) (t : AclType) (name : String) : Prop :=
  let l := (readGrants .dag options).listing t
  name ∈ l.users ∨ name ∈ l.groups

theorem names_iff {options : Options} {t : AclType} {name : String} (dag : t.scope = .dag)
    (given : options.lookup t.option = some text) :
    Names options t name ↔ name ∈ (Listing.read text.toList).users ∨
    name ∈ (Listing.read text.toList).groups := by
  rw [Names, listing_readGrants, if_pos dag, listed, given]

/-- A name that an access list of joined texts names stands in one of them. -/
theorem exists_stands_of_read {name : String}
    (named : name ∈ (Listing.read (commaSeparated texts).toList).users ∨
      name ∈ (Listing.read (commaSeparated texts).toList).groups) :
    ∃ text ∈ texts, Stands name.toList text.toList := by
  have wellFormed := Listing.read_wellFormed (commaSeparated texts).toList
  have isName : IsGroupName name :=
    named.elim (fun user => (wellFormed.users name user).isGroupName) (wellFormed.groups name)
  have stands := stands_of_read named
  rw [commaSeparated_toList] at stands
  obtain ⟨cs, there, stands⟩ := stands.of_join (by simpa using isName.nonempty) isName.noComma _
  obtain ⟨text, found, rfl⟩ := List.mem_map.mp there
  exact ⟨text, found, stands⟩

/-- A user name among joined texts is named by them. -/
theorem mem_read_commaSeparated {name : String} (plain : IsUserName name) (there : name ∈ texts) :
    name ∈ (Listing.read (commaSeparated texts).toList).users ∨
      name ∈ (Listing.read (commaSeparated texts).toList).groups := by
  refine mem_read_of_piece plain ?_
  rw [commaSeparated_toList]
  exact mem_pieces_join plain.noComma (List.mem_map_of_mem there)

/-- Options of a document that gives an option this list, and nothing to the same option later. -/
def OfList (option : String) (items : List Datum) (options : Options) : Prop :=
  ∃ w path before behind key, Holds w path (before ++ (key, .list items) :: behind) ∧
    key.plain? = some option ∧ (∀ e ∈ behind, e.1.plain? ≠ some option) ∧
    (dagOptions path w).1 = .ok options

theorem OfList.lookup {options : Options} (given : OfList option items options) :
    ∃ texts, items.mapM plain? = some texts ∧
      options.lookup option = some (commaSeparated texts) := by
  obtain ⟨w, path, before, behind, key, held, named, last, run⟩ := given
  rw [dagOptions_of_holds held] at run
  have writable := optionsOf_ok_iff.mp ⟨options, run⟩ (key, .list items) (by simp)
  obtain ⟨_, text, -, written⟩ := writable.resolve_left nofun
  obtain ⟨texts, plains, rfl⟩ := Option.map_eq_some_iff.mp written
  exact ⟨texts, plains, lookup_optionsOf named (list_ne_null items) written last run⟩

/-- Who is named by a list stands in an item that is written out, or is the word for another
item. -/
theorem OfList.written {options : Options} {t : AclType} (given : OfList t.option items options)
    (scalars : ∀ item ∈ items, item.IsScalar) (dag : t.scope = .dag) {name : String}
    (names : Names options t name) :
    (∃ item ∈ items, item.IsNamed ∧ ∃ text, item.plain? = some text ∧
      Stands name.toList text.toList) ∨
      ∃ item ∈ items, ¬ item.IsNamed ∧ item.plain? = some name := by
  obtain ⟨texts, plains, has⟩ := given.lookup
  obtain ⟨text, there, stands⟩ := exists_stands_of_read ((names_iff dag has).mp names)
  obtain ⟨item, found, plain⟩ := (mem_texts_iff plains).mp there
  by_cases named : item.IsNamed
  · exact .inl ⟨item, found, named, text, plain, stands⟩
  · have whole := stands.eq_of_noGap (noGap_of_unnamed (scalars item found) named plain)
    exact .inr ⟨item, found, named, String.toList_inj.mp whole ▸ plain⟩

/-- An item whose text is a user name is named. -/
theorem OfList.names {options : Options} {t : AclType} (given : OfList t.option items options)
    (dag : t.scope = .dag) {name : String} (plain : IsUserName name)
    (there : ∃ item ∈ items, item.plain? = some name) : Names options t name := by
  obtain ⟨texts, plains, has⟩ := given.lookup
  exact (names_iff dag has).mpr (mem_read_commaSeparated plain ((mem_texts_iff plains).mpr there))

/-- The joined texts of texts and integers may stand in place of the list. -/
theorem dagOptions_joined {w v : World} {path other : String} {key : Datum}
    {before behind : List (Datum × Datum)} (scalars : ∀ item ∈ items, item.IsScalar)
    (named : ∀ item ∈ items, item.IsNamed) (joined : joinedTexts option items = .ok (some text))
    (list : Holds w path (before ++ (key, .list items) :: behind))
    (scalar : Holds v other (before ++ (key, .text text) :: behind)) :
    (dagOptions path w).1 = (dagOptions other v).1 := by
  have same : (Datum.list items).option? = (Datum.text text).option? := by
    rw [← (optionText_list_eq_iff option scalars).mpr (.inl named), optionText_list] at joined
    rw [option?]
    cases plains : items.mapM plain? with
    | none =>
      rw [plains] at joined
      cases joined
    | some texts =>
      rw [plains] at joined
      exact congrArg some (Option.some.inj (Except.ok.inj joined))
  rw [dagOptions_of_holds list, dagOptions_of_holds scalar]
  exact optionsOf_congr (list_ne_null items) (IsNamed.text text).ne_null same before behind key

/-- A list of scalars means its items if and only if they are texts and integers, unless an integer
is too long to write. Then the joined texts may stand in its place. The names that any list of
scalars gives access to stand in its items, but for the words for switches and for nothing, which
are among them; and every item that is a user name is. -/
theorem list_means_items (option : String) {items : List Datum}
    (scalars : ∀ item ∈ items, item.IsScalar) :
    (optionText option (.list items) = joinedTexts option items ↔
      (∀ item ∈ items, item.IsNamed) ∨ items.mapM plain? = none) ∧
    (∀ text, (∀ item ∈ items, item.IsNamed) → joinedTexts option items = .ok (some text) →
      ∀ w v path other before behind key,
        Holds w path (before ++ (key, .list items) :: behind) →
        Holds v other (before ++ (key, .text text) :: behind) →
        (dagOptions path w).1 = (dagOptions other v).1) ∧
    ∀ options t, t.scope = .dag → OfList t.option items options → ∀ name,
      (Names options t name →
        (∃ item ∈ items, item.IsNamed ∧ ∃ text, item.plain? = some text ∧
          Stands name.toList text.toList) ∨
        ∃ item ∈ items, ¬ item.IsNamed ∧ item.plain? = some name) ∧
      (IsUserName name → (∃ item ∈ items, item.plain? = some name) → Names options t name) := by
  refine ⟨optionText_list_eq_iff option scalars, ?_, ?_⟩
  · intro text named joined w v path other before behind key list scalar
    exact dagOptions_joined scalars named joined list scalar
  · intro options t dag given name
    exact ⟨given.written scalars dag, given.names dag⟩

theorem run_submission {bytes : List UInt8} {options : Options}
    (read : (readDagOptions "/dag.yaml" bytes).toOption = some options) :
    (dagOptions "/dag.yaml" (submission bytes)).1 = .ok options := by
  rw [run_dagOptions, read_submission]
  show readDagOptions "/dag.yaml" bytes = .ok options
  cases outcome : readDagOptions "/dag.yaml" bytes with
  | error fault =>
    rw [outcome] at read
    cases read
  | ok found =>
    rw [outcome] at read
    exact congrArg Except.ok (Option.some.inj read)

def namesList : List UInt8 := Command.bytes "dag_view_acls: [alice, 7, bob eng]\n"

def namesScalar : List UInt8 := Command.bytes "dag_view_acls: alice,7,bob eng\n"

-- The values of entries have no decidable equality, as reals are among them, so entries are told by
-- a test that can be run.

def isNamesList : List (Datum × Datum) → Bool
  | [(.text key, .list [.text first, .int n, .text last])] =>
    key = "dag_view_acls" ∧ first = "alice" ∧ n = 7 ∧ last = "bob eng"
  | _ => false

def isNamesScalar : List (Datum × Datum) → Bool
  | [(.text key, .text value)] => key = "dag_view_acls" ∧ value = "alice,7,bob eng"
  | _ => false

theorem entriesIn_namesList : entriesIn namesList =
    some [(.text "dag_view_acls", .list [.text "alice", .int 7, .text "bob eng"])] := by
  have evaluated : (entriesIn namesList).any isNamesList = true := by decide +kernel
  obtain ⟨entries, read, told⟩ := (Option.any_eq_true _ _).mp evaluated
  rw [read]
  unfold isNamesList at told
  split at told
  · obtain ⟨rfl, rfl, rfl, rfl⟩ := of_decide_eq_true told
    rfl
  · cases told

theorem entriesIn_namesScalar :
    entriesIn namesScalar = some [(.text "dag_view_acls", .text "alice,7,bob eng")] := by
  have evaluated : (entriesIn namesScalar).any isNamesScalar = true := by decide +kernel
  obtain ⟨entries, read, told⟩ := (Option.any_eq_true _ _).mp evaluated
  rw [read]
  unfold isNamesScalar at told
  split at told
  · obtain ⟨rfl, rfl⟩ := of_decide_eq_true told
    rfl
  · cases told

/-- A list with a number in it gives the same options as the text that its items make up, and the
first of its names has the right. -/
theorem list_means_items_written :
    let items : List Datum := [.text "alice", .int 7, .text "bob eng"]
    (∀ item ∈ items, item.IsScalar) ∧
    optionText "dag_view_acls" (.list items) = joinedTexts "dag_view_acls" items ∧
    (dagOptions "/dag.yaml" (submission namesList)).1 =
      (dagOptions "/dag.yaml" (submission namesScalar)).1 ∧
    Names [("dag_view_acls", "alice,7,bob eng")] .dagView "alice" := by
  intro items
  have scalars : ∀ item ∈ items, item.IsScalar := by
    simp only [items, List.forall_mem_cons]
    exact ⟨.text _, .int _, .text _, nofun⟩
  have named : ∀ item ∈ items, item.IsNamed := by
    simp only [items, List.forall_mem_cons]
    exact ⟨.text _, .int _, .text _, nofun⟩
  have list : Holds (submission namesList) "/dag.yaml"
      ([] ++ (.text "dag_view_acls", .list items) :: []) :=
    ⟨namesList, read_submission namesList, entriesIn_namesList⟩
  have scalar : Holds (submission namesScalar) "/dag.yaml"
      ([] ++ (.text "dag_view_acls", .text "alice,7,bob eng") :: []) :=
    ⟨namesScalar, read_submission namesScalar, entriesIn_namesScalar⟩
  have run : (dagOptions "/dag.yaml" (submission namesList)).1 =
      .ok [("dag_view_acls", "alice,7,bob eng")] :=
    run_submission (by decide +kernel)
  have joined : joinedTexts "dag_view_acls" items = .ok (some "alice,7,bob eng") := by
    decide +kernel
  obtain ⟨texts, same, grants⟩ := list_means_items "dag_view_acls" scalars
  refine ⟨scalars, texts.mpr (.inl named), same _ named joined _ _ _ _ _ _ _ list scalar, ?_⟩
  have given : OfList (AclType.dagView).option items [("dag_view_acls", "alice,7,bob eng")] :=
    ⟨_, _, [], [], _, list, rfl, nofun, run⟩
  exact (grants _ .dagView rfl given "alice").2 (by decide +kernel) ⟨.text "alice",
    List.mem_cons_self, rfl⟩

/-- A missing item of a list is the user `None`, whom nothing in the document names. -/
theorem list_with_missing_item :
    let items : List Datum := [.text "alice", .null]
    optionText "dag_view_acls" (.list items) = .ok (some "alice,None") ∧
    joinedTexts "dag_view_acls" items = .ok (some "alice") ∧
    (dagOptions "/dag.yaml" (submission (Command.bytes "dag_view_acls: [alice, null]\n"))).1 =
      .ok [("dag_view_acls", "alice,None")] ∧
    Names [("dag_view_acls", "alice,None")] .dagView "None" ∧
    ∀ item ∈ items, item.IsNamed → ∀ text, item.plain? = some text →
      ¬ Stands "None".toList text.toList := by
  refine ⟨by decide +kernel, by decide +kernel, run_submission (by decide +kernel),
    .inl (by decide +kernel), ?_⟩
  intro item there named text written stands
  obtain rfl : item = .text "alice" := by
    rcases List.mem_cons.mp there with rfl | there
    · rfl
    · obtain rfl := List.mem_singleton.mp there
      cases named
  obtain rfl := Option.some.inj written
  exact absurd (stands.eq_of_noGap (List.all_iff_forall_prop.mp (by decide +kernel)))
    (by decide +kernel)

end Settings

end DagAccess
