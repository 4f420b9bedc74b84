import DagAccess.Proofs.Acl.Listing
import DagAccess.Proofs.Groups.Configured
import DagAccess.Proofs.Groups.Constant
import DagAccess.Proofs.Settings.Layers

/-!
# Groups that settings list

Where settings ask for a table of groups, the table is what the section `groups` lists, its names as
documents keep them and its groups read as access lists are (`readTable_sectionOptions`), and the
provider answers by it now and later, behind a cache or not (`constant_mounted`,
`configured_groupsIn`). What a file lists is found under names in small letters only
(`configured_static`).
-/

namespace DagAccess

open Settings (Offers textIn)

namespace Groups

/-! ## Names between commas -/

/-- Groups in a table are written as they are in access lists. -/
theorem trimmed_split (s : String) :
    Written.read.trimmed (Text.split ',' s) = Acl.readNames s.toList := by
  have strip : ∀ piece : List Char,
      Text.stripBlanks (String.ofList piece) = String.ofList (Text.trim Text.isBlank piece) := by
    intro piece
    rw [Text.stripBlanks, Text.strip, String.toList_ofList]
  unfold Written.read.trimmed Text.split Acl.readNames
  rw [List.map_map, List.filter_map, List.filter_map, List.map_map]
  simp only [Function.comp_def, strip]
  congr 3
  funext piece
  simp [String.ofList_eq_empty_iff]

/-- A text without quotes lists what is left of it without the spaces around it. -/
theorem readNames_unquote {s : String} (bare : '"' ∉ s.toList) :
    Acl.readNames (Text.unquote s).toList = Acl.readNames s.toList := by
  obtain ⟨front, back, before, after, whole⟩ :=
    Text.exists_eq_trim (fun c => c = '"' || c = ' ') s.toList
  have spaces : ∀ cs : List Char, (∀ c ∈ cs, c ∈ s.toList) →
      (∀ c ∈ cs, (c = '"' || c = ' ') = true) → ∀ c ∈ cs, Text.isBlank c = true := by
    intro cs inside marks c hc
    have noQuote : c ≠ '"' := fun same => bare (same ▸ inside c hc)
    have space : c = ' ' := by simpa [noQuote] using marks c hc
    rw [space]
    decide
  have inFront : ∀ c ∈ front, c ∈ s.toList := fun c hc => by rw [whole]; simp [hc]
  have inBack : ∀ c ∈ back, c ∈ s.toList := fun c hc => by rw [whole]; simp [hc]
  rw [Text.unquote, Text.strip, String.toList_ofList]
  conv_rhs => rw [whole, List.append_assoc]
  rw [Acl.readNames_append (spaces front inFront before),
    Acl.readNames_append_blank (spaces back inBack after)]

/-! ## The table of a section -/

/-- What a section lists for users. -/
def tableOf (entries : Ini.Entries) : List (String × PrincipalSet) :=
  entries.map fun e => (e.1, Acl.readNames (Text.unquote e.2.show).toList)

theorem lookup_tableOf (entries : Ini.Entries) (user : String) : (tableOf entries).lookup user =
    (entries.lookup user).map fun v => Acl.readNames (Text.unquote v.show).toList :=
  Assoc.lookup_map
    (fun _ (v : Ini.Value) => Acl.readNames (Text.unquote v.show).toList) entries user

theorem mapM_eq_ok {α β ε : Type} {f : α → Except ε β} {g : α → β} {as : List α}
    (each : ∀ a ∈ as, f a = .ok (g a)) : as.mapM f = .ok (as.map g) := by
  induction as with
  | nil => rfl
  | cons a rest ih =>
    obtain ⟨first, later⟩ := List.forall_mem_cons.mp each
    rw [List.mapM_cons, first, ih later]
    rfl

/-- Texts can be read as a table. -/
theorem readTable_texts (es : List (String × String)) :
    readTable (es.map fun e => (e.1, .text e.2)) =
    .ok (es.map fun e => (e.1, Acl.readNames e.2.toList)) := by
  have entries : es.map (fun e => (e.1, Acl.readNames e.2.toList)) =
      (es.map fun e => (e.1, Written.text e.2)).map fun e => (e.1, match e.2 with
        | .text s => Acl.readNames s.toList
        | _ => ∅) := by
    rw [List.map_map]
    rfl
  rw [entries]
  refine mapM_eq_ok fun e listed => ?_
  obtain ⟨e', -, rfl⟩ := List.mem_map.mp listed
  simp only [Written.read, trimmed_split]
  rfl

/-- A section of a finished document can be read as a table. -/
theorem readTable_sectionOptions {d : Ini.Document} (finished : d.IsFinished) {name : String}
    (there : d.hasSection name = true) :
    ((Settings.sectionOptionsIn d name).bind fun options =>
      readTable (options.map fun e => (e.1, .text e.2))) = .ok (tableOf (d.items name)) := by
  have options : Settings.sectionOptionsIn d name =
      .ok ((d.items name).map fun e => (e.1, Text.unquote e.2.show)) := by
    unfold Settings.sectionOptionsIn
    rw [if_pos there]
    refine mapM_eq_ok fun (option, v) listed => ?_
    obtain ⟨s, text⟩ : v.IsText := finished.items name _ listed
    rw [text]
    rfl
  rw [options, Except.bind, readTable_texts, List.map_map]
  rfl

/-! ## Mounted tables -/

/-- A table is constant behind a cache as well. -/
theorem constant_mounted {w : World} {providers : Array Provider}
    {table : List (String × PrincipalSet)} {lifetime : Int}
    (mounts : w.providers = mounted providers (.table table) lifetime) (user : String) :
    Constant (mountedId providers lifetime) user (.ok ((table.lookup user).getD ∅)) w := by
  unfold mounted at mounts
  unfold mountedId
  by_cases caches : 0 < lifetime
  · rw [if_pos caches] at mounts
    rw [if_pos caches]
    have behind : w.providers[providers.size]? = some (.table table) := by
      have earlier : providers.size ≠ (providers.push (.table table)).size := by
        rw [Array.size_push]
        exact Nat.ne_of_lt (Nat.lt_succ_self _)
      rw [mounts, Array.getElem?_push, if_neg earlier, Array.getElem?_push_size]
    have cache : w.providers[providers.size + 1]? = some (.cached providers.size lifetime []) := by
      rw [mounts, ← Array.size_push (.table table)]
      exact Array.getElem?_push_size
    exact (Mirrors.start cache (Nat.lt_succ_self _) (constant_table behind user)).constant
  · rw [if_neg caches] at mounts
    rw [if_neg caches]
    refine constant_table ?_ user
    rw [mounts]
    exact Array.getElem?_push_size

/-- The groups that a document lists for a user, under this very name. -/
def groupsIn (d : Ini.Document) (user : String) : PrincipalSet :=
  (((d.set? "groups" user).or (d.set? Ini.defaultName user)).map fun v =>
    Acl.readNames (Text.unquote v.show).toList).getD ∅

theorem lookup_tableOf_items {d : Ini.Document} (regular : d.IsRegular)
    (there : d.hasSection "groups" = true) (user : String) :
    ((tableOf (d.items "groups")).lookup user).getD ∅ = groupsIn d user := by
  rw [lookup_tableOf,
    Ini.Document.lookup_items there (regular.distinct _) regular.ordinary, groupsIn]

theorem backendIn_static {environment : List (String × String)} {d : Ini.Document}
    {component : String}
    (static : textIn environment d component "group_mapping" none "unix" = .ok "static")
    (finished : d.IsFinished) (there : d.hasSection "groups" = true) :
    backendIn environment d component = .ok (.table (tableOf (d.items "groups"))) := by
  have table := readTable_sectionOptions finished there
  unfold backendIn
  rw [static]
  simp only [Except.bind] at table ⊢
  cases options : Settings.sectionOptionsIn d "groups" with
  | error fault =>
    rw [options] at table
    cases table
  | ok listed =>
    rw [options] at table
    simp only at table
    simp only [table]
    rfl

/-- Where settings ask for a table, it answers what the document lists, now and later. -/
theorem configured_groupsIn {component : String} {d : Ini.Document} {w : World}
    (offers : Offers component d w) (regular : d.IsRegular) (there : d.hasSection "groups" = true)
    (static : textIn w.host.environment d component "group_mapping" none "unix" = .ok "static")
    {lifetime : Int} (lasting : lifetimeIn w.host.environment d component = .ok lifetime) :
    ∃ id after, configured component w = (.ok id, after) ∧
      ∀ user, Constant id user (.ok (groupsIn d user)) after := by
  have backend := backendIn_static static regular.finished there
  obtain ⟨after, run, -, -, mounts⟩ := offers.configured
  rw [backend, lasting] at run
  refine ⟨mountedId w.providers lifetime, after, run, fun user => ?_⟩
  rw [← lookup_tableOf_items regular there]
  exact constant_mounted (mounts _ backend _ lasting) user

/-- Settings that cannot be had end the making of a provider, if no other one is asked for
before. -/
theorem configured_unread {component : String} {w : World} {cause : Settings.LoadFault}
    (named : component ≠ "") (new : w.settings.loaded.lookup component = none)
    (failed : (Settings.load w.host.files w.settings.paths component).1 = .error cause)
    (static : ∀ text,
      w.host.environment.lookup (Settings.variableName component "group_mapping" none) = some text →
      Text.unquote text = "static") :
    (configured component w).1 = .error (.settings cause) := by
  have unread : (Settings.document component w).1 = .error (.settings cause) :=
    Settings.document_failed named new failed
  rw [configured_eq]
  cases override :
    w.host.environment.lookup (Settings.variableName component "group_mapping" none) with
  | none =>
    have asked : (Settings.get component "group_mapping" none "unix" w).1 =
        .error (.settings cause) := by
      unfold Settings.get
      rw [Act.run_bind, Settings.run_override, override]
      exact Stateful.bind_error unread _
    exact Stateful.bind_error asked _
  | some text =>
    let told : Logging.Notice :=
      ⟨.info, Settings.Load.logger, Settings.overrideMessage component "group_mapping" none⟩
    have asked : Settings.get component "group_mapping" none "unix" w =
        (.ok "static", w.logged told) := by
      unfold Settings.get
      rw [Act.run_bind, Settings.run_override, override]
      exact congrArg (fun kind => (Except.ok kind, w.logged told)) (static text override)
    have listed : (Settings.sectionOptions component "groups" (w.logged told)).1 =
        .error (.settings cause) := by
      have still : (Settings.document component (w.logged told)).1 = .error (.settings cause) :=
        Settings.document_failed named new failed
      unfold Settings.sectionOptions
      exact Stateful.bind_error still _
    rw [Act.run_bind, asked]
    exact Stateful.bind_error listed _

/-! ## What a file lists -/

/-- Users have the groups that a file lists: those of the section `groups` under a name that is
theirs in small letters, or else those of an option of all sections, or else none. -/
structure Listed (r : Ini.Document) (groupsOf : String → PrincipalSet) : Prop where
  named {n s : String} : (n, .text s) ∈ r.entries "groups" → '"' ∉ s.toList →
    groupsOf (Text.lower n) = Acl.readNames s.toList
  usual {n s : String} : (n, .text s) ∈ r.entries Ini.defaultName → '"' ∉ s.toList →
    (∀ e ∈ r.entries "groups", Text.lower e.1 ≠ Text.lower n) →
    groupsOf (Text.lower n) = Acl.readNames s.toList
  other {user : String} : (∀ e ∈ r.entries "groups", Text.lower e.1 ≠ user) →
    (∀ e ∈ r.entries Ini.defaultName, Text.lower e.1 ≠ user) → groupsOf user = ∅

section

variable {d r : Ini.Document} {name user : String}
  (overlaid : Ini.Document.Overlaid Text.lower {} r d)
include overlaid

/-- What a file sets is found under names in small letters. -/
theorem set?_of_mem (apart : r.Apart Text.lower) {n s : String}
    (there : (n, .text s) ∈ r.entries name) : d.set? name (Text.lower n) = some (.text s) := by
  rw [overlaid.set, Ini.Entries.lookup_rename_of_mem (apart name) there]
  rfl

theorem set?_eq_none (absent : ∀ e ∈ r.entries name, Text.lower e.1 ≠ user) :
    d.set? name user = none := by
  have nothing : ({} : Ini.Document).set? name user = none := by
    rw [Ini.Document.set?, Ini.Document.entries_empty]
    rfl
  rw [overlaid.set, Ini.Entries.lookup_rename_eq_none absent, nothing]
  rfl

/-- The groups in a document are those that the file lists. -/
theorem groupsIn_listed (apart : r.Apart Text.lower) : Listed r (groupsIn d) where
  named listed bare := by
    rw [groupsIn, set?_of_mem overlaid apart listed, Option.some_or, Option.map_some,
      Option.getD_some, Ini.Value.show, readNames_unquote bare]
  usual listed bare unnamed := by
    rw [groupsIn, set?_eq_none overlaid unnamed, set?_of_mem overlaid apart listed, Option.none_or,
      Option.map_some, Option.getD_some, Ini.Value.show, readNames_unquote bare]
  other unnamed unlisted := by
    rw [groupsIn, set?_eq_none overlaid unnamed, set?_eq_none overlaid unlisted, Option.none_or,
      Option.map_none, Option.getD_none]

end

section

variable {component chosen : String} {base directories : List String}
  {source : Ini.Source} {w : World}
  (named : component ≠ "") (has : w.settings.paths.Has component chosen base directories)
  (new : w.settings.loaded.lookup component = none)
  (alone : Settings.layers w.host.files chosen base directories = [source])
  (listable : Settings.unlisted? w.host.files chosen base directories = none)
include named has new alone listable

/-- A file that counts alone is what settings are. -/
theorem offers_of_layers (whole : (({} : Ini.Document).read source).2 = none) :
    Offers component (({} : Ini.Document).read source).1 w := by
  obtain ⟨notices, run⟩ :=
    Settings.load_layers has (alone ▸ List.forall_mem_singleton.mpr whole) listable
  rw [alone] at run
  exact Settings.offers_iff.mpr ⟨named, .inr ⟨new, _, run, rfl⟩⟩

/-- **Static groups.** Where settings in one file ask for a table, a user has the groups that the
section `groups` lists under the user's name, as access lists write them, and else those that the
options of all sections list; whoever is not listed has none, now and later. But names count in
small letters only: a name with a capital letter gives its groups to the user with the name in small
letters and to nobody else, and where two names differ in capitals only, there is no provider at
all. -/
theorem configured_static {r : Ini.Document}
    (plain : ({} : Ini.Document).readWith id source = (r, none))
    (there : r.hasSection "groups" = true) :
    let d := (({} : Ini.Document).read source).1
    (r.Apart Text.lower →
      textIn w.host.environment d component "group_mapping" none "unix" = .ok "static" →
      ∀ lifetime, lifetimeIn w.host.environment d component = .ok lifetime →
        ∃ id after groupsOf, configured component w = (.ok id, after) ∧ Listed r groupsOf ∧
          ∀ user, Constant id user (.ok (groupsOf user)) after) ∧
    (¬ r.Apart Text.lower →
      (∀ text, w.host.environment.lookup (Settings.variableName component "group_mapping" none) =
        some text → Text.unquote text = "static") →
      ∃ n s option, (configured component w).1 =
        .error (.settings (.ini (.duplicateOption source.name n s option)))) := by
  intro d
  have empty := Ini.Document.empty_isRegular
  constructor
  · intro apart static lifetime lasting
    have whole := (Ini.Document.read_whole_iff plain).mpr apart
    have overlaid := Ini.Document.read_overlaid empty whole
    rw [plain] at overlaid
    have regular : d.IsRegular := (Ini.Document.read_over empty whole).2.1
    have listing : d.hasSection "groups" = true := by rw [overlaid.hasSection, there, Bool.true_or]
    have offers := offers_of_layers named has new alone listable whole
    obtain ⟨id, after, made, constant⟩ := configured_groupsIn offers regular listing static lasting
    exact ⟨id, after, groupsIn d, made, groupsIn_listed overlaid apart, constant⟩
  · intro clash static
    obtain ⟨n, s, option, broken⟩ := Ini.Document.read_clash plain clash
    have failed := Settings.load_broken_first has alone broken
    exact ⟨n, s, option, configured_unread named new failed static⟩

end

/-- Settings that list groups, those of one user under a name with a capital letter and those of
another among the options of all sections. -/
def staticText : List UInt8 :=
  ("[acl]\ngroup_mapping = static\n[groups]\nAlice = eng\nbob = dev, ops\n" ++
    "[DEFAULT]\ncarol = qa\n").toUTF8.toList

/-- The file with these settings. -/
def staticSource : Ini.Source := .ofBytes "/etc/dagacl/acl.conf" staticText

/-- A machine with this file. -/
def staticHost : Host where
  files := { entries := [(["etc", "dagacl", "acl.conf"], .file staticText)] }

/-- What the file lists, names as they stand. -/
def staticListed : Ini.Document where
  defaults := [("carol", .text "qa")]
  sections := [("acl", [("group_mapping", .text "static")]),
    ("groups", [("Alice", .text "eng"), ("bob", .text "dev, ops")])]

theorem staticHost_layers :
    Settings.layers staticHost.files "" Settings.aclFiles Settings.aclDirectories =
      [staticSource] := by
  have nowhere : staticHost.files.isFile "" = false := rfl
  have read : staticHost.files.read "/etc/dagacl/acl.conf" = .ok staticText := by decide +kernel
  have nothing : Settings.aclDirectories.flatMap staticHost.files.filesIn = [] := by decide +kernel
  rw [Settings.aclFiles, Settings.layers_of_first nowhere read, nothing]
  rfl

theorem readWith_staticSource :
    ({} : Ini.Document).readWith id staticSource = (staticListed, none) := by
  decide +kernel

theorem read_staticSource_whole : (({} : Ini.Document).read staticSource).2 = none := by
  decide +kernel

theorem textIn_staticSource :
    textIn [] (({} : Ini.Document).read staticSource).1 "acl" "group_mapping" none "unix" =
      .ok "static" := by
  decide +kernel

theorem lifetimeIn_staticSource :
    lifetimeIn [] (({} : Ini.Document).read staticSource).1 "acl" = .ok 300 := by
  decide +kernel

theorem unlisted?_staticHost :
    Settings.unlisted? staticHost.files "" Settings.aclFiles Settings.aclDirectories = none := by
  decide +kernel

/-- Everyone has the groups that are listed under a name in small letters, and only the user who is
called so. -/
theorem configured_static_listed :
    ∃ id after, configured "acl" (World.start staticHost 0) = (.ok id, after) ∧
    (lookup id "bob" after).1 = .ok (Acl.readNames "dev, ops".toList) ∧
    (lookup id "alice" after).1 = .ok (Acl.readNames "eng".toList) ∧
    (lookup id "carol" after).1 = .ok (Acl.readNames "qa".toList) ∧
    (lookup id "Bob" after).1 = .ok ∅ := by
  have apart : staticListed.Apart Text.lower :=
    (Ini.Document.read_whole_iff readWith_staticSource).mp read_staticSource_whole
  have lists := configured_static (w := World.start staticHost 0) (by decide)
    (Settings.SearchPaths.ofEnvironment_has_acl []) rfl staticHost_layers unlisted?_staticHost
    readWith_staticSource rfl
  obtain ⟨id, after, groupsOf, made, listed, constant⟩ :=
    lists.1 apart textIn_staticSource 300 lifetimeIn_staticSource
  have bob : groupsOf "bob" = Acl.readNames "dev, ops".toList :=
    listed.named (n := "bob") (by decide) (by decide)
  have alice : groupsOf "alice" = Acl.readNames "eng".toList :=
    listed.named (n := "Alice") (by decide) (by decide)
  have carol : groupsOf "carol" = Acl.readNames "qa".toList :=
    listed.usual (n := "carol") (by decide) (by decide) (by decide)
  have other : groupsOf "Bob" = ∅ := listed.other (by decide) (by decide)
  exact ⟨id, after, made, bob ▸ (constant "bob").answer, alice ▸ (constant "alice").answer,
    carol ▸ (constant "carol").answer, other ▸ (constant "Bob").answer⟩

/-- A user whose name has a capital letter has none of the groups that are listed under it. -/
theorem configured_static_capital :
    ({} : Ini.Document).readWith id staticSource = (staticListed, none) ∧
    ("Alice", .text "eng") ∈ staticListed.entries "groups" ∧
    ∃ id after, configured "acl" (World.start staticHost 0) = (.ok id, after) ∧
      (lookup id "Alice" after).1 = .ok ∅ := by
  refine ⟨readWith_staticSource, by decide, ?_⟩
  have offers := offers_of_layers (w := World.start staticHost 0) (by decide)
    (Settings.SearchPaths.ofEnvironment_has_acl []) rfl staticHost_layers unlisted?_staticHost
    read_staticSource_whole
  have regular := (Ini.Document.read_over Ini.Document.empty_isRegular read_staticSource_whole).2.1
  have listing : (({} : Ini.Document).read staticSource).1.hasSection "groups" = true := by
    decide +kernel
  have none : groupsIn (({} : Ini.Document).read staticSource).1 "Alice" = ∅ := by decide +kernel
  obtain ⟨id, after, made, constant⟩ :=
    configured_groupsIn offers regular listing textIn_staticSource lifetimeIn_staticSource
  exact ⟨id, after, made, none ▸ (constant "Alice").answer⟩

end Groups

end DagAccess
