import DagAccess.Proofs.Ini.Overlay
import DagAccess.Proofs.Stateful
import DagAccess.Settings

/-!
# The files that settings come from

`layers` are the files that count for a component, the later ones before the earlier ones: one that
the environment names, or else the first base file that can be opened and the snippets in the order
of their directories and paths. Each part of loading reads the sources that it should (`Leaves`), so
that settings are what these files set one over another (`load_layers`), unless there is something
in place of a directory of snippets that cannot be listed (`load_unlisted`).
-/

namespace DagAccess

namespace Files

variable {files : Files} {path : String}

/-- The sources of those paths that can be opened. -/
def opened (files : Files) (paths : List String) : List Ini.Source :=
  paths.filterMap fun path => (files.read path).toOption.map (.ofBytes path)

/-- Why the names of what is there cannot be listed: it is a file, or it must not be opened. -/
def unlisted? (files : Files) (path : String) : Option SystemError :=
  match files.find? path with
  | some (.file _) => some (notDirectory path)
  | some .directory => if files.isReadable path then none else some (denied path)
  | none => none

/-- The files in a directory, in the order of their paths. -/
def filesIn (files : Files) (directory : String) : List String :=
  match files.list directory with
  | .ok names => ((names.map (join directory)).filter files.isFile).mergeSort (· ≤ ·)
  | .error _ => []

theorem opened_cons (files : Files) (path : String) (paths : List String) :
    files.opened (path :: paths) =
    match files.read path with
    | .ok bytes => .ofBytes path bytes :: files.opened paths
    | .error _ => files.opened paths := by
  unfold opened
  rw [List.filterMap_cons]
  cases files.read path <;> rfl

theorem opened_append (files : Files) (paths more : List String) :
    files.opened (paths ++ more) = files.opened paths ++ files.opened more :=
  List.filterMap_append

theorem isFile_of_read {bytes : List UInt8} (read : files.read path = .ok bytes) :
    files.isFile path = true := by
  unfold Files.read at read
  unfold isFile
  split at read
  · cases read
  · cases found : files.find? path with
    | none =>
      rw [found] at read
      simp only at read
      split at read
      · cases read
      · split at read <;> cases read
    | some entry =>
      rw [found] at read
      cases entry with
      | file bytes => rfl
      | directory => cases read

theorem isThere_of_isFile (file : files.isFile path = true) : files.isThere path = true := by
  unfold isFile at file
  unfold isThere
  cases found : files.find? path with
  | none =>
    rw [found] at file
    cases file
  | some entry => rfl

theorem any_isThere_of_opened {paths : List String} {first : Ini.Source} {others : List Ini.Source}
    (opened : files.opened paths = first :: others) : paths.any files.isThere = true := by
  have read : first ∈ files.opened paths := opened ▸ List.mem_cons_self
  obtain ⟨path, listed, found⟩ := List.mem_filterMap.mp read
  cases outcome : files.read path with
  | ok bytes =>
    exact List.any_eq_true.mpr ⟨path, listed, isThere_of_isFile (isFile_of_read outcome)⟩
  | error cause =>
    rw [outcome] at found
    cases found

theorem find?_eq_some_components {entry : Entry} (found : files.find? path = some entry) :
    ∃ parts, files.components path = some parts := by
  refine Option.isSome_iff_exists.mp (Option.isSome_iff_ne_none.mpr fun nowhere => ?_)
  unfold find? at found
  rw [nowhere] at found
  cases found

/-- What is there is listed, or there is a reason. -/
theorem list_of_isThere (there : files.isThere path = true) :
    match files.unlisted? path with
    | some cause => files.list path = .error cause
    | none => ∃ names, files.list path = .ok names := by
  unfold isThere at there
  unfold unlisted?
  obtain ⟨entry, found⟩ := Option.isSome_iff_exists.mp there
  obtain ⟨parts, components⟩ := find?_eq_some_components found
  unfold list
  rw [found, components]
  cases entry with
  | file bytes => rfl
  | directory =>
    cases readable : files.isReadable path with
    | true => exact ⟨_, rfl⟩
    | false => rfl

theorem isThere_of_unlisted {cause : SystemError} (unlisted : files.unlisted? path = some cause) :
    files.isThere path = true := by
  unfold unlisted? at unlisted
  unfold isThere
  cases found : files.find? path with
  | none =>
    rw [found] at unlisted
    cases unlisted
  | some entry => rfl

theorem filesIn_of_list {directory : String} {names paths : List String}
    (listed : files.list directory = .ok names)
    (kept : (names.map (join directory)).filter files.isFile = paths) :
    files.filesIn directory = paths.mergeSort (· ≤ ·) := by
  unfold filesIn
  rw [listed, ← kept]

theorem mergeSort_pair {α : Type} (le : α → α → Bool) (a b : α) :
    [a, b].mergeSort le = if le a b then [a, b] else [b, a] := by
  simp [List.mergeSort, List.merge]

theorem filesIn_of_absent (absent : files.isThere path = false) : files.filesIn path = [] := by
  unfold isThere at absent
  have nothing : files.find? path = none :=
    Option.isSome_eq_false_iff.mp absent |> Option.isNone_iff_eq_none.mp
  unfold filesIn list
  rw [nothing]
  cases files.components path <;> rfl

end Files

namespace Settings

/-- The first base file that can be opened, and the snippets. -/
def installed (files : Files) (base directories : List String) : List Ini.Source :=
  match files.opened base with
  | [] => []
  | first :: _ => first :: files.opened (directories.flatMap files.filesIn)

/-- The files that settings come from, the later ones before the earlier ones: the one that the
environment names, or else those that are installed. -/
def layers (files : Files) (chosen : String) (base directories : List String) : List Ini.Source :=
  if files.isFile chosen then files.opened [chosen] else installed files base directories

theorem layers_of_first {files : Files} {chosen path : String} {bytes : List UInt8}
    (nowhere : files.isFile chosen = false) (read : files.read path = .ok bytes)
    (rest directories : List String) :
    layers files chosen (path :: rest) directories =
      .ofBytes path bytes :: files.opened (directories.flatMap files.filesIn) := by
  unfold layers installed
  rw [nowhere, if_neg Bool.false_ne_true, Files.opened_cons, read]

/-- Why the snippets cannot be come by, which matters if a base file can be opened. -/
def unlisted? (files : Files) (chosen : String) (base directories : List String) :
    Option SystemError :=
  if files.isFile chosen || (files.opened base).isEmpty then none
  else directories.findSome? files.unlisted?

/-- Where settings of a component are looked for. -/
structure SearchPaths.Has (paths : SearchPaths) (component chosen : String)
    (base directories : List String) : Prop where
  chosen : paths.chosen.lookup component = some (some chosen)
  base : ∃ list, paths.files.lookup component = some list ∧ list.toList = .ok base
  directories : ∃ table, paths.snippets = some table ∧
    ((table.lookup component).getD (.paths [])).toList = .ok directories

/-- A new process looks where a variable of its environment says, or else in two places. -/
theorem SearchPaths.ofEnvironment_has (environment : List (String × String))
    {component name : String} (known : (component, name) ∈ fileVariables) :
    (ofEnvironment environment).Has component ((environment.lookup name).getD "")
      ["/etc/dagacl/" ++ component ++ ".conf", "/usr/etc/dagacl/" ++ component ++ ".conf"]
      ["/usr/etc/dagacl/" ++ component ++ ".conf.d", "/etc/dagacl/" ++ component ++ ".conf.d"] := by
  simp only [fileVariables, List.mem_cons, Prod.mk.injEq, List.not_mem_nil, or_false] at known
  rcases known with ⟨rfl, rfl⟩ | ⟨rfl, rfl⟩
  · exact ⟨rfl, ⟨_, rfl, rfl⟩, ⟨_, rfl, rfl⟩⟩
  · exact ⟨rfl, ⟨_, rfl, rfl⟩, ⟨_, rfl, rfl⟩⟩

/-- The places where access settings are usually looked for. -/
def aclFiles : List String := ["/etc/dagacl/acl.conf", "/usr/etc/dagacl/acl.conf"]

/-- The places where their snippets are. -/
def aclDirectories : List String := ["/usr/etc/dagacl/acl.conf.d", "/etc/dagacl/acl.conf.d"]

theorem SearchPaths.ofEnvironment_has_acl (environment : List (String × String)) :
    (ofEnvironment environment).Has "acl"
      ((environment.lookup "DAGACL_ACL_CONFIG").getD "") aclFiles
      aclDirectories :=
  ofEnvironment_has environment List.mem_cons_self

namespace Load

variable {α β : Type} {files : Files} {name : String} {l : Loading} {d : Ini.Document}

/-- A part of loading ends with an answer and leaves a document; what it says is left open. -/
def Leaves (act : Load α) (l : Loading) (a : α) (d : Ini.Document) : Prop :=
  ∃ notices, act l = (.ok a, { document := d, notices })

theorem isEmpty_of_lookup {table : List (String × β)} {key : String} {b : β}
    (found : table.lookup key = some b) : table.isEmpty = false := by
  cases table with
  | nil => cases found
  | cons _ _ => rfl

theorem Leaves.pure (a : α) : Leaves (Pure.pure a) l a l.document := ⟨l.notices, rfl⟩

theorem Leaves.notify (level : Logging.Level) (message : String) :
    Leaves (notify level message) l () l.document := ⟨_, rfl⟩

theorem Leaves.bind {act : Load α} {next : α → Load β} {a : α} {b : β} {e : Ini.Document}
    (first : Leaves act l a d) (later : ∀ l', l'.document = d → Leaves (next a) l' b e) :
    Leaves (act >>= next) l b e := by
  obtain ⟨notices, run⟩ := first
  obtain ⟨more, rest⟩ := later { document := d, notices } rfl
  exact ⟨more, by rw [Stateful.bind_apply, run]; exact rest⟩

/-- What follows goes on from there. -/
theorem Leaves.goesOn {act : Load α} {a : α} (leaves : Leaves act l a d) :
    ∃ l', l'.document = d ∧ ∀ {β : Type} (next : α → Load β), (act >>= next) l = next a l' := by
  obtain ⟨notices, run⟩ := leaves
  exact ⟨_, rfl, fun next => by rw [Stateful.bind_apply, run]⟩

/-- Nothing but messages comes of a part that only says something. -/
theorem Leaves.forM {act : α → Load PUnit} (each : ∀ a l, Leaves (act a) l ⟨⟩ l.document)
    (as : List α) : Leaves (as.forM act) l ⟨⟩ l.document := by
  induction as generalizing l with
  | nil => exact .pure _
  | cons a rest ih =>
    refine .bind (each a l) fun l' same => ?_
    have further : Leaves (rest.forM act) l' ⟨⟩ l'.document := ih
    rwa [same] at further

theorem name_ofBytes (path : String) (bytes : List UInt8) :
    (Ini.Source.ofBytes path bytes).name = path := by
  unfold Ini.Source.ofBytes
  dsimp only
  split <;> rfl

/-- Sources can be read onto a document as they can be read onto nothing. -/
theorem readFiles_leaves {paths : List String} (regular : l.document.IsRegular)
    (whole : ∀ s ∈ files.opened paths, (({} : Ini.Document).read s).2 = none) :
    Leaves (readFiles files paths) l ((files.opened paths).map (·.name))
      (l.document.readAll (files.opened paths)) := by
  induction paths generalizing l with
  | nil => exact .pure _
  | cons path rest ih =>
    unfold readFiles
    rw [Files.opened_cons] at whole ⊢
    cases read : files.read path with
    | error cause =>
      rw [read] at whole
      exact ih regular whole
    | ok bytes =>
      rw [read] at whole
      obtain ⟨first, later⟩ := List.forall_mem_cons.mp whole
      obtain ⟨goes, still, -⟩ := Ini.Document.read_over regular first
      obtain ⟨notices, run⟩ :=
        ih (l := { l with document := (l.document.read (.ofBytes path bytes)).1 }) still later
      refine ⟨notices, ?_⟩
      rcases reading : l.document.read (.ofBytes path bytes) with ⟨document, fault⟩
      rw [reading] at goes run
      obtain rfl : fault = none := goes
      simp only [Stateful.bind_apply, Stateful.get_apply, Stateful.modify_apply, reading, run]
      simp only [List.map_cons, name_ofBytes, Ini.Document.readAll, List.foldl_cons, reading]
      rfl

/-- The first file that can be opened ends the reading if it has a fault. -/
theorem readFiles_broken {paths : List String} {first : Ini.Source} {others : List Ini.Source}
    (opened : files.opened paths = first :: others) {cause : Ini.Fault}
    (broken : (l.document.read first).2 = some cause) :
    (readFiles files paths l).1 = .error (.ini cause) := by
  induction paths with
  | nil => cases opened
  | cons path rest ih =>
    unfold readFiles
    rw [Files.opened_cons] at opened
    cases read : files.read path with
    | error _ =>
      rw [read] at opened
      exact ih opened
    | ok bytes =>
      rw [read] at opened
      obtain ⟨rfl, -⟩ := List.cons.inj opened
      rcases reading : l.document.read (.ofBytes path bytes) with ⟨document, fault⟩
      rw [reading] at broken
      obtain rfl : fault = some cause := broken
      simp only [Stateful.bind_apply, Stateful.get_apply, Stateful.modify_apply, reading]
      rfl

theorem Leaves.ite {c : Prop} [Decidable c] {act other : Load α} {a : α} (yes : Leaves act l a d)
    (no : Leaves other l a d) : Leaves (if c then act else other) l a d := by
  split
  · exact yes
  · exact no

theorem reportUnread_leaves (paths read : List String) :
    Leaves (reportUnread files name paths read) l ⟨⟩ l.document := by
  refine .forM (fun path l' => ?_) paths
  exact .ite (.pure _) (.ite (.notify _ _) (.ite (.notify _ _) (.pure _)))

theorem readReported_leaves (name : String) {paths : List String} (regular : l.document.IsRegular)
    (whole : ∀ s ∈ files.opened paths, (({} : Ini.Document).read s).2 = none) :
    Leaves (readReported files name paths) l ((files.opened paths).map (·.name))
      (l.document.readAll (files.opened paths)) := by
  refine .bind (readFiles_leaves regular whole) fun l' same => ?_
  rw [← same]
  refine .bind (reportUnread_leaves _ _) fun l'' still => ?_
  rw [← still]
  exact .pure _

/-! ## Snippets -/

theorem readSnippets_leaves {names : List String} {directory : String}
    (listed : files.list directory = .ok names) (regular : l.document.IsRegular)
    (whole : ∀ s ∈ files.opened (files.filesIn directory), (({} : Ini.Document).read s).2 = none) :
    Leaves (readSnippets files name directory) l ()
      (l.document.readAll (files.opened (files.filesIn directory))) := by
  unfold readSnippets
  unfold Files.filesIn at whole ⊢
  rw [listed] at whole ⊢
  refine .bind (readReported_leaves name regular whole) fun l' same => ?_
  rw [← same]
  exact .ite (.notify _ _) (.pure _)

/-- Reads the snippets of directories, as far as there are some. -/
def readDirectories (files : Files) (name : String) (directories : List String) : Load Unit :=
  directories.forM fun d => do if files.isThere d then readSnippets files name d

theorem readDirectories_cons (files : Files) (name directory : String) (rest : List String) :
    readDirectories files name (directory :: rest) =
      ((do if files.isThere directory then readSnippets files name directory) >>= fun _ =>
        readDirectories files name rest) := rfl

/-- A directory of snippets is passed over if it is not there. -/
theorem readDirectory_leaves (name : String) {directory : String}
    (listable : files.unlisted? directory = none) (regular : l.document.IsRegular)
    (whole : ∀ s ∈ files.opened (files.filesIn directory), (({} : Ini.Document).read s).2 = none) :
    Leaves (do if files.isThere directory then readSnippets files name directory) l ()
      (l.document.readAll (files.opened (files.filesIn directory))) := by
  cases there : files.isThere directory with
  | false =>
    rw [Files.filesIn_of_absent there]
    exact .pure _
  | true =>
    have listed := Files.list_of_isThere there
    rw [listable] at listed
    obtain ⟨names, listed⟩ := listed
    exact readSnippets_leaves listed regular whole

section

variable {directories : List String} (regular : l.document.IsRegular)
  (whole : ∀ s ∈ files.opened (directories.flatMap files.filesIn),
    (({} : Ini.Document).read s).2 = none)
include regular whole

theorem readDirectories_leaves (name : String)
    (listable : directories.findSome? files.unlisted? = none) :
    Leaves (readDirectories files name directories) l ⟨⟩
      (l.document.readAll (files.opened (directories.flatMap files.filesIn))) := by
  induction directories generalizing l with
  | nil => exact .pure _
  | cons directory rest ih =>
    rw [List.flatMap_cons, Files.opened_append, List.forall_mem_append] at whole
    obtain ⟨first, later⟩ := List.forall_mem_cons.mp (List.findSome?_eq_none_iff.mp listable)
    rw [List.flatMap_cons, Files.opened_append, Ini.Document.readAll_append]
    refine .bind (readDirectory_leaves name first regular whole.1) fun l' same => ?_
    rw [← same]
    refine ih ?_ whole.2 (List.findSome?_eq_none_iff.mpr later)
    rw [same]
    exact Ini.Document.readAll_isRegular regular whole.1

theorem readDirectories_unlisted {cause : SystemError}
    (unlisted : directories.findSome? files.unlisted? = some cause) :
    (readDirectories files name directories l).1 = .error (.system cause) := by
  induction directories generalizing l with
  | nil => cases unlisted
  | cons directory rest ih =>
    rw [List.flatMap_cons, Files.opened_append, List.forall_mem_append] at whole
    rw [List.findSome?_cons] at unlisted
    cases here : files.unlisted? directory with
    | some reason =>
      rw [here] at unlisted
      obtain rfl : reason = cause := Option.some.inj unlisted
      have there := Files.isThere_of_unlisted here
      have listed := Files.list_of_isThere there
      rw [here] at listed
      have first : readSnippets files name directory l = (.error (.system reason), l) := by
        unfold readSnippets
        rw [listed]
        rfl
      rw [readDirectories_cons, Stateful.bind_apply, if_pos there, first]
    | none =>
      rw [here] at unlisted
      obtain ⟨notices, run⟩ := readDirectory_leaves name here regular whole.1
      have still := Ini.Document.readAll_isRegular regular whole.1
      rw [readDirectories_cons, Stateful.bind_apply, run]
      exact ih still whole.2 unlisted

end

/-! ## Base files -/

section

variable {snippets : Option (List (String × PathList))} {base : List String}

/-- Reads the snippets of a component. -/
def readTable (files : Files) (name : String) (snippets : Option (List (String × PathList))) :
    Load Unit :=
  match snippets with
  | none => throw .unusableSnippets
  | some table => do
    let directories ← ((table.lookup name).getD (.paths [])).toList
    readDirectories files name directories

theorem readBase_cons (files : Files) (name : String) (snippets : Option (List (String × PathList)))
    (path : String) (rest : List String) : readBase files name snippets (path :: rest) = (do
      let read ← readReported files name [path]
      if read.isEmpty then readBase files name snippets rest
      else
        notify .info s!"Reading configuration from {Text.quotedList read}"
        readTable files name snippets) := by
  rw [readBase.eq_def]
  rfl

/-- A base file that cannot be opened is passed over. -/
theorem readBase_unread (name : String) (snippets : Option (List (String × PathList)))
    {path : String} (rest : List String) {cause : SystemError}
    (unread : files.read path = .error cause) (regular : l.document.IsRegular) :
    ∃ l', l'.document = l.document ∧
      readBase files name snippets (path :: rest) l = readBase files name snippets rest l' := by
  rw [readBase_cons]
  have nothing : files.opened [path] = [] := by rw [Files.opened_cons, unread]; rfl
  have whole : ∀ s ∈ files.opened [path], (({} : Ini.Document).read s).2 = none := by
    rw [nothing]
    nofun
  obtain ⟨l', same, run⟩ := (readReported_leaves name regular whole).goesOn
  rw [nothing] at same run
  exact ⟨l', same, run _⟩

theorem readBase_none (regular : l.document.IsRegular) (none : files.opened base = []) :
    Leaves (readBase files name snippets base) l () l.document := by
  induction base generalizing l with
  | nil => exact .pure _
  | cons path rest ih =>
    rw [Files.opened_cons] at none
    cases read : files.read path with
    | ok bytes =>
      rw [read] at none
      cases none
    | error cause =>
      rw [read] at none
      obtain ⟨l', same, run⟩ := readBase_unread name snippets rest read regular
      obtain ⟨notices, ended⟩ := ih (l := l') (by rwa [same]) none
      exact ⟨notices, by rw [run, ended, same]⟩

theorem readBase_broken {first : Ini.Source} {others : List Ini.Source}
    (opened : files.opened base = first :: others) (regular : l.document.IsRegular)
    {cause : Ini.Fault} (broken : (l.document.read first).2 = some cause) :
    (readBase files name snippets base l).1 = .error (.ini cause) := by
  induction base generalizing l with
  | nil => cases opened
  | cons path rest ih =>
    rw [Files.opened_cons] at opened
    cases read : files.read path with
    | error _ =>
      rw [read] at opened
      obtain ⟨l', same, run⟩ := readBase_unread name snippets rest read regular
      rw [run]
      exact ih opened (same ▸ regular) (same ▸ broken)
    | ok bytes =>
      rw [read] at opened
      obtain ⟨rfl, -⟩ := List.cons.inj opened
      have one : files.opened [path] = [.ofBytes path bytes] := by rw [Files.opened_cons, read]; rfl
      rw [readBase_cons]
      exact Stateful.bind_error (Stateful.bind_error (readFiles_broken one broken) _) _

/-- The first base file that can be opened is read, and then the snippets. -/
theorem readBase_first {table : List (String × PathList)} {directories : List String}
    {first : Ini.Source} {others : List Ini.Source}
    (listed : ((table.lookup name).getD (.paths [])).toList = .ok directories)
    (opened : files.opened base = first :: others) (regular : l.document.IsRegular)
    (whole : (({} : Ini.Document).read first).2 = none) :
    ∃ l', l'.document = l.document.readAll [first] ∧
      readBase files name (some table) base l = readDirectories files name directories l' := by
  induction base generalizing l with
  | nil => cases opened
  | cons path rest ih =>
    rw [Files.opened_cons] at opened
    cases read : files.read path with
    | error cause =>
      rw [read] at opened
      obtain ⟨l', same, run⟩ := readBase_unread name (some table) rest read regular
      obtain ⟨l'', next, ended⟩ := ih (l := l') opened (by rwa [same])
      exact ⟨l'', by rw [next, same], run.trans ended⟩
    | ok bytes =>
      rw [read] at opened
      obtain ⟨rfl, -⟩ := List.cons.inj opened
      have one : files.opened [path] = [.ofBytes path bytes] := by rw [Files.opened_cons, read]; rfl
      have alone : ∀ s ∈ files.opened [path], (({} : Ini.Document).read s).2 = none := by
        rw [one]
        exact List.forall_mem_singleton.mpr whole
      obtain ⟨l₁, reads, run⟩ := (readReported_leaves name regular alone).goesOn
      rw [one] at reads run
      obtain ⟨l₂, same, next⟩ :=
        (Leaves.notify (l := l₁) .info
          s!"Reading configuration from {Text.quotedList [path]}").goesOn
      refine ⟨l₂, same.trans reads, ?_⟩
      rw [readBase_cons, run]
      simp only [List.map_cons, List.map_nil, List.isEmpty_cons, Bool.false_eq_true,
        if_false, name_ofBytes]
      rw [next, readTable]
      simp only [Stateful.bind_apply, Stateful.lift_apply, listed]

end

/-! ## A component -/

/-- The file that the environment names is read if there is one. -/
theorem readChosen_leaves (name : String) {chosen : String} (regular : l.document.IsRegular)
    (whole : files.isFile chosen = true →
      ∀ s ∈ files.opened [chosen], (({} : Ini.Document).read s).2 = none) :
    Leaves (readChosen files name chosen) l (files.isFile chosen)
      (if files.isFile chosen then l.document.readAll (files.opened [chosen]) else l.document) := by
  unfold readChosen
  by_cases unset : chosen = ""
  · subst unset
    have nowhere : files.isFile "" = false := rfl
    rw [nowhere]
    exact .pure _
  · rw [if_neg unset]
    cases file : files.isFile chosen with
    | true =>
      rw [if_pos rfl]
      refine .bind (readFiles_leaves regular (whole file)) fun l' same => ?_
      simp only [if_true]
      rw [← same]
      refine .bind (.notify _ _) fun l'' still => ?_
      rw [← still]
      exact .pure _
    | false =>
      simp only [Bool.false_eq_true, if_false]
      refine .bind (.notify _ _) fun l' same => ?_
      rw [← same]
      exact .pure _

section

variable {paths : SearchPaths} {chosen : String} {base directories : List String}
  (has : paths.Has name chosen base directories)
include has

theorem component_chosen (file : files.isFile chosen = true)
    (whole : ∀ s ∈ files.opened [chosen], (({} : Ini.Document).read s).2 = none)
    (regular : l.document.IsRegular) :
    Leaves (component files paths name) l () (l.document.readAll (files.opened [chosen])) := by
  unfold component
  rw [isEmpty_of_lookup has.chosen, has.chosen]
  simp only [Bool.false_eq_true, if_false]
  refine .bind (readChosen_leaves name regular fun _ => whole) fun l' same => ?_
  rw [file, if_pos rfl] at same ⊢
  rw [← same]
  exact .pure _

/-- Without a file that the environment names, base files are looked for. -/
theorem component_installed (file : files.isFile chosen = false) (regular : l.document.IsRegular) :
    ∃ l' message, l'.document = l.document ∧ component files paths name l =
      (if base.any files.isThere then readBase files name paths.snippets base
        else notify .debug message) l' := by
  have absent : files.isFile chosen = true →
      ∀ s ∈ files.opened [chosen], (({} : Ini.Document).read s).2 = none := by
    rw [file]
    nofun
  obtain ⟨l', same, run⟩ := (readChosen_leaves name regular absent).goesOn
  obtain ⟨list, listed, usual⟩ := has.base
  rw [file] at same run
  refine ⟨l', s!"Config file not found in {list.show}, using defaults for {name}", same, ?_⟩
  unfold component
  rw [isEmpty_of_lookup has.chosen, has.chosen]
  simp only [Bool.false_eq_true, if_false]
  rw [run, isEmpty_of_lookup listed, listed]
  simp only [Bool.false_eq_true, if_false, Stateful.bind_apply, Stateful.lift_apply, usual]

theorem component_unread (file : files.isFile chosen = false) (none : files.opened base = [])
    (regular : l.document.IsRegular) : Leaves (component files paths name) l () l.document := by
  obtain ⟨l', message, same, run⟩ := component_installed has file regular
  have nothing : Leaves (if base.any files.isThere then readBase files name paths.snippets base
      else notify .debug message) l' () l'.document :=
    .ite (readBase_none (same ▸ regular) none) (.notify _ _)
  rw [Leaves, run, ← same]
  exact nothing

/-- The first base file that can be opened is read before the snippets. -/
theorem component_first {first : Ini.Source} {others : List Ini.Source}
    (file : files.isFile chosen = false) (opened : files.opened base = first :: others)
    (whole : (({} : Ini.Document).read first).2 = none) (regular : l.document.IsRegular) :
    ∃ l', l'.document = l.document.readAll [first] ∧ l'.document.IsRegular ∧
      component files paths name l = readDirectories files name directories l' := by
  obtain ⟨l₁, message, same, run⟩ := component_installed has file regular
  obtain ⟨table, snippets, listed⟩ := has.directories
  obtain ⟨l₂, reads, rest⟩ := readBase_first listed opened (same ▸ regular) whole
  rw [same] at reads
  have still := Ini.Document.readAll_isRegular regular (List.forall_mem_singleton.mpr whole)
  refine ⟨l₂, reads, reads ▸ still, ?_⟩
  rw [run, if_pos (Files.any_isThere_of_opened opened), snippets, rest]

theorem component_layers (regular : l.document.IsRegular)
    (whole : ∀ s ∈ layers files chosen base directories, (({} : Ini.Document).read s).2 = none)
    (listable : unlisted? files chosen base directories = none) :
    Leaves (component files paths name) l ()
      (l.document.readAll (layers files chosen base directories)) := by
  unfold layers installed at whole ⊢
  unfold unlisted? at listable
  cases file : files.isFile chosen with
  | true =>
    rw [file] at whole
    exact component_chosen has file whole regular
  | false =>
    rw [file] at whole listable
    cases opened : files.opened base with
    | nil => exact component_unread has file opened regular
    | cons first others =>
      rw [opened] at whole listable
      obtain ⟨alone, later⟩ := List.forall_mem_cons.mp whole
      obtain ⟨l', reads, still, run⟩ := component_first has file opened alone regular
      have snippets := readDirectories_leaves still later name listable
      rw [reads] at snippets
      rw [Leaves, run]
      exact snippets

theorem component_unlisted (regular : l.document.IsRegular)
    (whole : ∀ s ∈ layers files chosen base directories, (({} : Ini.Document).read s).2 = none)
    {cause : SystemError} (unlisted : unlisted? files chosen base directories = some cause) :
    (component files paths name l).1 = .error (.system cause) := by
  unfold layers installed at whole
  unfold unlisted? at unlisted
  cases file : files.isFile chosen with
  | true =>
    rw [file] at unlisted
    cases unlisted
  | false =>
    rw [file] at whole unlisted
    cases opened : files.opened base with
    | nil =>
      rw [opened] at unlisted
      cases unlisted
    | cons first others =>
      rw [opened] at whole unlisted
      obtain ⟨alone, later⟩ := List.forall_mem_cons.mp whole
      obtain ⟨l', reads, still, run⟩ := component_first has file opened alone regular
      rw [run]
      exact readDirectories_unlisted still later unlisted

theorem component_broken {first : Ini.Source} {others : List Ini.Source}
    (counts : layers files chosen base directories = first :: others)
    (regular : l.document.IsRegular) {cause : Ini.Fault}
    (broken : (l.document.read first).2 = some cause) :
    (component files paths name l).1 = .error (.ini cause) := by
  unfold layers at counts
  cases file : files.isFile chosen with
  | true =>
    rw [file] at counts
    have named : chosen ≠ "" := by
      rintro rfl
      cases file
    have failed : (readChosen files name chosen l).1 = .error (.ini cause) := by
      unfold readChosen
      rw [if_neg named, if_pos file]
      exact Stateful.bind_error (readFiles_broken counts broken) _
    unfold component
    rw [isEmpty_of_lookup has.chosen, has.chosen]
    exact Stateful.bind_error failed _
  | false =>
    rw [file] at counts
    unfold installed at counts
    cases opened : files.opened base with
    | nil =>
      rw [opened] at counts
      cases counts
    | cons source more =>
      rw [opened] at counts
      obtain ⟨rfl, -⟩ := List.cons.inj counts
      obtain ⟨l', message, same, run⟩ := component_installed has file regular
      rw [run, if_pos (Files.any_isThere_of_opened opened)]
      exact readBase_broken opened (same ▸ regular) (same ▸ broken)

end

end Load

variable {files : Files} {paths : SearchPaths} {component chosen : String}
  {base directories : List String}

/-- Settings are what the files set that count, one over another. -/
theorem load_layers (has : paths.Has component chosen base directories)
    (whole : ∀ s ∈ layers files chosen base directories, (({} : Ini.Document).read s).2 = none)
    (listable : unlisted? files chosen base directories = none) :
    ∃ notices, load files paths component =
      (.ok (),
        { document :=
          ({} : Ini.Document).readAll (layers files chosen base directories), notices }) :=
  Load.component_layers has Ini.Document.empty_isRegular whole listable

/-- What is in place of a directory of snippets and cannot be listed ends the loading. -/
theorem load_unlisted (has : paths.Has component chosen base directories)
    (whole : ∀ s ∈ layers files chosen base directories, (({} : Ini.Document).read s).2 = none)
    {cause : SystemError} (unlisted : unlisted? files chosen base directories = some cause) :
    (load files paths component).1 = .error (.system cause) :=
  Load.component_unlisted has Ini.Document.empty_isRegular whole unlisted

/-- The first file that counts ends the loading if it has a fault. -/
theorem load_broken_first (has : paths.Has component chosen base directories) {first : Ini.Source}
    {others : List Ini.Source} (counts : layers files chosen base directories = first :: others)
    {cause : Ini.Fault} (broken : (({} : Ini.Document).read first).2 = some cause) :
    (load files paths component).1 = .error (.ini cause) :=
  Load.component_broken has counts Ini.Document.empty_isRegular broken

end Settings

end DagAccess
