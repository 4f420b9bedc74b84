import DagAccess.Proofs.Session.Steps
import DagAccess.Proofs.Settings.Layers

/-!
# Settings stay as they were loaded

Whatever steps a session takes, settings that were loaded stay until a step starts the process anew
(`after_keeps`): files, the environment and the search paths may change, and settings of other
components may be loaded. So the settings of a component are what its files set when they were first
asked for, the last file that sets an option before the others, and remain that
(`settings_layered`).
-/

namespace DagAccess

open Stateful (Confined)

/-- Settings that were loaded stay. -/
def World.keeping : Frame World where
  rel v w := ∀ component d, v.settings.loaded.lookup component = some d →
    w.settings.loaded.lookup component = some d
  refl _ _ _ loaded := loaded
  trans first second component d loaded := second component d (first component d loaded)

theorem World.keeping_of_same {v w : World} (same : w.settings.loaded = v.settings.loaded) :
    keeping.rel v w := by
  intro component d loaded
  rw [same]
  exact loaded

theorem World.keeping_freesWork : World.keeping.FreesWork where
  free settings _ _ := keeping_of_same settings
  remembered {w component} new d other d' loaded := by
    -- a component that has settings is another one
    have apart : other ≠ component := by
      rintro rfl
      rw [new] at loaded
      cases loaded
    rw [List.lookup_cons, beq_false_of_ne apart]
    exact loaded

theorem World.keeping_freesMaking : World.keeping.FreesMaking where
  freesLookups := World.keeping_freesWork.freesLookups
  lists _ _ := keeping_of_same rfl
  managers _ _ := keeping_of_same rfl

namespace Session

theorem keeping_freesPlays : World.keeping.FreesPlays where
  freesWork := World.keeping_freesWork
  create := World.keeping_freesMaking.create
  derive := World.keeping_freesMaking.derive
  lists _ := fun _ => World.keeping_of_same rfl

/-- Settings that were loaded stay through all steps of a process. -/
theorem after_keeps (s : Session) {xs : List Step} (goesOn : ∀ x ∈ xs, x.restarts = false) :
    World.keeping.rel s.world (s.after xs).world :=
  after_rel keeping_freesPlays s fun x there restarts => by
    rw [goesOn x there] at restarts
    cases restarts

end Session

namespace Settings

/-- Settings that are asked for the first time are what the files set that count. -/
theorem document_layers {w : World} {component chosen : String} {base directories : List String}
    (named : component ≠ "") (has : w.settings.paths.Has component chosen base directories)
    (new : w.settings.loaded.lookup component = none)
    (whole : ∀ s ∈ layers w.host.files chosen base directories,
      (({} : Ini.Document).read s).2 = none)
    (listable : unlisted? w.host.files chosen base directories = none) :
    let d := ({} : Ini.Document).readAll (layers w.host.files chosen base directories)
    ∃ notices, document component w = (.ok d, w.remember component { document := d, notices }) := by
  intro d
  obtain ⟨notices, run⟩ := load_layers has whole listable
  exact ⟨notices, by rw [document_new named new, run]; rfl⟩

/-- **Layers.** Settings that are asked for the first time are read from the files that count
(`layers`), and from no others: the last one that sets an option counts, in every section, and there
are the sections that one of them has. What is found is the same wherever the same files count, and
it stays through all that happens until the process restarts. In a new process the file that counts
alone is the one that a variable of the environment names. Only if there is a file where a directory
of snippets is looked for, or a directory that must not be opened, loading ends there with a
fault. -/
theorem settings_layered {w : World} {component chosen : String} {base directories : List String}
    (named : component ≠ "") (has : w.settings.paths.Has component chosen base directories)
    (new : w.settings.loaded.lookup component = none)
    (whole : ∀ s ∈ layers w.host.files chosen base directories,
      (({} : Ini.Document).read s).2 = none) :
    let sources := layers w.host.files chosen base directories
    let d := ({} : Ini.Document).readAll sources
    (∀ name option, d.set? name option =
      sources.reverse.findSome? fun s => (({} : Ini.Document).read s).1.set? name option) ∧
    (∀ name, d.hasSection name = sources.any fun s =>
      (({} : Ini.Document).read s).1.hasSection name) ∧
    (∀ host clock key, (component, key) ∈ fileVariables →
      (World.start host clock).settings.paths.Has component ((host.environment.lookup key).getD "")
        ["/etc/dagacl/" ++ component ++ ".conf", "/usr/etc/dagacl/" ++ component ++ ".conf"]
        ["/usr/etc/dagacl/" ++ component ++ ".conf.d", "/etc/dagacl/" ++ component ++ ".conf.d"]) ∧
    match unlisted? w.host.files chosen base directories with
    | some cause => (document component w).1 = .error (.settings (.system cause))
    | none => ∃ after, document component w = (.ok d, after) ∧
        (∀ s : Session, s.world = after → ∀ xs : List Step, (∀ x ∈ xs, x.restarts = false) →
          document component (s.after xs).world = (.ok d, (s.after xs).world)) ∧
        ∀ v chosen' base' directories', v.settings.paths.Has component chosen' base' directories' →
          v.settings.loaded.lookup component = none →
          layers v.host.files chosen' base' directories' = sources →
          unlisted? v.host.files chosen' base' directories' = none →
          (document component v).1 = .ok d := by
  intro sources d
  have regular := Ini.Document.empty_isRegular
  refine ⟨fun name option => ?_, fun name => ?_, fun host clock key known => ?_, ?_⟩
  · have unset : ({} : Ini.Document).set? name option = none := by
      rw [Ini.Document.set?, Ini.Document.entries_empty]
      rfl
    rw [Ini.Document.set?_readAll regular whole, unset, Option.or_none]
  · exact (Ini.Document.hasSection_readAll regular whole name).trans (Bool.or_false _)
  · exact SearchPaths.ofEnvironment_has host.environment known
  · cases listable : unlisted? w.host.files chosen base directories with
    | some cause => exact document_failed named new (load_unlisted has whole listable)
    | none =>
      obtain ⟨notices, run⟩ := document_layers named has new whole listable
      refine ⟨_, run, fun s same xs goesOn => ?_,
        fun v chosen' base' directories' has new same listable => ?_⟩
      · have loaded : s.world.settings.loaded.lookup component = some d := by
          rw [same]
          exact lookup_remember w component _
        exact document_loaded named (s.after_keeps goesOn component d loaded)
      · obtain ⟨notices, run⟩ := document_layers named has new (same ▸ whole) listable
        rw [run, same]

/-- What the first base file holds. -/
def layeredBase : List UInt8 := "[acl]\nview_acls = alice\nmodify_acls = bob\n".toUTF8.toList

/-- A machine with both base files, two snippets, and a file that is named but not there. -/
def layeredHost : Host where
  files := { entries := [
    (["etc", "dagacl", "acl.conf"], .file layeredBase),
    (["usr", "etc", "dagacl", "acl.conf"], .file "[acl]\nacls_enabled = false\n".toUTF8.toList),
    (["etc", "dagacl", "acl.conf.d"], .directory),
    (["etc", "dagacl", "acl.conf.d", "20.conf"], .file "[acl]\nView_Acls = carol\n".toUTF8.toList),
    (["etc", "dagacl", "acl.conf.d", "10.conf"], .file "[acl]\nview_acls = dave\n".toUTF8.toList)] }
  environment := [("DAGACL_ACL_CONFIG", "/nowhere.conf")]

theorem layeredHost_layers : layers layeredHost.files "/nowhere.conf" aclFiles aclDirectories =
    layeredHost.files.opened
      ["/etc/dagacl/acl.conf", "/etc/dagacl/acl.conf.d/10.conf",
        "/etc/dagacl/acl.conf.d/20.conf"] := by
  have nowhere : layeredHost.files.isFile "/nowhere.conf" = false := by decide +kernel
  have read : layeredHost.files.read "/etc/dagacl/acl.conf" = .ok layeredBase := by decide +kernel
  have absent : layeredHost.files.filesIn "/usr/etc/dagacl/acl.conf.d" = [] :=
    Files.filesIn_of_absent (by decide +kernel)
  have listed : layeredHost.files.list "/etc/dagacl/acl.conf.d" = .ok ["20.conf", "10.conf"] := by
    decide +kernel
  have kept : (["20.conf", "10.conf"].map (Files.join "/etc/dagacl/acl.conf.d")).filter
      layeredHost.files.isFile =
          ["/etc/dagacl/acl.conf.d/20.conf", "/etc/dagacl/acl.conf.d/10.conf"] := by decide +kernel
  have sorted :
    ["/etc/dagacl/acl.conf.d/20.conf", "/etc/dagacl/acl.conf.d/10.conf"].mergeSort (· ≤ ·) =
      ["/etc/dagacl/acl.conf.d/10.conf", "/etc/dagacl/acl.conf.d/20.conf"] := by
    rw [Files.mergeSort_pair]
    decide +kernel
  have snippets := (Files.filesIn_of_list listed kept).trans sorted
  rw [aclFiles, layers_of_first nowhere read, Files.opened_cons, read, aclDirectories,
    List.flatMap_cons, absent, List.flatMap_cons, snippets]
  rfl

/-- The snippet with the greater path counts, whatever capitals it writes, and the base file further
down does not. -/
theorem settings_layered_snippets :
    ∃ d after, document "acl" (World.start layeredHost 0) = (.ok d, after) ∧
    d.set? "acl" "view_acls" = some (.text "carol") ∧
    d.set? "acl" "modify_acls" = some (.text "bob") ∧
    d.set? "acl" "acls_enabled" = none ∧
    ∀ s : Session, s.world = after →
      (document "acl"
        (s.after [.setVariable "DAGACL_ACL_CONFIG" none, .remove "/etc/dagacl/acl.conf"]).world).1 =
        .ok d := by
  have has :
      (World.start layeredHost 0).settings.paths.Has "acl" "/nowhere.conf" aclFiles
        aclDirectories :=
    SearchPaths.ofEnvironment_has_acl layeredHost.environment
  have listable : unlisted? layeredHost.files "/nowhere.conf" aclFiles aclDirectories = none := by
    decide +kernel
  have whole : ∀ s ∈ layers layeredHost.files "/nowhere.conf" aclFiles aclDirectories,
      (({} : Ini.Document).read s).2 = none := by
    rw [layeredHost_layers]
    decide +kernel
  have layered := settings_layered (w := World.start layeredHost 0) (by decide) has rfl whole
  obtain ⟨set, -, -, loaded⟩ := layered
  have same : (World.start layeredHost 0).host.files = layeredHost.files := rfl
  rw [same, layeredHost_layers] at set
  rw [same, layeredHost_layers, listable] at loaded
  obtain ⟨after, run, stays, -⟩ := loaded
  refine ⟨_, after, run, ?_, ?_, ?_, fun s here => ?_⟩
  · rw [set]
    decide +kernel
  · rw [set]
    decide +kernel
  · rw [set]
    decide +kernel
  · exact congrArg Prod.fst (stays s here _ (by decide))

/-- A machine with a base file and a file in place of the second directory of snippets. -/
def misplacedHost : Host where
  files := { entries := [
    (["etc", "dagacl", "acl.conf"], .file layeredBase),
    (["etc", "dagacl", "acl.conf.d"], .file [])] }

/-- A file is no directory whose files could count, and yet it ends the loading. -/
theorem settings_layered_misplaced :
    layers misplacedHost.files "" aclFiles aclDirectories =
      [.ofBytes "/etc/dagacl/acl.conf" layeredBase] ∧
    (({} : Ini.Document).read (.ofBytes "/etc/dagacl/acl.conf" layeredBase)).2 = none ∧
    (document "acl" (World.start misplacedHost 0)).1 =
      .error (.settings (.system (Files.notDirectory "/etc/dagacl/acl.conf.d"))) := by
  have nowhere : misplacedHost.files.isFile "" = false := rfl
  have read : misplacedHost.files.read "/etc/dagacl/acl.conf" = .ok layeredBase := by decide +kernel
  have nothing : aclDirectories.flatMap misplacedHost.files.filesIn = [] := by decide +kernel
  have counts : layers misplacedHost.files "" aclFiles aclDirectories =
      [.ofBytes "/etc/dagacl/acl.conf" layeredBase] := by
    rw [aclFiles, layers_of_first nowhere read, nothing]
    rfl
  have whole :
      (({} : Ini.Document).read (.ofBytes "/etc/dagacl/acl.conf" layeredBase)).2 = none := by
    decide +kernel
  refine ⟨counts, whole, ?_⟩
  have has : (World.start misplacedHost 0).settings.paths.Has "acl" "" aclFiles aclDirectories :=
    SearchPaths.ofEnvironment_has_acl misplacedHost.environment
  have unlisted : unlisted? misplacedHost.files "" aclFiles aclDirectories =
      some (Files.notDirectory "/etc/dagacl/acl.conf.d") := by decide +kernel
  have alone : ∀ s ∈ layers misplacedHost.files "" aclFiles aclDirectories,
      (({} : Ini.Document).read s).2 = none := by
    rw [counts]
    exact List.forall_mem_singleton.mpr whole
  exact document_failed (by decide) rfl (load_unlisted has alone unlisted)

end Settings

end DagAccess
