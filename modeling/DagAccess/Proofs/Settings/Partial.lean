import DagAccess.Manager.Check
import DagAccess.Proofs.Settings.Lookup

/-!
# Settings that were read in part

Settings are remembered before it is known whether they can be loaded. So the fault of a component
is met once: from then on every lookup takes what was read before the fault for the settings
(`document_again`). For a component that is refused that is nothing, for a file with a fault it is
what stands above the fault, with values that are still lines.
-/

namespace DagAccess.Settings

/-- Every lookup takes this document for the settings of the component. -/
structure Uses (component : String) (d : Ini.Document) (w : World) : Prop where
  document : document component w = (.ok d, w)
  hasOption : ∀ option section_,
    (hasOption component option section_ w).1 =
      .ok (isSetIn w.host.environment d component option section_)
  get : ∀ option section_ fallback,
    (get component option section_ fallback w).1 =
      textIn w.host.environment d component option section_ fallback
  aclOptions : (aclOptions component w).1 = aclOptionsIn w.host.environment d component

theorem uses_of_loaded {component : String} {d : Ini.Document} {w : World} (named : component ≠ "")
    (loaded : w.settings.loaded.lookup component = some d) : Uses component d w := by
  have offers := offers_of_loaded named loaded
  constructor
  · exact document_loaded named loaded
  · intro option section_
    obtain ⟨after, run, -⟩ := offers.hasOption option section_
    rw [run]
  · intro option section_ fallback
    obtain ⟨after, run, -⟩ := offers.get option section_ fallback
    rw [run]
  · obtain ⟨after, run, -⟩ := offers.aclOptions
    rw [run]

/-- A lookup of settings that failed fails again only for want of a name. Else later lookups go by
what was read before the fault, as long as it is remembered. -/
theorem document_again {component : String} {w after : World} {fault : Fault}
    (failed : document component w = (.error fault, after)) :
    ((∃ again, (document component after).1 = .error again) ↔ component = "") ∧
    (component ≠ "" → ∃ cause partly,
      load w.host.files w.settings.paths component = (.error cause, partly) ∧
      fault = .settings cause ∧ (cause.isRefusal = true → partly.document = {}) ∧
      (∀ broken, cause = .ini broken →
        ∃ (d : Ini.Document) (source : Ini.Source), d.read source =
          (partly.document, some broken)) ∧
      ∀ later : World,
        later.settings.loaded.lookup component = after.settings.loaded.lookup component →
        Uses component partly.document later) := by
  by_cases unnamed : component = ""
  · subst unnamed
    refine ⟨⟨fun _ => rfl, fun _ => ?_⟩, fun named => absurd rfl named⟩
    exact ⟨_, congrArg Prod.fst (document_unnamed after)⟩
  · obtain ⟨cause, partly, loading, same, rest⟩ := document_eq_error unnamed failed
    have kept : after.settings.loaded.lookup component = some partly.document := by
      rw [rest]
      exact lookup_remember w component partly
    refine ⟨⟨?_, fun empty => absurd empty unnamed⟩, fun _ =>
      ⟨cause, partly, loading, same, ?_, ?_, ?_⟩⟩
    · rintro ⟨again, failed⟩
      rw [document_loaded unnamed kept] at failed
      cases failed
    · exact load_refused loading
    · rintro broken rfl
      exact load_broken loading
    · intro later remembered
      exact uses_of_loaded unnamed (remembered.trans kept)

/-- A component that is not known is refused once, and then has no options. -/
theorem document_again_unknown :
    ∃ after, document "nope" (World.start {} 0) =
      (.error (.settings (.unknownComponent "nope")), after) ∧
      Uses "nope" {} after := by
  have failed : document "nope" (World.start {} 0) =
      (.error (.settings (.unknownComponent "nope")), (document "nope" (World.start {} 0)).2) := rfl
  obtain ⟨cause, partly, -, refused, nothing, -, later⟩ := (document_again failed).2 (by decide)
  have unknown : cause = .unknownComponent "nope" := (Fault.settings.inj refused).symm
  have empty : partly.document = {} := nothing (by rw [unknown]; rfl)
  have used := later (document "nope" (World.start {} 0)).2 rfl
  rw [empty] at used
  exact ⟨_, failed, used⟩

/-- A machine whose settings switch access checks off above a line that cannot be read. -/
def brokenHost : Host where
  files := ({} : Files).put "/etc/dagacl/acl.conf"
    (.file "[acl]\nacls_enabled = false\nview_acls\n".toUTF8.toList)
  environment := [("USER", "am")]

/-- What is read from these settings. -/
def brokenSettings : Ini.Document where
  sections := [("acl", [("acls_enabled", .text "false")])]

/-- Settings that were refused are used: a manager is made of them that grants access to
everyone. -/
theorem document_again_broken : ∃ fault after,
    document "acl" (World.start brokenHost 0) = (.error fault, after) ∧
    (document "acl" after).1 = .ok brokenSettings ∧
    (aclOptions "acl" after).1 = .ok [("acls_enabled", "false")] ∧
    ∃ id final, Manager.ofProcess "" "acl" after = (.ok id, final) ∧
      (final.manager? id).map (·.enabled) = some false := by
  have refused : (document "acl" (World.start brokenHost 0)).1.isOk = false := by decide +kernel
  have kept : (document "acl" (World.start brokenHost 0)).2.settings.loaded.lookup "acl" =
      some brokenSettings := by decide +kernel
  have environment : (document "acl" (World.start brokenHost 0)).2.host.environment =
      [("USER", "am")] := by decide +kernel
  have made :
    (Manager.ofProcess "" "acl" (document "acl" (World.start brokenHost 0)).2).1.toOption =
      some 0 := by decide +kernel
  have manager : ((Manager.ofProcess "" "acl"
      (document "acl" (World.start brokenHost 0)).2).2.manager? 0).map (·.enabled) =
        some false := by
    decide +kernel
  rcases first : document "acl" (World.start brokenHost 0) with ⟨outcome, after⟩
  rw [first] at refused kept environment made manager
  have used : Uses "acl" brokenSettings after := uses_of_loaded (by decide) kept
  cases outcome with
  | ok id => exact Bool.noConfusion refused
  | error fault =>
    refine ⟨fault, after, rfl, congrArg Prod.fst used.document, ?_, ?_⟩
    · rw [used.aclOptions]
      simp only at environment
      rw [environment]
      rfl
    · rcases second : Manager.ofProcess "" "acl" after with ⟨outcome, final⟩
      rw [second] at made manager
      cases outcome with
      | error fault => cases made
      | ok id =>
        obtain rfl : id = 0 := Option.some.inj made
        exact ⟨0, final, rfl, manager⟩

end DagAccess.Settings
