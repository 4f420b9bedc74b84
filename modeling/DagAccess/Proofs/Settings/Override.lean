import DagAccess.Proofs.Acl.Options
import DagAccess.Proofs.Acl.Trimming
import DagAccess.Proofs.Settings.Frame
import DagAccess.Proofs.Settings.Lookup

/-!
# Access lists from the environment

A variable of the environment gives an option about access its text without the spaces and double
quotes around it, whatever the settings say (`lookup_aclOptions`). The access list that is read from
it is the one that was meant only if that bears trimming (`listing_aclOptions`).
-/

namespace DagAccess.Settings

open Acl

variable {w : World} {component : String}

/-! ## Overridden options -/

theorem aclOption_overridden {option v : String}
    (overridden : w.host.environment.lookup (variableName component option none) = some v) :
    (aclOption component option w).1 = .ok (some (option, Text.unquote v)) := by
  have asked : hasOption component option none w =
      (.ok true, w.logged ⟨.info, Load.logger, overrideMessage component option none⟩) := by
    unfold hasOption
    rw [Act.run_bind, run_override, overridden]
    rfl
  unfold aclOption Settings.get
  rw [Act.run_bind, asked]
  simp only [if_true, Act.run_bind, run_override]
  rw [World.host_logged, overridden]
  rfl

/-- The entry of an option bears its name. -/
theorem aclOption_name {option : String} {e : String × String} {after : World}
    (run : aclOption component option w = (.ok (some e), after)) : e.1 = option := by
  obtain ⟨isSet, next, -, rest⟩ := Stateful.of_bind_ok run
  cases isSet with
  | false => cases rest
  | true =>
    obtain ⟨text, last, -, answered⟩ := Stateful.of_bind_ok rest
    cases answered
    rfl

/-- An option that the environment overrides is found among the options with the text of the
variable. -/
theorem lookup_filterMapM {option v : String} {names : List String} {conf : Options} {after : World}
    (overridden : w.host.environment.lookup (variableName component option none) = some v)
    (asked : option ∈ names) (run : names.filterMapM (aclOption component) w = (.ok conf, after)) :
    conf.lookup option = some (Text.unquote v) := by
  induction names generalizing w conf with
  | nil => cases asked
  | cons name rest ih =>
    -- earlier options may have settings loaded, but the environment stays
    have host := World.sameHost_freesSettings.aclOption component name w
    have given := aclOption_overridden overridden
    rw [List.filterMapM_cons] at run
    obtain ⟨entry, next, first, remaining⟩ := Stateful.of_bind_ok run
    rw [first] at host
    have still : next.host.environment.lookup (variableName component option none) = some v := by
      rw [show next.host = w.host from host, overridden]
    cases entry with
    | none =>
      -- the entry of the option itself cannot be missing
      have other : option ≠ name := by
        rintro rfl
        rw [first] at given
        cases given
      exact ih still (List.mem_of_ne_of_mem other asked) remaining
    | some e =>
      obtain ⟨others, last, later, answered⟩ := Stateful.of_bind_ok remaining
      cases answered
      by_cases same : option = name
      · rw [← same] at first
        rw [first] at given
        obtain rfl : e = (option, Text.unquote v) := Option.some.inj (Except.ok.inj given)
        rw [List.lookup_cons_self]
      · have different : (option == e.1) = false := by
          rw [aclOption_name first]
          exact beq_false_of_ne same
        rw [List.lookup_cons, different]
        exact ih still (List.mem_of_ne_of_mem same asked) later

theorem lookup_aclOptions {option v : String} {conf : Options} {after : World}
    (overridden : w.host.environment.lookup (variableName component option none) = some v)
    (asked : option ∈ aclOptionNames) (run : aclOptions component w = (.ok conf, after)) :
    conf.lookup option = some (Text.unquote v) :=
  lookup_filterMapM overridden asked run

/-! ## Answers -/

/-- Options are found in settings that were loaded. -/
theorem textIn_isText {d : Ini.Document} (finished : d.IsFinished)
    (environment : List (String × String)) (component option : String) (section_ : Option String)
    (fallback : String) :
    ∃ text, textIn environment d component option section_ fallback = .ok text := by
  unfold textIn
  cases environment.lookup (variableName component option section_) with
  | some text => exact ⟨_, rfl⟩
  | none =>
    cases found : d.find? (sectionOr component section_) option with
    | none => exact ⟨_, rfl⟩
    | some v =>
      obtain ⟨s, rfl⟩ := finished.find? found
      exact ⟨_, rfl⟩

theorem aclOptionsIn_isOptions {d : Ini.Document} (finished : d.IsFinished)
    (environment : List (String × String)) (component : String) :
    ∃ conf, aclOptionsIn environment d component = .ok conf := by
  have each : ∀ option, ∃ entry, aclOptionIn environment d component option = .ok entry := by
    intro option
    obtain ⟨text, given⟩ := textIn_isText finished environment component option none ""
    unfold aclOptionIn
    rw [given]
    cases isSetIn environment d component option none
    · exact ⟨none, rfl⟩
    · exact ⟨some (option, text), rfl⟩
  unfold aclOptionsIn
  induction aclOptionNames with
  | nil => exact ⟨[], rfl⟩
  | cons option rest ih =>
    obtain ⟨entry, given⟩ := each option
    obtain ⟨conf, later⟩ := ih
    rw [List.filterMapM_cons, given]
    cases entry with
    | none => exact ⟨conf, later⟩
    | some e =>
      refine ⟨e :: conf, ?_⟩
      simp only [bind, Except.bind, later]
      rfl

/-! ## Access lists -/

/-- The access list that is read where a variable overrides the option of a right is the one that
its text lists if and only if that bears trimming. There is an answer wherever the settings of the
component can be had and were loaded without a fault. -/
theorem listing_aclOptions {r : Right} {v : String} {w : World}
    (overridden : w.host.environment.lookup
      (variableName "acl" (AclType.ofAm r).option none) = some v)
    (unquoted : '"' ∉ v.toList) :
    (∀ conf after, aclOptions "acl" w = (.ok conf, after) →
      ∀ given : Options, given.lookup (AclType.ofAm r).option = some v →
        ((readGrants .am conf).listing (.ofAm r) = (readGrants .am given).listing (.ofAm r) ↔
          BearsTrimming v.toList)) ∧
    (∀ d, Offers "acl" d w → (w.settings.loaded.lookup "acl" = some d → d.IsFinished) →
      ∃ conf after, aclOptions "acl" w = (.ok conf, after)) := by
  constructor
  · intro conf after run given direct
    have asked : (AclType.ofAm r).option ∈ aclOptionNames := by cases r <;> decide
    have scope : (AclType.ofAm r).scope = .am := by cases r <;> rfl
    have found := lookup_aclOptions overridden asked run
    rw [listing_readGrants, listing_readGrants, if_pos scope, if_pos scope, listed, listed,
      found, direct]
    simp only
    rw [Text.toList_unquote unquoted]
    exact Listing.read_trim v.toList
  · intro d offers kept
    obtain ⟨conf, answer⟩ :=
      aclOptionsIn_isOptions (offers.isFinished kept) w.host.environment "acl"
    obtain ⟨after, run, -⟩ := offers.aclOptions
    exact ⟨conf, after, run.trans (by rw [answer])⟩

/-- A machine that has nothing but a variable for who may view the AM. -/
def viewHost (v : String) : Host where
  environment := [("DAGACL_ACL_VIEW_ACLS", v)]

theorem viewHost_overrides (v : String) :
    (World.start (viewHost v) 0).host.environment.lookup
      (variableName "acl" (AclType.ofAm .view).option none) = some v := by
  have name : variableName "acl" (AclType.ofAm .view).option none = "DAGACL_ACL_VIEW_ACLS" := by
    decide +kernel
  rw [name]
  rfl

theorem viewHost_offers (v : String) : Offers "acl" {} (World.start (viewHost v) 0) := rfl

/-- A space at the end does no harm. -/
theorem listing_aclOptions_users : ∃ conf after,
    aclOptions "acl" (World.start (viewHost "alice ops ") 0) = (.ok conf, after) ∧
    (readGrants .am conf).listing .amView =
      (readGrants .am [("view_acls", "alice ops ")]).listing .amView := by
  have unquoted : '"' ∉ "alice ops ".toList := by decide
  obtain ⟨same, answers⟩ := listing_aclOptions (viewHost_overrides "alice ops ") unquoted
  obtain ⟨conf, after, run⟩ := answers {} (viewHost_offers _) nofun
  refine ⟨conf, after, run, (same conf after run _ rfl).mpr ?_⟩
  intro first
  exact absurd first (by decide)

/-- A space at the start is lost, and with it the meaning of the names: a group becomes a user. -/
theorem listing_aclOptions_groups : ∃ conf after,
    aclOptions "acl" (World.start (viewHost " eng") 0) = (.ok conf, after) ∧
    (readGrants .am conf).listing .amView = ⟨.ofList ["eng"], ∅⟩ ∧
    (readGrants .am [("view_acls", " eng")]).listing .amView = ⟨∅, .ofList ["eng"]⟩ := by
  obtain ⟨after, run, -⟩ := (viewHost_offers " eng").aclOptions
  have answer : aclOptionsIn [("DAGACL_ACL_VIEW_ACLS", " eng")] {} "acl" =
      .ok [("view_acls", "eng")] := rfl
  refine ⟨[("view_acls", "eng")], after, run.trans (congrArg (·, after) answer), ?_, ?_⟩
  · decide
  · decide

end DagAccess.Settings
