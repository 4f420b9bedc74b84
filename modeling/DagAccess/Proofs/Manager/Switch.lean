import DagAccess.Proofs.Groups.Configured
import DagAccess.Proofs.Ini.Document
import DagAccess.Proofs.Manager.Frame
import DagAccess.Proofs.Manager.Making
import DagAccess.Proofs.Settings.Override
import DagAccess.Proofs.Text.Case
import DagAccess.Proofs.Text.Pieces

/-!
# Switching checks off

Checks are on or off by the text of one option, which a variable of the environment overrides
(`switchIn`). Only the words for off switch them off, and a text that is neither blank nor a word
refuses the manager of the process, each time it is asked for (`ofProcess_switch`). A manager that
is derived for a DAG has checks on if and only if its parent has.
-/

namespace DagAccess

open Acl (enabledOption readEnabled switchWords)

/-! ## Words -/

/-- The words that switch checks off. -/
def offWords : List String := ["0", "no", "false", "off"]

/-- The words that switch checks on. -/
def onWords : List String := ["1", "yes", "true", "on"]

theorem lookup_switchWords (word : String) : switchWords.lookup word =
    if word ∈ offWords then some false else if word ∈ onWords then some true else none := by
  by_cases known : word ∈ onWords ++ offWords
  · revert word
    decide
  · have off : word ∉ offWords := fun there => known (List.mem_append_right _ there)
    have on : word ∉ onWords := fun there => known (List.mem_append_left _ there)
    rw [if_neg off, if_neg on, List.lookup_eq_none_iff]
    intro e there
    have among : ∀ e ∈ switchWords, e.1 ∈ onWords ++ offWords := by decide
    have other : word ≠ e.1 := fun same => known (same ▸ among e there)
    simpa using other

/-- No word for off is blank. -/
theorem not_mem_offWords_of_blank {text : String} (blank : Text.blank text = true) :
    Text.lower text ∉ offWords := by
  have written : ∀ word ∈ offWords, Text.blank word = false := by decide
  rw [Text.lower_of_blank blank]
  intro there
  exact Bool.noConfusion ((written text there).symm.trans blank)

/-- Whether checks are on by the text of the switch, or the text if it says neither. -/
def switched : Option String → Except String Bool
  | none => .ok true
  | some text =>
    if Text.lower text ∈ offWords then .ok false
    else if Text.blank text = true ∨ Text.lower text ∈ onWords then .ok true
    else .error text

theorem readEnabled_eq {conf : Options} {v : Option String} (given : conf.lookup enabledOption = v)
    (unquoted : ∀ text, v = some text → Text.unquote text = text) :
    readEnabled conf = switched v := by
  unfold readEnabled switched
  rw [given]
  cases v with
  | none => rfl
  | some text =>
    simp only [lookup_switchWords, unquoted text rfl]
    by_cases blank : Text.blank text = true
    · rw [if_pos blank, if_neg (not_mem_offWords_of_blank blank), if_pos (.inl blank)]
    · rw [if_neg blank]
      by_cases off : Text.lower text ∈ offWords
      · rw [if_pos off, if_pos off]
      · rw [if_neg off, if_neg off]
        by_cases on : Text.lower text ∈ onWords
        · rw [if_pos on, if_pos (.inr on)]
        · rw [if_neg on, if_neg (not_or.mpr ⟨blank, on⟩)]

/-! ## The option and its variable -/

namespace Settings

/-- The text of the switch: that of the variable, or else that of the option, without the double
quotes and spaces around it. -/
def switchIn (environment : List (String × String)) (d : Ini.Document) : Option String :=
  match environment.lookup "DAGACL_ACL_ACLS_ENABLED" with
  | some text => some (Text.unquote text)
  | none =>
    match d.find? "acl" "acls_enabled" with
    | some (.text text) => some (Text.unquote text)
    | _ => none

theorem switchIn_unquoted {environment : List (String × String)} {d : Ini.Document} {text : String}
    (given : switchIn environment d = some text) : Text.unquote text = text := by
  unfold switchIn at given
  split at given
  · rw [← Option.some.inj given, Text.unquote_unquote]
  · split at given
    · rw [← Option.some.inj given, Text.unquote_unquote]
    · cases given

theorem aclOptionIn_enabled {d : Ini.Document} (finished : d.IsFinished)
    (environment : List (String × String)) :
    aclOptionIn environment d "acl" enabledOption =
      .ok ((switchIn environment d).map fun text => (enabledOption, text)) := by
  have variable_ : variableName "acl" enabledOption none = "DAGACL_ACL_ACLS_ENABLED" := by
    decide +kernel
  have isSet : isSetIn environment d "acl" enabledOption none =
      ((environment.lookup "DAGACL_ACL_ACLS_ENABLED").isSome ||
        (d.find? "acl" enabledOption).isSome) := by
    rw [isSetIn, variable_, ← d.hasOption_eq (by decide) (by decide)]
    rfl
  unfold aclOptionIn
  rw [isSet]
  unfold textIn switchIn
  rw [variable_]
  cases environment.lookup "DAGACL_ACL_ACLS_ENABLED" with
  | some text => rfl
  | none =>
    have place : sectionOr "acl" none = "acl" := rfl
    simp only [place, enabledOption]
    cases found : d.find? "acl" "acls_enabled" with
    | none => rfl
    | some value =>
      obtain ⟨text, rfl⟩ := finished.find? found
      rfl

theorem aclOptionIn_name {environment : List (String × String)} {d : Ini.Document}
    {component option : String} {e : String × String}
    (looked : aclOptionIn environment d component option = .ok (some e)) : e.1 = option := by
  unfold aclOptionIn at looked
  split at looked
  · cases text : textIn environment d component option none "" with
    | error fault =>
      rw [text] at looked
      cases looked
    | ok text' =>
      rw [text] at looked
      cases looked
      rfl
  · cases looked

theorem of_filterMapM_cons {α β ε : Type} {f : α → Except ε (Option β)} {a : α} {as : List α}
    {bs : List β} (run : (a :: as).filterMapM f = .ok bs) :
    ∃ found others, f a = .ok found ∧ as.filterMapM f = .ok others ∧
      bs = found.toList ++ others := by
  rw [List.filterMapM_cons] at run
  cases first : f a with
  | error fault =>
    rw [first] at run
    cases run
  | ok found =>
    cases found with
    | none =>
      rw [first] at run
      exact ⟨_, bs, rfl, run, rfl⟩
    | some b =>
      cases later : as.filterMapM f with
      | error fault =>
        simp only [first, bind, Except.bind, later] at run
        cases run
      | ok others =>
        simp only [first, bind, Except.bind, later] at run
        cases run
        exact ⟨_, _, rfl, rfl, rfl⟩

/-- The text of an option about access is the one that was looked up for it. -/
theorem lookup_filterMapM_aclOptionIn {environment : List (String × String)} {d : Ini.Document}
    {component option : String} {entry : Option (String × String)}
    (looked : aclOptionIn environment d component option = .ok entry) {names : List String}
    {conf : Options} (run : names.filterMapM (aclOptionIn environment d component) = .ok conf) :
    conf.lookup option = if option ∈ names then entry.map Prod.snd else none := by
  induction names generalizing conf with
  | nil =>
    cases run
    rfl
  | cons name rest ih =>
    obtain ⟨found, others, first, later, rfl⟩ := of_filterMapM_cons run
    have named : ∀ e, found = some e → e.1 = name := by
      rintro e rfl
      exact aclOptionIn_name first
    by_cases same : option = name
    · -- what was looked up for the option comes first, and if it is nothing, nothing comes later
      rw [← same, looked] at first
      obtain rfl := Except.ok.inj first
      cases entry with
      | none => simpa using ih later
      | some e =>
        rw [same, ← named e rfl, if_pos List.mem_cons_self]
        exact List.lookup_cons_self
    · have other : found.toList.lookup option = none := by
        rw [List.lookup_eq_none_iff]
        intro e there
        rw [named e (Option.mem_toList.mp there)]
        exact bne_iff_ne.mpr same
      rw [List.lookup_append, other, Option.none_or, ih later]
      simp [same]

theorem lookup_aclOptionsIn {environment : List (String × String)} {d : Ini.Document}
    (finished : d.IsFinished) {conf : Options} (run : aclOptionsIn environment d "acl" = .ok conf) :
    conf.lookup enabledOption = switchIn environment d := by
  rw [lookup_filterMapM_aclOptionIn (aclOptionIn_enabled finished environment) run,
    if_pos (by decide)]
  cases switchIn environment d <;> rfl

end Settings

/-! ## The manager of the process -/

/-- The managers and their lists stay as they are, and so does the manager of the process. -/
def World.sameManagers : Frame World where
  rel v w := (w.managers = v.managers ∧ w.lists = v.lists) ∧ w.current = v.current
  refl _ := ⟨⟨rfl, rfl⟩, rfl⟩
  trans first second :=
    ⟨⟨second.1.1.trans first.1.1, second.1.2.trans first.1.2⟩, second.2.trans first.2⟩

theorem World.sameManagers_freesLookups : World.sameManagers.FreesLookups where
  logged _ _ := ⟨⟨rfl, rfl⟩, rfl⟩
  remembered _ _ := ⟨⟨rfl, rfl⟩, rfl⟩
  free _ _ _ lists managers current := ⟨⟨managers, lists⟩, current⟩

namespace Manager

open Settings (Offers switchIn aclOptionsIn)

variable {d : Ini.Document} {v w : World} {amUser : String}

/-- A manager is made with checks on or off, or refused, as its options say. -/
theorem make_of_readEnabled (provider : Groups.ProviderId) (named : amUser ≠ "") (conf : Options) :
    match readEnabled conf with
    | .ok on => ∃ m, make .standard (some provider) amUser (some conf) = .ok m ∧ m.enabled = on
    | .error text =>
      make .standard (some provider) amUser (some conf) = .error (.invalidSwitch text) := by
  unfold make
  simp only [if_neg named]
  cases readEnabled conf with
  | error text => rfl
  | ok on => cases on <;> exact ⟨_, rfl, rfl⟩

/-- Since a world, settings and groups may have been looked up, and the process still has no
manager. -/
structure Waits (d : Ini.Document) (v w : World) : Prop where
  offers : Offers "acl" d w
  host : w.host = v.host
  managers : w.managers = v.managers ∧ w.lists = v.lists
  current : w.current = none

theorem Waits.manager?_eq (waits : Waits d v w) : w.manager? = v.manager? := by
  funext id
  rw [World.manager?, World.manager?, waits.managers.1, waits.managers.2]

/-- What finds the groups of users can be made. -/
def Usable (environment : List (String × String)) (d : Ini.Document) : Prop :=
  ∃ p lifetime, Groups.backendIn environment d "acl" = .ok p ∧
    Groups.lifetimeIn environment d "acl" = .ok lifetime

theorem usable_of_configured (offers : Offers "acl" d w) {provider : Groups.ProviderId}
    (made : (Groups.configured "acl" w).1 = .ok provider) : Usable w.host.environment d := by
  obtain ⟨after, run, -⟩ := offers.configured
  rw [run] at made
  cases backend : Groups.backendIn w.host.environment d "acl" with
  | error fault =>
    rw [backend] at made
    cases made
  | ok p =>
    cases lifetime : Groups.lifetimeIn w.host.environment d "acl" with
    | error fault =>
      rw [backend, lifetime] at made
      cases made
    | ok seconds => exact ⟨p, seconds, backend, lifetime⟩

/-- The manager of the process is made of options in which the switch has its text, in a world that
still waits for it. -/
theorem Waits.ofProcess_eq (waits : Waits d v w) (finished : d.IsFinished)
    (usable : Usable v.host.environment d) (named : amUser ≠ "") :
    ∃ provider conf asked, Waits d v asked ∧
      conf.lookup enabledOption = switchIn v.host.environment d ∧
      ofProcess amUser "acl" w = (do
        let id ← create .standard (some provider) amUser (some conf)
        modify fun w => { w with current := some id }
        return id : Act ManagerId) asked := by
  obtain ⟨p, lifetime, backend, seconds⟩ := usable
  obtain ⟨mounted, mounting, there, host, -⟩ := waits.offers.configured
  rw [waits.host, backend, seconds] at mounting
  replace mounting : Groups.configured "acl" w =
      (.ok (Groups.mountedId w.providers lifetime), mounted) := mounting
  obtain ⟨conf, given⟩ := Settings.aclOptionsIn_isOptions finished v.host.environment "acl"
  obtain ⟨asked, asking, offers, same⟩ := there.aclOptions
  rw [host, waits.host, given] at asking
  have managers := World.sameManagers_freesLookups.configured "acl" w
  rw [mounting] at managers
  have kept := World.sameManagers_freesLookups.freesSettings.aclOptions "acl" mounted
  rw [asking] at kept
  refine ⟨Groups.mountedId w.providers lifetime, conf, asked,
    ⟨offers, same.trans (host.trans waits.host), ?_, ?_⟩,
    Settings.lookup_aclOptionsIn finished given, ?_⟩
  · exact ⟨kept.1.1.trans (managers.1.1.trans waits.managers.1),
      kept.1.2.trans (managers.1.2.trans waits.managers.2)⟩
  · exact kept.2.trans (managers.2.trans waits.current)
  · unfold ofProcess
    simp only [Act.run_bind, Act.run_get, waits.current, mounting, if_neg named,
      Act.run_pure, asking]

/-- What was made is noted as the manager of the process. -/
theorem Waits.ofProcess_ok (waits : Waits d v w) (finished : d.IsFinished)
    (usable : Usable v.host.environment d) (named : amUser ≠ "") {on : Bool}
    (spoken : switched (switchIn v.host.environment d) = .ok on) :
    ∃ p after, ofProcess amUser "acl" w = (.ok v.managers.size, after) ∧
      after.managers[v.managers.size]? = some p ∧ p.enabled = on ∧ p.parser = .standard ∧
      p.Owns after.lists ∧ after.current = some v.managers.size := by
  obtain ⟨provider, conf, asked, there, given, run⟩ := waits.ofProcess_eq finished usable named
  have making := make_of_readEnabled provider named conf
  rw [readEnabled_eq given fun text => Settings.switchIn_unquoted, spoken] at making
  obtain ⟨m, made, same⟩ := making
  rcases create_standard (some provider) amUser (some conf) asked with
    ⟨cause, refused, -⟩ | ⟨p, after, value, creating, standard, added⟩
  · rw [made] at refused
    cases refused
  · have found := added.found
    rw [there.managers.1] at creating found
    refine ⟨p, { after with current := some v.managers.size }, ?_, found, ?_, standard,
      added.owns, rfl⟩
    · rw [run, Act.run_bind, creating]
      rfl
    · have enabled := congrArg Manager.enabled (Except.ok.inj (made.symm.trans value))
      exact enabled.symm.trans same

/-- A text that says neither refuses the manager, and the process goes on to wait for it. -/
theorem Waits.ofProcess_refused (waits : Waits d v w) (finished : d.IsFinished)
    (usable : Usable v.host.environment d) (named : amUser ≠ "") {text : String}
    (spoken : switched (switchIn v.host.environment d) = .error text) :
    ∃ after, ofProcess amUser "acl" w = (.error (.acl (.invalidSwitch text)), after) ∧
      Waits d v after := by
  obtain ⟨provider, conf, asked, there, given, run⟩ := waits.ofProcess_eq finished usable named
  have refused := make_of_readEnabled provider named conf
  rw [readEnabled_eq given fun text => Settings.switchIn_unquoted, spoken] at refused
  refine ⟨asked, ?_, there⟩
  rcases create_standard (some provider) amUser (some conf) asked with
    ⟨cause, same, creating⟩ | ⟨p, after, value, -⟩
  · rw [refused] at same
    cases same
    rw [run, Act.run_bind, creating]
  · rw [refused] at value
    cases value

/-- What is answered and what the switch says determine each other. -/
theorem Waits.ofProcess_iff (waits : Waits d v w) (finished : d.IsFinished)
    (usable : Usable v.host.environment d) (named : amUser ≠ "") (on : Bool) :
    (∃ id m after, ofProcess amUser "acl" w = (.ok id, after) ∧ after.manager? id = some m ∧
      after.current = some id ∧ m.enabled = on) ↔
        switched (switchIn v.host.environment d) = .ok on := by
  cases spoken : switched (switchIn v.host.environment d) with
  | error text =>
    obtain ⟨after, run, -⟩ := waits.ofProcess_refused finished usable named spoken
    rw [run]
    exact iff_of_false (fun ⟨_, _, _, same, _⟩ => nomatch same) nofun
  | ok other =>
    obtain ⟨p, after, run, found, enabled, -, -, current⟩ :=
      waits.ofProcess_ok finished usable named spoken
    have there : after.manager? v.managers.size = some (p.manager after.lists) := by
      rw [World.manager?, found]
      rfl
    constructor
    · rintro ⟨id, c, final, same, listed, -, on⟩
      rw [run] at same
      cases same
      rw [there] at listed
      cases listed
      rw [← on, ← enabled]
      rfl
    · rintro ⟨⟩
      exact ⟨_, _, after, run, there, current, enabled⟩

/-- However often it is asked for, the manager is refused. -/
theorem Waits.attempts_refused (waits : Waits d v w) (finished : d.IsFinished)
    (usable : Usable v.host.environment d) {text : String}
    (spoken : switched (switchIn v.host.environment d) = .error text) {users : List String}
    (named : ∀ user ∈ users, user ≠ "") :
    ∃ after, (users.mapM fun user => Act.attempt (ofProcess user "acl")) w =
      (.ok (users.map fun _ => .error (.acl (.invalidSwitch text))), after) ∧ Waits d v after := by
  induction users generalizing w with
  | nil => exact ⟨w, rfl, waits⟩
  | cons user rest ih =>
    obtain ⟨first, others⟩ := List.forall_mem_cons.mp named
    obtain ⟨next, run, still⟩ := waits.ofProcess_refused finished usable first spoken
    obtain ⟨after, later, kept⟩ := ih still others
    refine ⟨after, ?_, kept⟩
    rw [List.mapM_cons, Act.run_bind, Act.run_attempt, run]
    simp only [Act.run_bind, later]
    rfl

theorem switched_off_iff {v : Option String} :
    switched v = .ok false ↔ ∃ text, v = some text ∧ Text.lower text ∈ offWords := by
  cases v with
  | none => exact iff_of_false nofun nofun
  | some text =>
    rw [switched]
    by_cases off : Text.lower text ∈ offWords
    · rw [if_pos off]
      exact iff_of_true rfl ⟨text, rfl, off⟩
    · rw [if_neg off]
      refine iff_of_false ?_ ?_
      · split <;> nofun
      · rintro ⟨_, ⟨⟩, there⟩
        exact off there

theorem switched_on_iff {v : Option String} : switched v = .ok true ↔
    ∀ text, v = some text → Text.blank text = true ∨ Text.lower text ∈ onWords := by
  cases v with
  | none => exact iff_of_true rfl nofun
  | some text =>
    have apart : ∀ word ∈ offWords, word ∉ onWords := by decide
    rw [switched]
    by_cases off : Text.lower text ∈ offWords
    · rw [if_pos off]
      refine iff_of_false nofun fun spoken => ?_
      exact (spoken text rfl).elim (fun blank => not_mem_offWords_of_blank blank off) (apart _ off)
    · rw [if_neg off]
      by_cases on : Text.blank text = true ∨ Text.lower text ∈ onWords
      · rw [if_pos on]
        refine iff_of_true rfl ?_
        rintro _ ⟨⟩
        exact on
      · rw [if_neg on]
        exact iff_of_false nofun fun spoken => on (spoken text rfl)

/-- **Only a word for off switches checks off.** In a process without a manager the one that is made
has checks off if and only if the switch says so, and on if and only if the switch is not set, is
blank or says so. Any other text refuses the manager, as often as it is asked for, and leaves the
process without one. A manager that is derived for a DAG has checks on or off as its parent has,
whatever the options of the DAG say. -/
theorem ofProcess_switch (offers : Offers "acl" d w)
    (kept : w.settings.loaded.lookup "acl" = some d → d.IsFinished)
    (usable : ∃ provider, (Groups.configured "acl" w).1 = .ok provider) (first : w.current = none)
    (named : amUser ≠ "") :
    ((∃ id m after, ofProcess amUser "acl" w = (.ok id, after) ∧ after.manager? id = some m ∧
        after.current = some id ∧ m.enabled = false) ↔
      ∃ text, switchIn w.host.environment d = some text ∧
        Text.lower text ∈ ["0", "no", "false", "off"]) ∧
    ((∃ id m after, ofProcess amUser "acl" w = (.ok id, after) ∧ after.manager? id = some m ∧
        after.current = some id ∧ m.enabled = true) ↔
      ∀ text, switchIn w.host.environment d = some text →
        Text.blank text = true ∨ Text.lower text ∈ ["1", "yes", "true", "on"]) ∧
    (∀ text, switchIn w.host.environment d = some text → Text.blank text = false →
      Text.lower text ∉ ["0", "no", "false", "off", "1", "yes", "true", "on"] →
      ∃ after, ofProcess amUser "acl" w = (.error (.acl (.invalidSwitch text)), after) ∧
        after.current = none ∧ after.manager? = w.manager? ∧
        ∀ users : List String, (∀ user ∈ users, user ≠ "") →
          ∃ final, (users.mapM fun user => Act.attempt (ofProcess user "acl")) after =
              (.ok (users.map fun _ => .error (.acl (.invalidSwitch text))), final) ∧
            final.current = none ∧ final.manager? = w.manager?) ∧
    (∀ id m after, ofProcess amUser "acl" w = (.ok id, after) → after.manager? id = some m →
      ∀ dagUser conf, dagUser ≠ "" → ∃ n c later, derive id dagUser conf after = (.ok n, later) ∧
        later.manager? n = some c ∧ c.enabled = m.enabled) := by
  have finished := offers.isFinished kept
  obtain ⟨provider, made⟩ := usable
  have usable := usable_of_configured offers made
  have waits : Waits d w w := ⟨offers, rfl, ⟨rfl, rfl⟩, first⟩
  have answers := waits.ofProcess_iff finished usable named
  refine ⟨(answers false).trans switched_off_iff, (answers true).trans switched_on_iff, ?_, ?_⟩
  · intro text given written unknown
    have spoken : switched (switchIn w.host.environment d) = .error text := by
      have off : Text.lower text ∉ offWords := fun there => unknown (by simp_all [offWords])
      have on : Text.lower text ∉ onWords := fun there => unknown (by simp_all [onWords])
      rw [given, switched, if_neg off, if_neg (not_or.mpr ⟨by simp [written], on⟩)]
    obtain ⟨after, run, still⟩ := waits.ofProcess_refused finished usable named spoken
    refine ⟨after, run, still.current, still.manager?_eq, fun users each => ?_⟩
    obtain ⟨final, again, last⟩ := still.attempts_refused finished usable spoken each
    exact ⟨final, again, last.current, last.manager?_eq⟩
  · intro id m after run there dagUser conf owner
    cases spoken : switched (switchIn w.host.environment d) with
    | error text =>
      obtain ⟨_, refused, -⟩ := waits.ofProcess_refused finished usable named spoken
      rw [refused] at run
      cases run
    | ok on =>
      obtain ⟨p, _, ran, found, -, standard, owns, -⟩ :=
        waits.ofProcess_ok finished usable named spoken
      rw [ran] at run
      cases run
      rw [World.manager?, found] at there
      cases there
      obtain ⟨c, derived⟩ := exists_forDag (p.manager after.lists) .standard owner conf
      rcases derive_standard found standard owns dagUser conf with
        ⟨cause, refused, -⟩ | ⟨q, later, value, stepped, -, added⟩
      · rw [derived] at refused
        cases refused
      · refine ⟨_, q.manager later.lists, later, stepped, ?_, ?_⟩
        · rw [World.manager?, added.found]
          rfl
        · rw [(forDag_eq_ok value).2]

/-- A machine whose settings switch checks on, against a variable of the environment. -/
def switchHost (v : String) : Host where
  files :=
    ({} : Files).put "/etc/dagacl/acl.conf" (.file "[acl]\nacls_enabled = yes\n".toUTF8.toList)
  environment := [("DAGACL_ACL_ACLS_ENABLED", v)]

/-- What is read from its settings. -/
def switchSettings : Ini.Document where
  sections := [("acl", [("acls_enabled", .text "yes")])]

/-- The word for off is known with quotes around it and in capitals, and it is not known with a tab
in front. -/
theorem ofProcess_switch_overridden :
    (Offers "acl" switchSettings (World.start (switchHost "\" Off\"") 0) ∧
      (Groups.configured "acl" (World.start (switchHost "\" Off\"") 0)).1 = .ok 1 ∧
      ∃ id m after, ofProcess "am" "acl" (World.start (switchHost "\" Off\"") 0) = (.ok id, after) ∧
        after.manager? id = some m ∧ after.current = some id ∧ m.enabled = false) ∧
    Offers "acl" switchSettings (World.start (switchHost "\toff") 0) ∧
    (Groups.configured "acl" (World.start (switchHost "\toff") 0)).1 = .ok 1 ∧
    ∃ after, ofProcess "am" "acl" (World.start (switchHost "\toff") 0) =
        (.error (.acl (.invalidSwitch "\toff")), after) ∧ after.current = none := by
  have offers : Offers "acl" switchSettings (World.start (switchHost "\" Off\"") 0) := by
    unfold Offers
    decide +kernel
  have usable : (Groups.configured "acl" (World.start (switchHost "\" Off\"") 0)).1 = .ok 1 := by
    decide +kernel
  have offers' : Offers "acl" switchSettings (World.start (switchHost "\toff") 0) := by
    unfold Offers
    decide +kernel
  have usable' : (Groups.configured "acl" (World.start (switchHost "\toff") 0)).1 = .ok 1 := by
    decide +kernel
  have named : "am" ≠ "" := by decide
  obtain ⟨off, -⟩ := ofProcess_switch offers nofun ⟨1, usable⟩ rfl named
  obtain ⟨-, -, refused, -⟩ := ofProcess_switch offers' nofun ⟨1, usable'⟩ rfl named
  refine ⟨⟨offers, usable, off.mpr ⟨"Off", by decide +kernel, by decide +kernel⟩⟩,
    offers', usable', ?_⟩
  obtain ⟨after, run, current, -⟩ :=
    refused "\toff" (by decide +kernel) (by decide) (by decide +kernel)
  exact ⟨after, run, current⟩

end Manager

end DagAccess
