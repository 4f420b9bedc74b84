import DagAccess.Proofs.Acl.Trimming
import DagAccess.Proofs.Groups.Static
import DagAccess.Proofs.Number.Integer

/-!
# Options that are integers

A lookup of a text drops the double quotes and the spaces around an option, a lookup of an integer
only the spaces. So the integer that a lookup of a text shows is found by a lookup of an integer
where it stands without double quotes, and not where it stands between them (`getInt_of_get`). How
long groups are remembered is such an integer.
-/

namespace DagAccess.Settings

open Groups (backendIn lifetimeIn configured mounted mountedId)

variable {component option : String} {section_ : Option String} {d : Ini.Document} {w : World}
  {raw : String} {n : Int}

/-! ## The text that sets an option -/

/-- The text that sets an option, as it stands: that of the variable, or else that in the
document. -/
def writtenIn (environment : List (String × String)) (d : Ini.Document) (component option : String)
    (section_ : Option String) : Option String :=
  match environment.lookup (variableName component option section_) with
  | some text => some text
  | none =>
    match d.find? (sectionOr component section_) option with
    | some (.text text) => some text
    | _ => none

theorem isSome_find? (named : component ≠ "")
    (isSet : d.hasOption (sectionOr component section_) option = true) :
    (d.find? (sectionOr component section_) option).isSome = true := by
  have place : sectionOr component section_ ≠ "" := by
    unfold sectionOr
    split
    · exact named
    · split <;> assumption
  by_cases usual : sectionOr component section_ = Ini.defaultName
  · rw [usual] at isSet ⊢
    have there : (d.defaults.lookup (Text.lower option)).isSome = true := by
      rw [← Assoc.any_key]
      simpa [Ini.Document.hasOption] using isSet
    simp only [Ini.Document.find?, Ini.Document.own?]
    cases d.sections.lookup Ini.defaultName with
    | none => simpa using there
    | some es => cases es.lookup (Text.lower option) <;> simp [there]
  · rwa [← d.hasOption_eq place usual]

/-- Both kinds of lookups find the same text. -/
theorem written_of_textIn {environment : List (String × String)} {fallback text : String}
    (named : component ≠ "") (isSet : isSetIn environment d component option section_ = true)
    (found : textIn environment d component option section_ fallback = .ok text) :
    ∃ raw, writtenIn environment d component option section_ = some raw ∧ Text.unquote raw = text ∧
      ∀ other, intIn environment d component option section_ other = readInt raw := by
  unfold isSetIn at isSet
  unfold textIn at found
  unfold writtenIn intIn
  cases given : environment.lookup (variableName component option section_) with
  | some raw =>
    rw [given] at found
    exact ⟨raw, rfl, Except.ok.inj found, fun _ => rfl⟩
  | none =>
    rw [given] at isSet found
    have there := isSome_find? named isSet
    cases value : d.find? (sectionOr component section_) option with
    | none =>
      rw [value] at there
      cases there
    | some v =>
      rw [value] at found
      cases v with
      | lines ls => cases found
      | text raw => exact ⟨raw, rfl, Except.ok.inj found, fun _ => rfl⟩

/-! ## Reading it as an integer -/

/-- Without double quotes a text is the same number as what trimming leaves of it. -/
theorem readInt_unquote (bare : '"' ∉ raw.toList) :
    Number.readInt 10 raw.toList = Number.readInt 10 (Text.unquote raw).toList := by
  rw [Text.toList_unquote bare]
  obtain ⟨front, back, before, behind, whole⟩ := Text.exists_eq_trim (· = ' ') raw.toList
  conv_lhs => rw [whole, List.append_assoc]
  exact Number.readInt_spaces (fun c hc => of_decide_eq_true (before c hc))
    (fun c hc => of_decide_eq_true (behind c hc)) _

/-- The text can be read as the integer that stands in it: it has no double quotes, and not too many
digits. -/
def Readable (raw : String) (n : Int) : Prop :=
  '"' ∉ raw.toList ∧ (toString n.natAbs).length ≤ Number.digitLimit

instance (raw : String) (n : Int) : Decidable (Readable raw n) :=
  inferInstanceAs (Decidable (_ ∧ _))

theorem readInt_of_readable (shown : Text.unquote raw = toString n) (readable : Readable raw n) :
    readInt raw = .ok n := by
  obtain ⟨bare, short⟩ := readable
  rw [readInt, readInt_unquote bare, shown, Number.readInt_toString, if_neg (Nat.not_lt.mpr short)]
  rfl

theorem readInt_of_not_readable (shown : Text.unquote raw = toString n)
    (unreadable : ¬ Readable raw n) : ∃ why, readInt raw = .error (.integer raw why) := by
  by_cases quoted : '"' ∈ raw.toList
  · obtain ⟨why, failed⟩ := Number.readInt_of_quote quoted
    exact ⟨why, by rw [readInt, failed]; rfl⟩
  · have long : Number.digitLimit < (toString n.natAbs).length :=
      Nat.lt_of_not_le fun short => unreadable ⟨quoted, short⟩
    refine ⟨.tooLong (toString n.natAbs).length, ?_⟩
    rw [readInt, readInt_unquote quoted, shown, Number.readInt_toString, if_pos long]
    rfl

/-! ## Lookups -/

/-- **Texts and integers.** Where an option is set and its text is shown as an integer, a lookup of
an integer finds the same one if the text stands without double quotes and is not too long, and
fails otherwise; and so does the provider of groups whose lookups are remembered for that time. -/
theorem getInt_of_get {fallback : String} (offers : Offers component d w)
    (isSet : isSetIn w.host.environment d component option section_ = true)
    (shown : (get component option section_ fallback w).1 = .ok (toString n)) :
    ∃ raw, writtenIn w.host.environment d component option section_ = some raw ∧
      (Readable raw n →
        (∀ other, (getInt component option section_ other id w).1 = .ok n) ∧
        (option = "group_cache_secs" → section_ = none →
          ∀ p, backendIn w.host.environment d component = .ok p →
            ∃ after, configured component w = (.ok (mountedId w.providers n), after) ∧
              after.providers = mounted w.providers p n)) ∧
      (¬ Readable raw n → ∃ why,
        (∀ other, (getInt component option section_ other id w).1 = .error (.integer raw why)) ∧
        (option = "group_cache_secs" → section_ = none →
          ∀ p, backendIn w.host.environment d component = .ok p →
            (configured component w).1 = .error (.integer raw why))) := by
  obtain ⟨asked, getting, -⟩ := offers.get option section_ fallback
  rw [getting] at shown
  obtain ⟨raw, written, trimmed, reads⟩ := written_of_textIn offers.named isSet shown
  have answer (other : Int) : (getInt component option section_ other id w).1 = readInt raw := by
    obtain ⟨after, run, -⟩ := offers.getInt option section_ other
    rw [run, reads]
  obtain ⟨after, making, -, -, providers⟩ := offers.configured
  refine ⟨raw, written, fun readable => ⟨fun other => ?_, ?_⟩, fun unreadable => ?_⟩
  · rw [answer, readInt_of_readable trimmed readable]
  · rintro rfl rfl p backend
    have lifetime : lifetimeIn w.host.environment d component = .ok n :=
      (reads _).trans (readInt_of_readable trimmed readable)
    refine ⟨after, ?_, providers p backend n lifetime⟩
    rw [making, backend, lifetime]
    rfl
  · obtain ⟨why, failed⟩ := readInt_of_not_readable trimmed unreadable
    refine ⟨why, fun other => (answer other).trans failed, ?_⟩
    rintro rfl rfl p backend
    have lifetime : lifetimeIn w.host.environment d component = .error (.integer raw why) :=
      (reads _).trans failed
    rw [making, backend, lifetime]
    rfl

/-! ## A time between double quotes -/

/-- Settings with a time between double quotes. -/
def quotedText : List UInt8 :=
  "[acl]\ngroup_cache_secs = \"600\"\n".toUTF8.toList

/-- The file with these settings. -/
def quotedSource : Ini.Source := .ofBytes "/etc/dagacl/acl.conf" quotedText

/-- A machine with this file and an environment. -/
def quotedHost (environment : List (String × String)) : Host where
  files := { entries := [(["etc", "dagacl", "acl.conf"], .file quotedText)] }
  environment

theorem quotedHost_layers (environment : List (String × String)) :
    layers (quotedHost environment).files "" aclFiles aclDirectories = [quotedSource] := by
  have nowhere : (quotedHost []).files.isFile "" = false := rfl
  have read : (quotedHost []).files.read "/etc/dagacl/acl.conf" = .ok quotedText := by
    decide +kernel
  have nothing : aclDirectories.flatMap (quotedHost []).files.filesIn = [] := by decide +kernel
  have one : layers (quotedHost []).files "" aclFiles aclDirectories = [quotedSource] := by
    rw [aclFiles, layers_of_first nowhere read, nothing]
    rfl
  exact one

/-- What the file says. -/
def quotedDocument : Ini.Document where
  sections := [("acl", [("group_cache_secs", .text "\"600\"")])]

theorem read_quotedSource : ({} : Ini.Document).read quotedSource = (quotedDocument, none) := by
  decide +kernel

theorem quotedHost_offers {environment : List (String × String)}
    (nowhere : (environment.lookup "DAGACL_ACL_CONFIG").getD "" = "") :
    Offers "acl" quotedDocument (World.start (quotedHost environment) 0) := by
  have has := SearchPaths.ofEnvironment_has_acl environment
  rw [nowhere] at has
  have listable : unlisted? (quotedHost []).files "" aclFiles aclDirectories = none := by
    decide +kernel
  have whole : (({} : Ini.Document).read quotedSource).2 = none := by rw [read_quotedSource]
  have offers :=
    Groups.offers_of_layers (w := World.start (quotedHost environment) 0) (by decide) has rfl
    (quotedHost_layers environment) listable whole
  rwa [read_quotedSource] at offers

/-- An environment in which a variable gives a time, with spaces around it. -/
def spacedEnvironment : List (String × String) := [("DAGACL_ACL_GROUP_CACHE_SECS", " 90 ")]

/-- A variable overrides the time between double quotes by one that can be read. -/
theorem getInt_of_get_spaced :
    Offers "acl" quotedDocument (World.start (quotedHost spacedEnvironment) 0) ∧
    (get "acl" "group_cache_secs" none "" (World.start (quotedHost spacedEnvironment) 0)).1 =
      .ok (toString (90 : Int)) ∧
    (getInt "acl" "group_cache_secs" none 5 id (World.start (quotedHost spacedEnvironment) 0)).1 =
      .ok 90 ∧
    ∃ after, configured "acl" (World.start (quotedHost spacedEnvironment) 0) = (.ok 1, after) ∧
      after.providers = #[.accounts, .cached 0 90 []] := by
  have offers : Offers "acl" quotedDocument (World.start (quotedHost spacedEnvironment) 0) :=
    quotedHost_offers rfl
  have isSet : isSetIn spacedEnvironment quotedDocument "acl" "group_cache_secs" none = true := by
    decide +kernel
  have shown :
    (get "acl" "group_cache_secs" none "" (World.start (quotedHost spacedEnvironment) 0)).1 =
      .ok (toString (90 : Int)) := by
    obtain ⟨after, run, -⟩ := offers.get "group_cache_secs" none ""
    have text : textIn spacedEnvironment quotedDocument "acl" "group_cache_secs" none "" =
        .ok "90" := by
      decide +kernel
    rw [run]
    exact text
  have backend : backendIn spacedEnvironment quotedDocument "acl" = .ok .accounts := by
    have usual : textIn spacedEnvironment quotedDocument "acl" "group_mapping" none "unix" =
        .ok "unix" := by
      decide +kernel
    rw [backendIn, usual]
    rfl
  obtain ⟨raw, written, reads, -⟩ := getInt_of_get offers isSet shown
  have same : writtenIn spacedEnvironment quotedDocument "acl" "group_cache_secs" none =
      some " 90 " := by
    decide +kernel
  obtain rfl : " 90 " = raw := Option.some.inj (same.symm.trans written)
  have readable : Readable " 90 " 90 := by decide
  obtain ⟨answers, provides⟩ := reads readable
  exact ⟨offers, shown, answers 5, provides rfl rfl _ backend⟩

/-- A lookup of a text finds the integer between the double quotes. A lookup of an integer fails,
and so does the provider of groups. -/
theorem getInt_quoted :
    Offers "acl" quotedDocument (World.start (quotedHost []) 0) ∧
    (get "acl" "group_cache_secs" none "" (World.start (quotedHost []) 0)).1 =
      .ok (toString (600 : Int)) ∧
    (getInt "acl" "group_cache_secs" none 5 id (World.start (quotedHost []) 0)).1 =
      .error (.integer "\"600\"" .malformed) ∧
    (configured "acl" (World.start (quotedHost []) 0)).1 =
      .error (.integer "\"600\"" .malformed) := by
  have offers : Offers "acl" quotedDocument (World.start (quotedHost []) 0) := quotedHost_offers rfl
  obtain ⟨_, getting, -⟩ := offers.get "group_cache_secs" none ""
  obtain ⟨_, asking, -⟩ := offers.getInt "group_cache_secs" none 5
  obtain ⟨_, making, -⟩ := offers.configured
  have failed (other : Int) : intIn [] quotedDocument "acl" "group_cache_secs" none other =
      .error (.integer "\"600\"" .malformed) := by
    have found : quotedDocument.find? (sectionOr "acl" none) "group_cache_secs" =
        some (.text "\"600\"") := by
      decide +kernel
    have unread : readInt "\"600\"" = .error (.integer "\"600\"" .malformed) := by decide +kernel
    unfold intIn
    rw [found]
    exact unread
  refine ⟨offers, ?_, ?_, ?_⟩
  · have text : textIn [] quotedDocument "acl" "group_cache_secs" none "" = .ok "600" := by
      decide +kernel
    rw [getting]
    exact text
  · rw [asking]
    exact failed 5
  · have usual : textIn [] quotedDocument "acl" "group_mapping" none "unix" = .ok "unix" := by
      decide +kernel
    have lifetime : lifetimeIn [] quotedDocument "acl" = .error (.integer "\"600\"" .malformed) :=
      failed _
    have environment : (World.start (quotedHost []) 0).host.environment = [] := rfl
    rw [making, environment, backendIn, usual, lifetime]
    rfl

end DagAccess.Settings
