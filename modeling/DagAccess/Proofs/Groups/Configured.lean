import DagAccess.Groups.Lookup
import DagAccess.Proofs.Settings.Frame

/-!
# The provider that settings ask for

Where the settings of a component can be had, the provider that they ask for is a matter of the
environment and the document: what finds the groups (`backendIn`) and how long a cache in front of
it remembers them (`lifetimeIn`). Both are read, the provider is added, and the cache if there is
one (`Offers.configured`).
-/

namespace DagAccess

open Settings (Offers textIn intIn sectionOptionsIn)

namespace Groups

/-! ## What settings ask for -/

/-- What finds the groups of users. -/
def backendIn (environment : List (String × String)) (d : Ini.Document) (component : String) :
    Except Fault Provider :=
  (textIn environment d component "group_mapping" none "unix").bind fun kind =>
    if kind = "unix" then .ok .accounts
    else if kind = "shell" then .ok (.command usualCommand)
    else if kind = "static" then
      (sectionOptionsIn d "groups").bind fun options =>
        (readTable (options.map fun e => (e.1, .text e.2))).map .table
    else .ok .accounts

/-- How long lookups are remembered, in seconds. -/
def lifetimeIn (environment : List (String × String)) (d : Ini.Document) (component : String) :
    Except Fault Int :=
  intIn environment d component "group_cache_secs" none usualLifetime

/-- Providers with one more, and a cache in front of it if lookups are remembered for some time. -/
def mounted (providers : Array Provider) (p : Provider) (lifetime : Int) : Array Provider :=
  if 0 < lifetime then (providers.push p).push (.cached providers.size lifetime [])
    else providers.push p

/-- The number of the provider that was mounted. -/
def mountedId (providers : Array Provider) (lifetime : Int) : ProviderId :=
  if 0 < lifetime then providers.size + 1 else providers.size

/-! ## Settings are followed -/

theorem run_add (p : Provider) (w : World) :
    add p w = (.ok w.providers.size, { w with providers := w.providers.push p }) := rfl

/-- Tells the loggers which provider was mounted. -/
def tell (id : ProviderId) : Act ProviderId := do
  let kind ← name id
  Act.log .info logger s!"Group mapping provider {kind} loaded"
  return id

/-- Adds a provider, and a cache in front of it if settings say so. -/
def mount (component : String) (p : Provider) : Act ProviderId := do
  let inner ← add p
  let lifetime ← Settings.getInt component "group_cache_secs" none usualLifetime id
  let provider ← if 0 < lifetime then add (.cached inner lifetime []) else pure inner
  tell provider

/-- A provider is mounted as the settings say. -/
theorem configured_eq (component : String) : configured component = (do
    let kind ← Settings.get component "group_mapping" none "unix"
    if kind = "unix" then mount component .accounts
    else if kind = "shell" then mount component (.command usualCommand)
    else if kind = "static" then do
      let options ← Settings.sectionOptions component "groups"
      let groups ← Act.of (readTable (options.map fun e => (e.1, .text e.2)))
      mount component (.table groups)
    else do
      Act.log .error logger s!"Unknown group mapping provider: {kind}, falling back to unix"
      mount component .accounts) := by
  unfold configured mount tell
  rfl

end Groups

namespace Settings

open Groups

variable {component : String} {d : Ini.Document} {w : World}

theorem Offers.tell (offers : Offers component d w) (id : ProviderId) : ∃ after,
    Groups.tell id w = (.ok id, after) ∧ Offers component d after ∧ after.host = w.host ∧
    after.providers = w.providers :=
  ⟨w.logged _, rfl, offers.logged _, rfl, rfl⟩

theorem Offers.mount (offers : Offers component d w) (p : Provider) : ∃ after,
    Groups.mount component p w =
      ((lifetimeIn w.host.environment d component).map (mountedId w.providers), after) ∧
    Offers component d after ∧ after.host = w.host ∧
    ∀ lifetime, lifetimeIn w.host.environment d component = .ok lifetime →
      after.providers = mounted w.providers p lifetime := by
  have added : Offers component d { w with providers := w.providers.push p } := offers.congr rfl rfl
  obtain ⟨read, reading, still, host⟩ := added.getInt "group_cache_secs" none usualLifetime
  have providers : read.providers = w.providers.push p :=
    Act.providers_of_confined (World.withinSettings_freesSettings.getInt _ _ _ _ _) reading
  unfold Groups.mount lifetimeIn
  rw [Act.run_bind, run_add]
  simp only [Act.run_bind, reading]
  cases intIn w.host.environment d component "group_cache_secs" none usualLifetime with
  | error fault => exact ⟨read, rfl, still, host, nofun⟩
  | ok lifetime =>
    by_cases caches : 0 < lifetime
    · have pushed : Offers component d
          { read with providers := read.providers.push (.cached w.providers.size lifetime []) } :=
        still.congr rfl rfl
      obtain ⟨after, run, offers, same, rest⟩ := pushed.tell read.providers.size
      refine ⟨after, ?_, offers, same.trans host, ?_⟩
      · simp only [if_pos caches, Act.run_bind, run_add, run]
        simp only [Except.map, mountedId, if_pos caches, providers, Array.size_push]
      · rintro _ ⟨⟩
        rw [rest, mounted, if_pos caches, providers]
    · obtain ⟨after, run, offers, same, rest⟩ := still.tell w.providers.size
      refine ⟨after, ?_, offers, same.trans host, ?_⟩
      · simp only [if_neg caches, Act.run_bind, Act.run_pure, run, Except.map, mountedId]
      · rintro _ ⟨⟩
        rw [rest, mounted, if_neg caches, providers]

/-- **Settings are followed.** The provider that the environment and the settings ask for is added,
with a cache in front of it if they say so, unless one of them cannot be read. -/
theorem Offers.configured (offers : Offers component d w) : ∃ after,
    Groups.configured component w =
      ((backendIn w.host.environment d component).bind fun _ =>
        (lifetimeIn w.host.environment d component).map (mountedId w.providers), after) ∧
    Offers component d after ∧ after.host = w.host ∧
    ∀ p, backendIn w.host.environment d component = .ok p →
      ∀ lifetime, lifetimeIn w.host.environment d component = .ok lifetime →
        after.providers = mounted w.providers p lifetime := by
  obtain ⟨asked, asking, still, host⟩ := offers.get "group_mapping" none "unix"
  have providers : asked.providers = w.providers :=
    Act.providers_of_confined (World.withinSettings_freesSettings.get _ _ _ _) asking
  rw [configured_eq, Act.run_bind, asking]
  unfold backendIn
  cases textIn w.host.environment d component "group_mapping" none "unix" with
  | error fault => exact ⟨asked, rfl, still, host, nofun⟩
  | ok kind =>
    have mounts : ∀ {v : World}, Offers component d v → v.host = w.host →
      v.providers = w.providers →
        ∀ p, ∃ after, Groups.mount component p v =
          ((lifetimeIn w.host.environment d component).map (mountedId w.providers), after) ∧
        Offers component d after ∧ after.host = w.host ∧
        ∀ q, (.ok p : Except Fault Provider) = .ok q →
          ∀ lifetime, lifetimeIn w.host.environment d component = .ok lifetime →
            after.providers = mounted w.providers q lifetime := by
      intro v there sameHost sameProviders p
      obtain ⟨after, run, offers, last, providers⟩ := there.mount p
      rw [sameHost, sameProviders] at run providers
      refine ⟨after, run, offers, last.trans sameHost, ?_⟩
      rintro _ ⟨⟩
      exact providers
    simp only [Except.bind]
    split
    · exact mounts still host providers _
    · split
      · exact mounts still host providers _
      · split
        · obtain ⟨listed, listing, offers, same⟩ := still.sectionOptions "groups"
          have rest : listed.providers = asked.providers :=
            Act.providers_of_confined
              (World.withinSettings_freesSettings.sectionOptions _ _) listing
          rw [Act.run_bind, listing]
          cases sectionOptionsIn d "groups" with
          | error fault => exact ⟨listed, rfl, offers, same.trans host, nofun⟩
          | ok options =>
            simp only [Act.run_bind, Act.run_of]
            cases readTable (options.map fun e => (e.1, .text e.2)) with
            | error fault => exact ⟨listed, rfl, offers, same.trans host, nofun⟩
            | ok groups => exact mounts offers (same.trans host) (rest.trans providers) _
        · rw [Act.run_bind, Act.run_log]
          exact mounts (still.logged _) host providers _

end Settings

end DagAccess
