import WazoDird.Database.Queries.Source

/-!
# The source manager

`source_manager.py`: the plugins built so far, one dictionary of them
that `_add_source_with_config` writes under the name of a source and
`get` under its uuid. The methods are here one after the other, as one
thread runs them; `Concurrent.lean` interleaves them.

A backend is installed when its entry point is found and its class can
be instantiated. Whether the plugin's own `load` raises is the plugin's
to decide, so both outcomes are modelled.
-/

namespace WazoDird

/-- A plugin: the configuration it was built from, and the moment that
configuration was read, which no code looks at. -/
structure Plugin where
  config : SourceInfo
  readAt : ℕ
  deriving DecidableEq, Repr

/-- `source.name`, which is the configured name. -/
def Plugin.name (p : Plugin) : String := p.config.name

/-- A plugin is built from the configuration stored under a uuid. -/
def BuiltFrom (db : Database) (u : Uuid) (p : Plugin) : Prop :=
  ∃ o, SourceCRUD.getByUuid o db u = .ok p.config

/-- `_sources`. A none is remembered as well as a plugin, and reads as
if nothing were there (`Dict.cached`). -/
abbrev PluginCache := Dict Uuid (Option Plugin)

namespace SourceManager

/-- `_add_source_with_config`: the plugin, stored under its name unless
its `load` raises. -/
def addSourceWithConfig (raises : Bool) (sources : PluginCache) (source : Plugin) :
    Plugin × PluginCache :=
  (source, if raises then sources else sources.set source.name (some source))

/-- `_load_source`, on what `get_by_uuid` answered at a moment. -/
def loadSource (installed : String → Bool) (raises : Bool) (now : ℕ) (sources : PluginCache)
    (read : Except DirdError SourceInfo) : Except DirdError (Option Plugin × PluginCache) :=
  match read with
  | .error (.noSuchSource _) => .ok (none, sources)
  | .error e => .error e
  | .ok config =>
    if installed config.backend then
      let (source, sources) := addSourceWithConfig raises sources ⟨config, now⟩
      .ok (some source, sources)
    else .ok (none, sources)

/-- `get`. What raises in `_load_source` leaves the cache as it was. -/
def get (installed : String → Bool) (raises : Bool) (now : ℕ) (o : RowOrder Source)
    (db : Database) (sources : PluginCache) (sourceUuid : Uuid) :
    Except DirdError (Option Plugin) × PluginCache :=
  match sources.cached sourceUuid with
  | some source => (.ok (some source), sources)
  | none =>
    match loadSource installed raises now sources (SourceCRUD.getByUuid o db sourceUuid) with
    | .error e => (.error e, sources)
    | .ok (source, sources) =>
      let sources := sources.set sourceUuid source
      (.ok (sources.cached sourceUuid), sources)

/-- `invalidate`. -/
def invalidate (sources : PluginCache) (sourceUuid : Uuid) : PluginCache :=
  sources.erase sourceUuid

end SourceManager

/-- **What a get does**: it answers with what is cached; or it raises and
changes nothing; or it finds nothing to load and remembers that; or it
loads the source's plugin, and stores it under its uuid and, unless its
`load` raises, under its name. -/
theorem SourceManager.get_cases {installed : String → Bool} {raises : Bool} {now : ℕ}
    {o : RowOrder Source} {db : Database} {sources sources' : PluginCache} {u : Uuid}
    {r : Except DirdError (Option Plugin)}
    (h : get installed raises now o db sources u = (r, sources')) :
    (∃ p, sources.cached u = some p ∧ r = .ok (some p) ∧ sources' = sources) ∨
    (sources.cached u = none ∧
      ((∃ e, (∀ v, e ≠ .noSuchSource v) ∧ SourceCRUD.getByUuid o db u = .error e ∧
        r = .error e ∧ sources' = sources) ∨
      (r = .ok none ∧ sources' = sources.set u none) ∨
      ∃ config, SourceCRUD.getByUuid o db u = .ok config ∧ installed config.backend = true ∧
        r = .ok (some ⟨config, now⟩) ∧
        sources' = (if raises then sources
          else sources.set config.name (some ⟨config, now⟩)).set u (some ⟨config, now⟩))) := by
  unfold get at h
  split at h
  · next p hp =>
    cases h
    exact Or.inl ⟨p, hp, rfl, rfl⟩
  · next hp =>
    refine Or.inr ⟨hp, ?_⟩
    unfold loadSource at h
    cases hread : SourceCRUD.getByUuid o db u with
    | error e =>
      rw [hread] at h
      cases e with
      | noSuchSource v =>
        cases h
        exact Or.inr (Or.inl ⟨by rw [Dict.cached_set_self], rfl⟩)
      | _ =>
        cases h
        exact Or.inl ⟨_, (fun _ hv => by cases hv), rfl, rfl, rfl⟩
    | ok config =>
      rw [hread] at h
      dsimp only at h
      split at h
      · next hload =>
        split at hload <;> cases hload
      · next source cache hload =>
        obtain ⟨rfl, rfl⟩ := Prod.mk.inj h
        rw [Dict.cached_set_self]
        split at hload
        · next hi =>
          cases hload
          exact Or.inr (Or.inr ⟨config, rfl, hi, rfl, rfl⟩)
        · cases hload
          exact Or.inr (Or.inl ⟨rfl, rfl⟩)

/-- **A get of what is not cached** loads it, and stores its plugin under
its name as well as its uuid. -/
theorem SourceManager.get_of_miss {installed : String → Bool} {db : Database}
    {o : RowOrder Source} {sources : PluginCache} {u : Uuid} {info : SourceInfo} (now : ℕ)
    (hmiss : sources.cached u = none) (hread : SourceCRUD.getByUuid o db u = .ok info)
    (hi : installed info.backend = true) :
    get installed false now o db sources u = (.ok (some ⟨info, now⟩),
      (sources.set info.name (some ⟨info, now⟩)).set u (some ⟨info, now⟩)) := by
  simp [get, hmiss, loadSource, addSourceWithConfig, hread, hi, Plugin.name]

end WazoDird
