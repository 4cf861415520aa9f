import WazoDird.ConfdClient.Registry
import WazoDird.Services.Coherence

/-!
# Clients and configurations

A client stays in the registry whatever becomes of its source. So it is
the one of the source's configuration along the runs that give it no
reason not to be: while there is a client for a source, the source is not
deleted, and no edition changes what the client is made from. Along such
a run, whoever uses the source uses a client made from the configuration
that was written last (`confd_clients_match`); one edition or one deletion
that the registry misses ends that.
-/

namespace WazoDird

variable {installed : String → Bool} {s s' : ConfdState} {u v : Uuid} {db : Database}
  {l : List ConfdCall} {c : ConfdCall}

/-- A client was made from a configuration, under some key files. -/
def RegisteredFrom (registered : RegisteredClient) (tenantUuid : Uuid) (config : Dict String Value) :
    Prop :=
  ∃ keyFiles, Registry.addClient keyFiles tenantUuid config = .ok (some registered)

/-- Two configurations have the same `confd` and the same `auth`. -/
def SameClient (config config' : Dict String Value) : Prop :=
  config.get? "confd" = config'.get? "confd" ∧ config.get? "auth" = config'.get? "auth"

instance (config config' : Dict String Value) : Decidable (SameClient config config') :=
  inferInstanceAs (Decidable (_ ∧ _))

/-- The configuration of a source, as it is stored. -/
def configOf (db : Database) (u : Uuid) : Option (Dict String Value) :=
  (db.sources.find? (·.uuid = u)).map Source.extraFields

/-- What a call that returned wrote as the configuration of a source. -/
def ConfdCall.written (u : Uuid) (config : Option (Dict String Value)) :
    ConfdCall → Option (Dict String Value)
  | .createSource _ _ body (.ok info) => if info.uuid = u then some body.extraFields else config
  | .editSource _ v _ body (.ok _) => if v = u then some body.extraFields else config
  | .deleteSource _ v _ (.ok ()) => if v = u then none else config
  | _ => config

/-- **The registry cannot miss the call**: while it has a client for the
source, an edition leaves what the client is made from as it is, and no
deletion reaches the source; and no other source called by the uuid is
loaded. -/
def ConfdAware (installed : String → Bool) (u : Uuid) (s : ConfdState) : ConfdCall → Prop
  | .get v _ => v ≠ u → s.sources.cached v = none → ∀ x ∈ s.db.sources, x.uuid = v →
      installed x.backend = true → s.db.sourceName x ≠ some u
  | .editSource backend v tenants body _ => (s.registry.clients.get? u).isSome → v = u →
      ∀ x ∈ s.db.sources, SourceCRUD.multiTenantFilter backend v (some tenants) x = true →
        SameClient body.extraFields x.extraFields
  | .deleteSource backend v tenants _ => (s.registry.clients.get? u).isSome → v = u →
      ∀ x ∈ s.db.sources, SourceCRUD.multiTenantFilter backend v (some tenants) x = false
  | .listContacts .. | .createSource .. => True

/-- The calls the registry cannot miss. -/
abbrev ConfdAwareStep (installed : String → Bool) (u : Uuid) :
    ConfdState → ConfdCall → ConfdState → Prop :=
  Guarded (ConfdAware installed u) (ConfdStep installed)

/-! ## The registry -/

namespace Registry

variable {registry registry' : Registry} {config : SourceInfo} {keyFiles : KeyFiles}
  {r : Except PyError MadeConfdClient}

/-- A client depends on the `confd` and the `auth` it is made from. -/
theorem addClient_congr {e e' : Dict String Value} (h : SameClient e e') {tenant : Uuid} :
    addClient keyFiles tenant e = addClient keyFiles tenant e' := by
  simp only [addClient, Dict.item, h.1, h.2]

/-- **What a get does**: it answers with the client there is; or there is
none, and it raises; or it makes one and keeps it. -/
theorem get_cases (h : registry.get keyFiles config = (r, registry')) :
    (∃ registered, registry.clients.get? config.uuid = some registered ∧
      r = .ok registered.client ∧ registry' = registry) ∨
    (registry.clients.get? config.uuid = none ∧
      ((∃ e, r = .error e ∧ registry' = registry) ∨
      ∃ registered, addClient keyFiles config.tenantUuid config.extraFields = .ok (some registered) ∧
        r = .ok registered.client ∧
        registry' = { clients := registry.clients.set config.uuid registered
                      running := registry.running ++ [(config.uuid, registered.tokenRenewer)] })) := by
  unfold get at h
  split at h
  · next registered hreg =>
    obtain ⟨rfl, rfl⟩ := Prod.mk.inj h
    exact Or.inl ⟨registered, hreg, rfl, rfl⟩
  · next hreg =>
    refine Or.inr ⟨hreg, ?_⟩
    split at h
    · next e _ =>
      obtain ⟨rfl, rfl⟩ := Prod.mk.inj h
      exact Or.inl ⟨e, rfl, rfl⟩
    · obtain ⟨rfl, rfl⟩ := Prod.mk.inj h
      exact Or.inl ⟨_, rfl, rfl⟩
    · next registered hadd =>
      obtain ⟨rfl, rfl⟩ := Prod.mk.inj h
      exact Or.inr ⟨registered, hadd, rfl, rfl⟩

/-- **The client of a source is made from what is stored of it**, and its
renewers are those of its clients. -/
structure Matches (u : Uuid) (db : Database) (registry : Registry) : Prop where
  registered : ∀ r, registry.clients.get? u = some r →
    ∃ x ∈ db.sources, x.uuid = u ∧ RegisteredFrom r x.tenantUuid x.extraFields
  running : ∀ t, (u, t) ∈ registry.running →
    ∃ r, registry.clients.get? u = some r ∧ r.tokenRenewer = t

/-- What is read of a source, as far as its client goes. -/
def Read (db : Database) (config : SourceInfo) : Prop :=
  ∃ x ∈ db.sources, x.uuid = config.uuid ∧ x.tenantUuid = config.tenantUuid ∧
    x.extraFields = config.extraFields

/-- A get of what is stored keeps the clients. -/
theorem Matches.get (h : Matches u db registry) (hread : Read db config)
    (hget : registry.get keyFiles config = (r, registry')) :
    Matches u db registry' ∧
    (∀ r, registry.clients.get? u = some r → registry'.clients.get? u = some r) ∧
    (config.uuid = u → ∀ client, r = .ok client →
      ∃ r, registry'.clients.get? u = some r ∧ r.client = client) := by
  rcases get_cases hget with ⟨registered, hreg, rfl, rfl⟩ | ⟨hnone, ⟨e, rfl, rfl⟩ |
    ⟨registered, hadd, rfl, rfl⟩⟩
  · refine ⟨h, fun _ hr => hr, ?_⟩
    rintro rfl client hclient
    exact ⟨registered, hreg, Except.ok.inj hclient⟩
  · exact ⟨h, fun _ hr => hr, fun _ client hclient => by cases hclient⟩
  · by_cases hu : config.uuid = u
    · subst hu
      refine ⟨⟨fun r hr => ?_, fun t ht => ?_⟩, fun r hr => ?_, fun _ client hclient => ?_⟩
      · rw [Dict.get?_set_self] at hr
        cases hr
        obtain ⟨x, hx, hxu, hxt, hxe⟩ := hread
        exact ⟨x, hx, hxu, keyFiles, by rw [hxt, hxe, hadd]⟩
      · refine ⟨registered, Dict.get?_set_self _ _ _, ?_⟩
        rcases List.mem_append.1 ht with ht | ht
        · obtain ⟨r, hr, -⟩ := h.running t ht
          rw [hnone] at hr
          cases hr
        · exact (Prod.mk.inj (List.mem_singleton.1 ht)).2.symm
      · rw [hnone] at hr
        cases hr
      · exact ⟨registered, Dict.get?_set_self _ _ _, Except.ok.inj hclient⟩
    · refine ⟨⟨fun r hr => ?_, fun t ht => ?_⟩, fun r hr => ?_, fun hc => absurd hc hu⟩
      · rw [Dict.get?_set_of_ne _ _ hu] at hr
        exact h.registered r hr
      · rcases List.mem_append.1 ht with ht | ht
        · obtain ⟨r, hr, hrt⟩ := h.running t ht
          exact ⟨r, (Dict.get?_set_of_ne _ _ hu).trans hr, hrt⟩
        · exact absurd (Prod.mk.inj (List.mem_singleton.1 ht)).1.symm hu
      · exact (Dict.get?_set_of_ne _ _ hu).trans hr

end Registry

/-! ## What is read of a source -/

/-- The settings of a backend are shown as they are stored. -/
theorem SourceCRUD.fromDbFormat_extraFields {x : Source} {info : SourceInfo}
    (h : fromDbFormat db x = .ok info) : info.extraFields = x.extraFields := by
  unfold fromDbFormat at h
  split at h
  · cases h
  · split at h
    · cases h
      rfl
    · split at h
      · cases h
      · cases h
        rfl

theorem Registry.read_of_fromDbFormat {x : Source} {info : SourceInfo} (hx : x ∈ db.sources)
    (h : SourceCRUD.fromDbFormat db x = .ok info) : Registry.Read db info := by
  obtain ⟨hu, -, ht, -⟩ := SourceCRUD.fromDbFormat_ok h
  exact ⟨x, hx, hu.symm, ht.symm, (SourceCRUD.fromDbFormat_extraFields h).symm⟩

theorem Registry.read_of_getByUuid {o : RowOrder Source} {info : SourceInfo}
    (h : SourceCRUD.getByUuid o db u = .ok info) : Registry.Read db info := by
  unfold SourceCRUD.getByUuid at h
  split at h
  · cases h
  · next x hx => exact read_of_fromDbFormat (List.mem_filter.1 (RowOrder.mem_of_first hx)).1 h

/-- What is read under a key is of its uuid. -/
theorem Registry.read_of_get {o : RowOrder Source} {info : SourceInfo} {backend : String}
    {tenants : Option (List Uuid)} (h : SourceCRUD.get o db backend u tenants = .ok info) :
    Registry.Read db info ∧ info.uuid = u := by
  unfold SourceCRUD.get at h
  split at h
  · cases h
  · next x hx =>
    obtain ⟨hmem, hfilter⟩ := List.mem_filter.1 (RowOrder.mem_of_first hx)
    simp only [SourceCRUD.multiTenantFilter, Bool.and_eq_true, decide_eq_true_eq] at hfilter
    exact ⟨read_of_fromDbFormat hmem h, (SourceCRUD.fromDbFormat_ok h).1.trans hfilter.1.2⟩

/-! ## Loading a plugin -/

/-- **What a get does**: the manager's get, and beside it nothing; or the
plugin it loads asks the registry, and holds the client it is given. -/
theorem ConfdState.get_cases {a : ServiceAnswers} {keyFiles : KeyFiles}
    {r : Except DirdError (Option Plugin)} (h : s.get installed a keyFiles v = (r, s')) :
    s'.db = s.db ∧ s'.clock = s.clock + 1 ∧
    ∃ raises, SourceManager.get installed raises s.clock a.rows s.db s.sources v =
      (r, s'.sources) ∧
    ((s'.registry = s.registry ∧ s'.held = s.held) ∨
    ∃ config answer, s.sources.cached v = none ∧
      SourceCRUD.getByUuid a.rows s.db v = .ok config ∧
      s.registry.get keyFiles config = (answer, s'.registry) ∧
      ((∃ e, answer = .error e ∧ s'.held = s.held) ∨
        ∃ client, answer = .ok client ∧ s'.held = s.held.set s.clock client)) := by
  unfold ConfdState.get at h
  split at h
  · next config hmiss hread =>
    split at h
    · split at h
      · next e registry hreg =>
        cases h
        exact ⟨rfl, rfl, true, rfl, Or.inr ⟨config, _, hmiss, hread, hreg, Or.inl ⟨e, rfl, rfl⟩⟩⟩
      · next client registry hreg =>
        cases h
        exact ⟨rfl, rfl, a.raises, rfl,
          Or.inr ⟨config, _, hmiss, hread, hreg, Or.inr ⟨client, rfl, rfl⟩⟩⟩
    · cases h
      exact ⟨rfl, rfl, a.raises, rfl, Or.inl ⟨rfl, rfl⟩⟩
  · cases h
    exact ⟨rfl, rfl, a.raises, rfl, Or.inl ⟨rfl, rfl⟩⟩

/-! ## The invariant -/

/-- **The registry, the cache and the database agree on a source.** -/
structure ConfdCoherent (u : Uuid) (s : ConfdState) : Prop where
  keyed : s.db.sourceUuids.Nodup
  clients : s.registry.Matches u s.db
  named : ∀ p, s.sources.cached u = some p → p.config.uuid = u
  held : ∀ k p client, s.sources.cached k = some p → p.config.uuid = u →
    s.held.get? p.readAt = some client →
    ∃ r, s.registry.clients.get? u = some r ∧ r.client = client
  past : ∀ k p, s.sources.cached k = some p → p.readAt < s.clock
  heldPast : ∀ n, s.clock ≤ n → s.held.get? n = none

/-- A plugin cached after a get was cached before, or is the one it
loaded. -/
theorem SourceManager.cached_of_get {raises : Bool} {now : ℕ} {o : RowOrder Source}
    {sources sources' : PluginCache} {r : Except DirdError (Option Plugin)}
    (h : get installed raises now o db sources v = (r, sources')) {k : Uuid} {p : Plugin}
    (hp : sources'.cached k = some p) :
    sources.cached k = some p ∨
      sources.cached v = none ∧ (k = v ∨ k = p.name) ∧ p.readAt = now ∧
        installed p.config.backend = true ∧ SourceCRUD.getByUuid o db v = .ok p.config := by
  rcases get_cases h with ⟨-, -, -, rfl⟩ | ⟨hmiss, ⟨-, -, -, -, rfl⟩ | ⟨-, rfl⟩ |
    ⟨config, hread, hi, -, rfl⟩⟩
  · exact Or.inl hp
  · exact Or.inl hp
  · rw [Dict.cached_set] at hp
    split at hp
    · cases hp
    · exact Or.inl hp
  · rw [Dict.cached_set] at hp
    split at hp
    · next hk =>
      cases hp
      exact Or.inr ⟨hmiss, Or.inl hk.symm, rfl, hi, hread⟩
    · split at hp
      · exact Or.inl hp
      · rw [Dict.cached_set] at hp
        split at hp
        · next hk =>
          cases hp
          exact Or.inr ⟨hmiss, Or.inr hk.symm, rfl, hi, hread⟩
        · exact Or.inl hp

/-- The plugin a get answers with is cached under the uuid. -/
theorem SourceManager.cached_of_get_ok {raises : Bool} {now : ℕ} {o : RowOrder Source}
    {sources sources' : PluginCache} {p : Plugin}
    (h : get installed raises now o db sources v = (.ok (some p), sources')) :
    sources'.cached v = some p := by
  rcases get_cases h with ⟨q, hq, hr, rfl⟩ | ⟨-, ⟨e, -, -, hr, -⟩ | ⟨hr, -⟩ |
    ⟨config, -, -, hr, rfl⟩⟩
  · cases hr
    exact hq
  · cases hr
  · cases hr
  · cases hr
    exact Dict.cached_set_self _ _ _

/-- What a get leaves in the registry, and of the clients held. -/
theorem ConfdCoherent.registry_get (h : ConfdCoherent u s) {a : ServiceAnswers}
    {keyFiles : KeyFiles} {r : Except DirdError (Option Plugin)}
    (hget : s.get installed a keyFiles v = (r, s')) :
    s'.registry.Matches u s.db ∧
    (∀ r, s.registry.clients.get? u = some r → s'.registry.clients.get? u = some r) ∧
    (∀ n, n ≠ s.clock → s'.held.get? n = s.held.get? n) ∧
    (v = u → ∀ client, s'.held.get? s.clock = some client →
      ∃ r, s'.registry.clients.get? u = some r ∧ r.client = client) := by
  obtain ⟨-, -, -, -, ⟨hregistry, hheld⟩ | ⟨config, answer, -, hread, hreg, hheld⟩⟩ :=
    ConfdState.get_cases hget
  · rw [hregistry, hheld]
    refine ⟨h.clients, fun _ hr => hr, fun _ _ => rfl, fun _ client hclient => ?_⟩
    rw [h.heldPast _ (le_refl _)] at hclient
    cases hclient
  · obtain ⟨hclients, hkeep, hclient⟩ := h.clients.get (Registry.read_of_getByUuid hread) hreg
    rcases hheld with ⟨e, -, hheld⟩ | ⟨client, hanswer, hheld⟩
    · rw [hheld]
      refine ⟨hclients, hkeep, fun _ _ => rfl, fun _ client hc => ?_⟩
      rw [h.heldPast _ (le_refl _)] at hc
      cases hc
    · rw [hheld]
      refine ⟨hclients, hkeep, fun n hn => Dict.get?_set_of_ne _ _ hn.symm, fun hv c hc => ?_⟩
      rw [Dict.get?_set_self] at hc
      cases hc
      exact hclient ((SourceCRUD.getByUuid_ok hread).1.trans hv) client hanswer

/-- **A get keeps what agrees**, when no other source called by the uuid is
loaded. -/
theorem confdCoherent_get (h : ConfdCoherent u s) {a : ServiceAnswers} {keyFiles : KeyFiles}
    {r : Except DirdError (Option Plugin)} (hget : s.get installed a keyFiles v = (r, s'))
    (haware : ConfdAware installed u s (.get v r)) : ConfdCoherent u s' := by
  obtain ⟨hdb, hclock, raises, hmanager, -⟩ := ConfdState.get_cases hget
  obtain ⟨hclients, hkeep, hold, hnew⟩ := h.registry_get hget
  refine ⟨hdb ▸ h.keyed, hdb ▸ hclients, fun p hp => ?_, fun k p client hp hpu hclient => ?_,
    fun k p hp => ?_, fun n hn => ?_⟩
  · rcases SourceManager.cached_of_get hmanager hp with hp | ⟨hmiss, hk, -, hi, hread⟩
    · exact h.named p hp
    · obtain ⟨hpv, x, hx, hxv, hxb, hxn⟩ := SourceCRUD.getByUuid_ok hread
      by_cases hv : v = u
      · exact hpv.trans hv
      · -- the plugin of another source is not stored under the uuid
        have hname : p.name ≠ u := fun hc =>
          haware hv hmiss x hx hxv (hxb ▸ hi) (hxn.trans (congrArg some hc))
        exact absurd (hk.resolve_right (Ne.symm hname)).symm hv
  · rcases SourceManager.cached_of_get hmanager hp with hp | ⟨-, -, hnow, -, hread⟩
    · rw [hold _ (Nat.ne_of_lt (h.past k p hp))] at hclient
      obtain ⟨r, hr, hrc⟩ := h.held k p client hp hpu hclient
      exact ⟨r, hkeep r hr, hrc⟩
    · rw [hnow] at hclient
      exact hnew ((SourceCRUD.getByUuid_ok hread).1.symm.trans hpu) client hclient
  · rw [hclock]
    rcases SourceManager.cached_of_get hmanager hp with hp | ⟨-, -, hnow, -⟩
    · exact Nat.lt_succ_of_lt (h.past k p hp)
    · omega
  · rw [hclock] at hn
    rw [hold n (by omega), h.heldPast n (by omega)]

/-- A listing keeps what agrees, and is given the client of its source. -/
theorem confdCoherent_listContacts (h : ConfdCoherent u s) {rows : RowOrder Source}
    {keyFiles : KeyFiles} {backend : String} {tenants : List Uuid}
    {r : Except DirdError MadeConfdClient}
    (hlist : s.listContacts rows keyFiles backend v tenants = (r, s')) :
    ConfdCoherent u s' ∧ (v = u → ∀ client, r = .ok client →
      ∃ r, s'.registry.clients.get? u = some r ∧ r.client = client) := by
  unfold ConfdState.listContacts at hlist
  split at hlist
  · obtain ⟨rfl, rfl⟩ := Prod.mk.inj hlist
    exact ⟨h, fun _ _ hc => by cases hc⟩
  · next config hread =>
    obtain ⟨hread, hconfig⟩ := Registry.read_of_get hread
    -- whatever the registry answers, it is what is left of it
    have hkept : ∀ {answer registry}, s.registry.get keyFiles config = (answer, registry) →
        ConfdCoherent u { s with registry := registry } := by
      intro answer registry hreg
      obtain ⟨hclients, hkeep, -⟩ := h.clients.get hread hreg
      refine ⟨h.keyed, hclients, h.named, fun k p client hp hpu hclient => ?_, h.past, h.heldPast⟩
      obtain ⟨r, hr, hrc⟩ := h.held k p client hp hpu hclient
      exact ⟨r, hkeep r hr, hrc⟩
    split at hlist
    · next hreg =>
      obtain ⟨rfl, rfl⟩ := Prod.mk.inj hlist
      exact ⟨hkept hreg, fun _ _ hc => by cases hc⟩
    · next client registry hreg =>
      obtain ⟨rfl, rfl⟩ := Prod.mk.inj hlist
      refine ⟨hkept hreg, fun hv client' hc => ?_⟩
      cases hc
      exact (h.clients.get hread hreg).2.2 (hconfig.trans hv) client rfl

/-! ## What is written of a configuration -/

namespace SourceCRUD

variable {x x' : Source} {body : SourceBody}

theorem updateToDbFormat_extraFields (h : updateToDbFormat db x body = .ok x') :
    x'.extraFields = body.extraFields := by
  unfold updateToDbFormat at h
  split at h
  · split at h
    · cases h
      rfl
    · cases h
  · split at h
    · cases h
    · split at h
      · cases h
      · cases h
        rfl

theorem updateSource_extraFields (h : updateSource db x body = .ok x') :
    x'.extraFields = body.extraFields := by
  unfold updateSource at h
  split at h
  · split at h
    · exact updateToDbFormat_extraFields h
    · obtain ⟨p, -, h⟩ := bind_eq_ok.1 h
      exact updateToDbFormat_extraFields h
  · exact updateToDbFormat_extraFields h

theorem createNewSource_extraFields {defaults : SourceDefaults} {backend : String} {tenant : Uuid}
    (h : createNewSource db defaults backend tenant body = .ok x) :
    x.extraFields = body.extraFields := by
  unfold createNewSource at h
  split at h
  · split at h
    · cases h
    · obtain ⟨p, -, h⟩ := bind_eq_ok.1 h
      exact updateToDbFormat_extraFields h
  · exact updateToDbFormat_extraFields h

end SourceCRUD

/-- The configuration of a source is that of its row. -/
theorem configOf_eq_some_iff (hkeyed : db.sourceUuids.Nodup) {config : Dict String Value} :
    configOf db u = some config ↔ ∃ x ∈ db.sources, x.uuid = u ∧ x.extraFields = config := by
  rw [configOf, Option.map_eq_some_iff]
  constructor
  · rintro ⟨x, hx, rfl⟩
    exact ⟨x, List.mem_of_find?_eq_some hx, by simpa using List.find?_some hx, rfl⟩
  · rintro ⟨x, hx, rfl, rfl⟩
    refine ⟨x, ?_, rfl⟩
    have hsome : (db.sources.find? (·.uuid = x.uuid)).isSome := by
      rw [List.find?_isSome]
      exact ⟨x, hx, by simp⟩
    obtain ⟨y, hy⟩ := Option.isSome_iff_exists.1 hsome
    rw [hy, eq_of_key hkeyed (List.mem_of_find?_eq_some hy) hx (by simpa using List.find?_some hy)]

/-- Two databases with the same rows of a uuid have the same configuration
of it. -/
theorem configOf_congr {db' : Database} (hkeyed : db.sourceUuids.Nodup)
    (hkeyed' : db'.sourceUuids.Nodup)
    (h : ∀ x, x.uuid = u → (x ∈ db'.sources ↔ x ∈ db.sources)) : configOf db' u = configOf db u := by
  refine Option.ext fun config => ?_
  rw [configOf_eq_some_iff hkeyed, configOf_eq_some_iff hkeyed']
  constructor
  · rintro ⟨x, hx, hxu, hxe⟩
    exact ⟨x, (h x hxu).1 hx, hxu, hxe⟩
  · rintro ⟨x, hx, hxu, hxe⟩
    exact ⟨x, (h x hxu).2 hx, hxu, hxe⟩

/-- **What an edition does to the rows**: the row it edits is replaced by
one of the body's configuration, and no other is. -/
theorem SourceCRUD.mem_of_edit {o : RowOrder Source} {db' : Database} {backend : String}
    {tenants : List Uuid} {body : SourceBody} {info : SourceInfo}
    (h : edit o db backend v (some tenants) body = (.ok info, db')) :
    ∃ x ∈ db.sources, x.uuid = v ∧ multiTenantFilter backend v (some tenants) x = true ∧
      ∃ x', x'.uuid = v ∧ x'.tenantUuid = x.tenantUuid ∧ x'.extraFields = body.extraFields ∧
      ∀ y, y ∈ db'.sources ↔ y = x' ∨ y ∈ db.sources ∧ y.uuid ≠ v := by
  rcases edit_cases h with ⟨e, herr, -⟩ | ⟨x, x', -, -, hx, hfilter, hup, rfl, -⟩
  · cases herr
  · obtain ⟨hxb, hxu, hxt⟩ := multiTenantFilter_eq_true.1 hfilter
    obtain ⟨hid, -⟩ := updateSource_ok hup
    refine ⟨x, hx, hxu, hfilter, x', hid.uuid.trans hxu, hid.tenantUuid,
      updateSource_extraFields hup, fun y => ?_⟩
    rw [List.mem_map]
    constructor
    · rintro ⟨z, hz, rfl⟩
      split
      · exact Or.inl rfl
      · next hne => exact Or.inr ⟨hz, hxu ▸ hne⟩
    · rintro (rfl | ⟨hy, hne⟩)
      · exact ⟨x, hx, if_pos rfl⟩
      · exact ⟨y, hy, if_neg (hxu ▸ hne)⟩

/-! ## One call -/

/-- Where the call changes the rows and nothing else, the registry stays
the one of a source whose row it leaves, or rewrites to the same. -/
theorem ConfdCoherent.rows (h : ConfdCoherent u s) {t : ServiceState}
    (hkeyed : t.db.sourceUuids.Nodup)
    (hcached : ∀ k p, t.sources.cached k = some p → s.sources.cached k = some p)
    (hrows : ∀ r, s.registry.clients.get? u = some r → ∀ x ∈ s.db.sources, x.uuid = u →
      RegisteredFrom r x.tenantUuid x.extraFields →
      ∃ y ∈ t.db.sources, y.uuid = u ∧ RegisteredFrom r y.tenantUuid y.extraFields) :
    ConfdCoherent u { s with toServiceState := t } where
  keyed := hkeyed
  clients := {
    registered := fun r hr => by
      obtain ⟨x, hx, hxu, hbuilt⟩ := h.clients.registered r hr
      exact hrows r hr x hx hxu hbuilt
    running := h.clients.running }
  named := fun p hp => h.named p (hcached u p hp)
  held := fun k p client hp => h.held k p client (hcached k p hp)
  past := fun k p hp => h.past k p (hcached k p hp)
  heldPast := h.heldPast

/-- A creation keeps what agrees. -/
theorem confdCoherent_createSource (h : ConfdCoherent u s) {a : ServiceAnswers} {backend : String}
    {tenant : Uuid} {body : SourceBody} {r : Except DirdError SourceInfo} {t : ServiceState}
    (hcreate : SourceService.create a s.toServiceState backend tenant body = (r, t)) :
    ConfdCoherent u { s with toServiceState := t } ∧
      configOf t.db u =
        (ConfdCall.createSource backend tenant body r).written u (configOf s.db u) := by
  obtain ⟨hsources, hcrud⟩ := SourceService.create_spec hcreate
  have hstep : ServiceStep (fun _ => true) s.toServiceState (.createSource backend tenant body r)
      t := .createSource a hcreate
  have hkeyed := (keyed_step hstep h.keyed).1
  rcases SourceCRUD.create_cases hcrud with ⟨e, rfl, hdb⟩ | ⟨x, info, rfl, -⟩
  · exact ⟨h.rows hkeyed (fun k p hp => hsources ▸ hp) fun r _ x hx hxu hb =>
      ⟨x, hdb ▸ hx, hxu, hb⟩, by rw [hdb]; rfl⟩
  · obtain ⟨x, hx, -, hdb, hinfo⟩ := SourceCRUD.create_ok hcrud
    have hrows : t.db.sources = s.db.sources ++ [x] := by rw [hdb]
    have hxu := (SourceCRUD.fromDbFormat_ok hinfo).1
    refine ⟨h.rows hkeyed (fun k p hp => hsources ▸ hp) fun r _ y hy hyu hb =>
      ⟨y, by rw [hrows]; exact List.mem_append_left _ hy, hyu, hb⟩, ?_⟩
    rw [ConfdCall.written]
    split
    · next hu =>
      refine (configOf_eq_some_iff hkeyed).2 ⟨x, ?_, hxu.symm.trans hu, ?_⟩
      · rw [hrows]
        exact List.mem_append_right _ (List.mem_singleton_self x)
      · exact SourceCRUD.createNewSource_extraFields hx
    · next hu =>
      refine configOf_congr h.keyed hkeyed fun y hyu => ?_
      rw [hrows, List.mem_append, List.mem_singleton, or_iff_left]
      rintro rfl
      exact hu (hxu.trans hyu)

/-- An edition keeps what agrees, when it leaves what a client is made
from. -/
theorem confdCoherent_editSource (h : ConfdCoherent u s) {a : ServiceAnswers} {backend : String}
    {tenants : List Uuid} {body : SourceBody} {r : Except DirdError SourceInfo} {t : ServiceState}
    (hedit : SourceService.edit a s.toServiceState backend v tenants body = (r, t))
    (haware : ConfdAware installed u s (.editSource backend v tenants body r)) :
    ConfdCoherent u { s with toServiceState := t } ∧
      configOf t.db u =
        (ConfdCall.editSource backend v tenants body r).written u (configOf s.db u) := by
  have hstep : ServiceStep (fun _ => true) s.toServiceState
      (.editSource backend v tenants body r) t := .editSource a hedit
  have hkeyed := (keyed_step hstep h.keyed).1
  obtain ⟨hcrud, ⟨e, rfl, hsources⟩ | ⟨info, rfl, hsources⟩⟩ := SourceService.edit_spec hedit
  · rcases SourceCRUD.edit_cases hcrud with ⟨-, -, hdb⟩ | ⟨x, x', info, hr, -⟩
    · exact ⟨h.rows hkeyed (fun k p hp => hsources ▸ hp) fun r _ x hx hxu hb =>
        ⟨x, hdb ▸ hx, hxu, hb⟩, by rw [hdb]; rfl⟩
    · cases hr
  · obtain ⟨x, hx, hxv, hfilter, x', hx'v, hx't, hx'e, hrows⟩ := SourceCRUD.mem_of_edit hcrud
    have hcached : ∀ k p, t.sources.cached k = some p → s.sources.cached k = some p := by
      intro k p hp
      rw [hsources, SourceManager.invalidate, Dict.cached_erase] at hp
      split at hp
      · cases hp
      · exact hp
    refine ⟨h.rows hkeyed hcached fun r hr y hy hyu hbuilt => ?_, ?_⟩
    · by_cases hv : v = u
      · -- the row of the source is rewritten, to the same as far as its client goes
        obtain rfl := eq_of_key h.keyed hx hy (hxv.trans (hv.trans hyu.symm))
        have hsame := haware (by rw [hr]; rfl) hv x hx hfilter
        obtain ⟨keyFiles, hbuilt⟩ := hbuilt
        refine ⟨x', (hrows x').2 (Or.inl rfl), hx'v.trans hv, keyFiles, ?_⟩
        rw [hx't, hx'e, Registry.addClient_congr hsame, hbuilt]
      · exact ⟨y, (hrows y).2 (Or.inr ⟨hy, fun hc => hv (hc.symm.trans hyu)⟩), hyu, hbuilt⟩
    · rw [ConfdCall.written]
      split
      · next hv =>
        exact (configOf_eq_some_iff hkeyed).2 ⟨x', (hrows x').2 (Or.inl rfl), hx'v.trans hv, hx'e⟩
      · next hv =>
        refine configOf_congr h.keyed hkeyed fun y hyu => ?_
        rw [hrows]
        constructor
        · rintro (rfl | ⟨hy, -⟩)
          · exact absurd (hx'v.symm.trans hyu) hv
          · exact hy
        · exact fun hy => Or.inr ⟨hy, fun hc => hv (hc.symm.trans hyu)⟩

/-- A deletion keeps what agrees, when no client of its source is there. -/
theorem confdCoherent_deleteSource (h : ConfdCoherent u s) {backend : String} {tenants : List Uuid}
    {r : Except DirdError Unit} {t : ServiceState}
    (hdelete : SourceService.delete s.toServiceState backend v tenants = (r, t))
    (haware : ConfdAware installed u s (.deleteSource backend v tenants r)) :
    ConfdCoherent u { s with toServiceState := t } ∧
      configOf t.db u = (ConfdCall.deleteSource backend v tenants r).written u (configOf s.db u) := by
  have hstep : ServiceStep (fun _ => true) s.toServiceState (.deleteSource backend v tenants r) t :=
    .deleteSource hdelete
  have hkeyed := (keyed_step hstep h.keyed).1
  obtain ⟨hsources, hcrud⟩ := SourceService.delete_spec hdelete
  obtain ⟨hr, hdb⟩ := Prod.mk.inj hcrud
  have hrows : ∀ y, y ∈ t.db.sources ↔ y ∈ s.db.sources ∧
      SourceCRUD.multiTenantFilter backend v (some tenants) y = false := by
    intro y
    rw [← hdb, SourceCRUD.dropSources, List.mem_filter, Bool.not_eq_true']
  have hfilter : ∀ y : Source, SourceCRUD.multiTenantFilter backend v (some tenants) y = true →
      y.uuid = v := fun y hy => (SourceCRUD.multiTenantFilter_eq_true.1 hy).2.1
  refine ⟨h.rows hkeyed (fun k p hp => hsources ▸ hp) fun r hr y hy hyu hbuilt =>
    ⟨y, (hrows y).2 ⟨hy, ?_⟩, hyu, hbuilt⟩, ?_⟩
  · rw [← Bool.not_eq_true]
    intro hyp
    have hnot := haware (by rw [hr]; rfl) ((hfilter y hyp).symm.trans hyu) y hy
    rw [hyp] at hnot
    cases hnot
  · -- the rows of another uuid stay, and all of them where none was in scope
    have hkept : (∀ y ∈ s.db.sources, y.uuid = u →
        SourceCRUD.multiTenantFilter backend v (some tenants) y = false) →
        configOf t.db u = configOf s.db u := fun hnone =>
      configOf_congr h.keyed hkeyed fun y hyu => by
        rw [hrows, and_iff_left_iff_imp]
        exact fun hy => hnone y hy hyu
    split at hr
    · next hany =>
      subst hr
      rw [ConfdCall.written]
      split
      · next hv =>
        obtain ⟨x, hx, hxp⟩ := List.any_eq_true.1 hany
        refine Option.eq_none_iff_forall_not_mem.2 fun config hconfig => ?_
        obtain ⟨y, hy, hyu, -⟩ := (configOf_eq_some_iff hkeyed).1 hconfig
        obtain ⟨hys, hyp⟩ := (hrows y).1 hy
        obtain rfl := eq_of_key h.keyed hx hys ((hfilter x hxp).trans (hv.trans hyu.symm))
        rw [hxp] at hyp
        cases hyp
      · next hv =>
        refine hkept fun y _ hyu => ?_
        rw [← Bool.not_eq_true]
        exact fun hyp => hv ((hfilter y hyp).symm.trans hyu)
    · next hany =>
      subst hr
      exact hkept fun y hy _ => by simpa using List.any_eq_false.1 (Bool.eq_false_iff.2 hany) y hy

/-- **One call keeps what agrees**, when the registry cannot miss it, and
what is stored is what it wrote. -/
theorem confdCoherent_step (h : ConfdCoherent u s)
    (hstep : ConfdAwareStep installed u s c s') :
    ConfdCoherent u s' ∧ configOf s'.db u = c.written u (configOf s.db u) := by
  obtain ⟨haware, hstep⟩ := hstep
  cases hstep with
  | get a keyFiles hget =>
    have hdb := (ConfdState.get_cases hget).1
    exact ⟨confdCoherent_get h hget haware, by rw [hdb]; rfl⟩
  | @listContacts backend v tenants r _ rows keyFiles hb hlist =>
    refine ⟨(confdCoherent_listContacts h hlist).1, ?_⟩
    have hdb : s'.db = s.db := by
      unfold ConfdState.listContacts at hlist
      split at hlist
      · cases hlist
        rfl
      · split at hlist <;> cases hlist <;> rfl
    rw [hdb]
    rfl
  | createSource a hcreate => exact confdCoherent_createSource h hcreate
  | editSource a hedit => exact confdCoherent_editSource h hedit haware
  | deleteSource hdelete => exact confdCoherent_deleteSource h hdelete haware

/-! ## Every run -/

/-- The run agrees on a source, and what is stored of its configuration is
what the run wrote last. -/
theorem confdCoherent_of_run {db₀ : Database} (hkeys : db₀.sourceUuids.Nodup)
    (h : Run (ConfdAwareStep installed u) { db := db₀ } l s) :
    ConfdCoherent u s ∧ configOf s.db u = l.foldl (ConfdCall.written u) (configOf db₀ u) := by
  induction h with
  | nil =>
    exact ⟨⟨hkeys, ⟨(fun r hr => by cases hr), (fun t ht => by cases ht)⟩,
      (fun p hp => by cases hp), (fun k p client hp => by cases hp),
      (fun k p hp => by cases hp), fun n _ => rfl⟩, rfl⟩
  | snoc _ hs ih =>
    obtain ⟨hcoherent, hconfig⟩ := ih
    obtain ⟨hcoherent', hconfig'⟩ := confdCoherent_step hcoherent hs
    exact ⟨hcoherent', by rw [hconfig', hconfig, List.foldl_append]; rfl⟩

/-- A client of a source is the registry's, and was made, with its renewer,
from a configuration. -/
def UsesConfig (u : Uuid) (config : Option (Dict String Value)) (s : ConfdState)
    (client : MadeConfdClient) : Prop :=
  ∃ registered tenantUuid written, s.registry.clients.get? u = some registered ∧
    registered.client = client ∧ config = some written ∧ RegisteredFrom registered tenantUuid written

/-- A client that is the registry's is made from what is stored. -/
theorem ConfdCoherent.usesConfig (h : ConfdCoherent u s) {config : Option (Dict String Value)}
    (hconfig : configOf s.db u = config) {client : MadeConfdClient}
    (hclient : ∃ r, s.registry.clients.get? u = some r ∧ r.client = client) :
    UsesConfig u config s client := by
  obtain ⟨r, hr, hrc⟩ := hclient
  obtain ⟨x, hx, hxu, hbuilt⟩ := h.clients.registered r hr
  exact ⟨r, _, _, hr, hrc, hconfig ▸ (configOf_eq_some_iff h.keyed).2 ⟨x, hx, hxu, rfl⟩, hbuilt⟩

/-- **The client of a source is made from its configuration**, along every
run of calls the registry cannot miss: the plugin that a get of the source
answers with, if it holds a client, and a listing of its contacts use one
that was made, with its renewer, from the `confd` and `auth` written last;
and once the source is deleted the registry has no client of it, nor a
renewer that runs. -/
theorem confd_clients_match {db₀ : Database} (hkeys : db₀.sourceUuids.Nodup) (u : Uuid)
    (hrun : Run (ConfdAwareStep installed u) { db := db₀ } l s) :
    (∀ s' p client, ConfdStep installed s (.get u (.ok (some p))) s' →
      s'.held.get? p.readAt = some client →
      UsesConfig u (l.foldl (ConfdCall.written u) (configOf db₀ u)) s' client) ∧
    (∀ s' backend tenants client,
      ConfdStep installed s (.listContacts backend u tenants (.ok client)) s' →
      UsesConfig u (l.foldl (ConfdCall.written u) (configOf db₀ u)) s' client) ∧
    (l.foldl (ConfdCall.written u) (configOf db₀ u) = none →
      s.registry.clients.get? u = none ∧ ∀ t, (u, t) ∉ s.registry.running) := by
  obtain ⟨hcoherent, hconfig⟩ := confdCoherent_of_run hkeys hrun
  refine ⟨fun s' p client hget hheld => ?_, fun s' backend tenants client hlist => ?_,
    fun hnone => ?_⟩
  · have haware : ConfdAware installed u s (.get u (.ok (some p))) := fun hne => absurd rfl hne
    obtain ⟨hcoherent', hconfig'⟩ := confdCoherent_step hcoherent ⟨haware, hget⟩
    refine hcoherent'.usesConfig (hconfig'.trans hconfig) ?_
    cases hget with
    | get a keyFiles hget =>
      obtain ⟨-, -, _, hmanager, -⟩ := ConfdState.get_cases hget
      have hp := SourceManager.cached_of_get_ok hmanager
      exact hcoherent'.held u p client hp (hcoherent'.named p hp) hheld
  · have haware : ConfdAware installed u s (.listContacts backend u tenants (.ok client)) := trivial
    obtain ⟨hcoherent', hconfig'⟩ := confdCoherent_step hcoherent ⟨haware, hlist⟩
    refine hcoherent'.usesConfig (hconfig'.trans hconfig) ?_
    cases hlist with
    | listContacts rows keyFiles hb hlist =>
      exact (confdCoherent_listContacts hcoherent hlist).2 rfl client rfl
  · have hclient : s.registry.clients.get? u = none := by
      refine Option.eq_none_iff_forall_not_mem.2 fun r hr => ?_
      obtain ⟨x, hx, hxu, -⟩ := hcoherent.clients.registered r hr
      have hsome := (configOf_eq_some_iff hcoherent.keyed).2 ⟨x, hx, hxu, rfl⟩
      rw [hconfig, hnone] at hsome
      cases hsome
    refine ⟨hclient, fun t ht => ?_⟩
    obtain ⟨r, hr, -⟩ := hcoherent.clients.running t ht
    rw [hclient] at hr
    cases hr

/-! ## What the registry misses -/

/-- The body of a user source on a host. -/
def wazoBody (host : String) : SourceBody where
  uuid := some "u"
  name := some "users"
  extraFields := Dict.ofList [("confd", .dict [("host", .str host)]),
    ("auth", .dict [("username", .str "dird")])]

/-- No key file is there. -/
def noKeyFiles : KeyFiles := fun _ => ∅

/-- The client of a host. -/
def clientOf (host : String) : MadeConfdClient := { confd := Dict.ofList [("host", .str host)] }

/-- The source is created on the host `a`. -/
def wazoCreated : ConfdState :=
  { (SourceService.create asStored { db := {} } "wazo" "t" (wazoBody "a")).2 with }

/-- Then its contacts are listed. -/
def wazoListed : ConfdState :=
  (wazoCreated.listContacts .asStored noKeyFiles "wazo" "u" ["t"]).2

/-- Then it is edited. -/
def wazoEdited (body : SourceBody) : ConfdState :=
  { wazoListed with
    toServiceState :=
      (SourceService.edit asStored wazoListed.toServiceState "wazo" "u" ["t"] body).2 }

/-- A source is created, its contacts are listed, it is renamed on the same
host, and they are listed again, with the client of the host. -/
theorem confd_clients_match_renamed : ∃ l s s',
    Run (ConfdAwareStep (fun _ => true) "u") { db := {} } l s ∧ l.length = 3 ∧
    ConfdStep (fun _ => true) s (.listContacts "wazo" "u" ["t"] (.ok (clientOf "a"))) s' ∧
    UsesConfig "u" (some (wazoBody "a").extraFields) s' (clientOf "a") := by
  have hcreate : ConfdAwareStep (fun _ => true) "u" { db := {} }
      (.createSource "wazo" "t" (wazoBody "a") (.ok _)) wazoCreated :=
    ⟨trivial, .createSource asStored rfl⟩
  have hlist : ConfdAwareStep (fun _ => true) "u" wazoCreated
      (.listContacts "wazo" "u" ["t"] (.ok (clientOf "a"))) wazoListed :=
    ⟨trivial, .listContacts .asStored noKeyFiles rfl rfl⟩
  have hedit : ConfdAwareStep (fun _ => true) "u" wazoListed
      (.editSource "wazo" "u" ["t"] { wazoBody "a" with name := some "people" } (.ok _))
      (wazoEdited { wazoBody "a" with name := some "people" }) :=
    ⟨fun _ _ => by decide, .editSource asStored rfl⟩
  have hrun := ((Run.single hcreate).snoc hlist).snoc hedit
  have hagain : ConfdStep (fun _ => true) (wazoEdited { wazoBody "a" with name := some "people" })
      (.listContacts "wazo" "u" ["t"] (.ok (clientOf "a"))) _ :=
    .listContacts .asStored noKeyFiles rfl rfl
  have hmatch := confd_clients_match (by decide) "u" hrun
  exact ⟨_, _, _, hrun, rfl, hagain, hmatch.2.1 _ _ _ _ hagain⟩

/-- **The registry misses an edition, and a deletion**: contacts listed
after an edition to another host are asked of the first one, and the
client outlives the source. -/
theorem confd_client_stale : ∃ l s s₁ s₂,
    Run (ConfdStep fun _ => true) { db := {} } l s ∧
    l.foldl (ConfdCall.written "u") none = some (wazoBody "b").extraFields ∧
    ConfdStep (fun _ => true) s (.listContacts "wazo" "u" ["t"] (.ok (clientOf "a"))) s₁ ∧
    ¬ UsesConfig "u" (some (wazoBody "b").extraFields) s₁ (clientOf "a") ∧
    ConfdStep (fun _ => true) s₁ (.deleteSource "wazo" "u" ["t"] (.ok ())) s₂ ∧
    (s₂.registry.clients.get? "u").isSome := by
  have hcreate : ConfdStep (fun _ => true) { db := {} }
      (.createSource "wazo" "t" (wazoBody "a") (.ok _)) wazoCreated := .createSource asStored rfl
  have hlist : ConfdStep (fun _ => true) wazoCreated
      (.listContacts "wazo" "u" ["t"] (.ok (clientOf "a"))) wazoListed :=
    .listContacts .asStored noKeyFiles rfl rfl
  have hedit : ConfdStep (fun _ => true) wazoListed
      (.editSource "wazo" "u" ["t"] (wazoBody "b") (.ok _)) (wazoEdited (wazoBody "b")) :=
    .editSource asStored rfl
  have hagain : ConfdStep (fun _ => true) (wazoEdited (wazoBody "b"))
      (.listContacts "wazo" "u" ["t"] (.ok (clientOf "a"))) _ :=
    .listContacts .asStored noKeyFiles rfl rfl
  refine ⟨_, _, _, _, ((Run.single hcreate).snoc hlist).snoc hedit, rfl, hagain, ?_,
    .deleteSource rfl, rfl⟩
  rintro ⟨registered, tenant, written, hregistered, hclient, hwritten, keyFiles, hbuilt⟩
  cases hwritten
  have hb : Registry.addClient keyFiles tenant (wazoBody "b").extraFields =
      .ok (some ⟨clientOf "b", ⟨Dict.ofList [("username", .str "dird")]⟩⟩) := rfl
  rw [hb] at hbuilt
  cases hbuilt
  exact absurd hclient (by decide)

end WazoDird
