import WazoDird.Common.Run
import WazoDird.ConfigService.Steps
import WazoDird.Profiles.Display

/-!
# Tenant-created events, again and again

A handling makes what is not there, and makes a display always. So a
handling to the end leaves its tenant as the event asks (`Configured`)
exactly when it found nothing of what it makes (`Untouched`), and a tenant
so left stays so until a handling of the same event gets as far as the
display.
-/

namespace WazoDird

namespace ConfigService

/-- The display a handling of an event makes. -/
def isAutoDisplay (e : TenantEvent) (b : Display) : Bool :=
  b.tenantUuid = e.uuid && b.name = "auto_" ++ e.name

/-- The profile a handling of an event makes. -/
def isDefaultProfile (e : TenantEvent) (p : Profile) : Bool :=
  p.tenantUuid = e.uuid && p.name = "default"

/-- A source a handling of an event makes. -/
def isAutoSource (e : TenantEvent) (entry : String × SourceBody) (x : Source) : Bool :=
  x.tenantUuid = e.uuid && x.backend = entry.1 && entry.2.name = some x.rawName

/-- **A service of a profile references a source.** -/
def References (d : Directory) (p : Profile) (service : String) (x : Source) : Prop :=
  ∃ s ∈ d.profileServices, s.profileUuid = p.uuid ∧ s.profileTenantUuid = p.tenantUuid ∧
    (∃ v ∈ d.services, v.uuid = s.serviceUuid ∧ v.name = service) ∧
    sourceRow x.tenantUuid s.uuid x.uuid ∈ d.profileServiceSources

/-- **A tenant is configured as an event asks**: it has one automatic
display and one default profile, which is on that display, and one of each
automatic source, which every service of the profile references. -/
def Configured (d : Directory) (e : TenantEvent) : Prop :=
  ∃ b p, d.displays.filter (isAutoDisplay e) = [b] ∧ d.profiles.filter (isDefaultProfile e) = [p] ∧
    p.displayUuid = some b.uuid ∧ p.displayTenantUuid = some b.tenantUuid ∧
    ∀ entry ∈ autoSources e.name, ∃ x, d.sources.filter (isAutoSource e entry) = [x] ∧
      ∀ service ∈ ["lookup", "reverse", "favorites"], References d p service x

/-- **A tenant has nothing of what an event makes**: no display of that
name, no default profile, and no source of one of the names. -/
def Untouched (d : Directory) (e : TenantEvent) : Prop :=
  (∀ b ∈ d.displays, isAutoDisplay e b = false) ∧
    (∀ p ∈ d.profiles, isDefaultProfile e p = false) ∧
    NoneOf e.uuid d (autoSources e.name)

/-! ## The names of the automatic sources -/

/-- An automatic name tells its kind. -/
theorem autoName_inj {kind kind' name : String} (h : autoName kind name = autoName kind' name) :
    kind = kind' := by
  have hlist := congrArg String.toList h
  simp only [autoName, String.toList_append] at hlist
  exact String.toList_inj.1
    (List.append_cancel_left (List.append_cancel_right (List.append_cancel_right hlist)))

theorem autoName_head (kind name : String) : (autoName kind name).toList.head? = some 'a' := by
  simp [autoName, String.toList_append]

theorem autoSources_plain {name : String} : ∀ entry ∈ autoSources name, Plain entry := by
  have hname : ∀ kind, autoName kind name ≠ "" := by
    intro kind heq
    have hhead := autoName_head kind name
    rw [heq] at hhead
    cases hhead
  have hplain : ∀ backend body, backend ≠ "phonebook" → body.uuid = none →
      Plain (named backend name body) := fun backend _ hb hu => ⟨hb, hu, _, hname backend, rfl⟩
  intro entry he
  simp only [autoSources, List.mem_cons, List.not_mem_nil, or_false] at he
  obtain rfl | rfl | rfl | rfl | rfl := he
  · exact hplain _ _ (by decide) rfl
  · exact ⟨by decide, rfl, "personal", by decide, rfl⟩
  · exact hplain _ _ (by decide) rfl
  · exact hplain _ _ (by decide) rfl
  · exact hplain _ _ (by decide) rfl

/-- No two automatic sources of a tenant have one name. -/
theorem autoSources_nodup (name : String) :
    ((autoSources name).map fun entry => entry.2.name).Nodup := by
  have hpersonal : ∀ kind, autoName kind name ≠ "personal" := by
    intro kind heq
    have hhead := autoName_head kind name
    rw [heq] at hhead
    exact absurd hhead (by decide)
  have hne : ∀ kind kind', kind ≠ kind' → autoName kind name ≠ autoName kind' name :=
    fun _ _ h heq => h (autoName_inj heq)
  show [some (autoName "conference" name), some "personal", some (autoName "wazo" name),
    some (autoName "office365" name), some (autoName "google" name)].Nodup
  simp only [List.nodup_cons, List.mem_cons, Option.some.injEq, List.not_mem_nil, or_false,
    not_or, not_false_eq_true, List.nodup_nil, and_true]
  exact ⟨⟨hpersonal _, hne _ _ (by decide), hne _ _ (by decide), hne _ _ (by decide)⟩,
    ⟨(hpersonal _).symm, (hpersonal _).symm, (hpersonal _).symm⟩,
    ⟨hne _ _ (by decide), hne _ _ (by decide)⟩, hne _ _ (by decide)⟩

/-- A display is automatic for one event. -/
theorem isAutoDisplay_inj {e e' : TenantEvent} {b : Display} (h : isAutoDisplay e b = true)
    (h' : isAutoDisplay e' b = true) : e = e' := by
  simp only [isAutoDisplay, Bool.and_eq_true, decide_eq_true_eq] at h h'
  obtain ⟨u, n⟩ := e
  obtain ⟨u', n'⟩ := e'
  have hname := congrArg String.toList (h.2.symm.trans h'.2)
  simp only [String.toList_append] at hname
  obtain rfl := String.toList_inj.1 (List.append_cancel_left hname)
  obtain rfl := h.1.symm.trans h'.1
  rfl

/-! ## What a handling leaves as it was -/

/-- **What a handling of an event adds**: rows of what it makes, and none
of a name the tenant had. -/
structure Grown (e : TenantEvent) (d d' : Directory) : Prop where
  sources : ∃ xs, d'.sources = d.sources ++ xs ∧ ∀ x ∈ xs, x.tenantUuid = e.uuid ∧
    ∀ y ∈ d.sources, y.tenantUuid = e.uuid → y.rawName ≠ x.rawName
  displays : ∃ bs, d'.displays = d.displays ++ bs ∧ ∀ b ∈ bs, isAutoDisplay e b = true
  profiles : ∃ ps, d'.profiles = d.profiles ++ ps ∧ ∀ p ∈ ps, p.tenantUuid = e.uuid ∧
    ∀ q ∈ d.profiles, q.name = "default" → q.tenantUuid ≠ e.uuid
  services : d.services ⊆ d'.services
  profileServices : d.profileServices ⊆ d'.profileServices
  profileServiceSources : d.profileServiceSources ⊆ d'.profileServiceSources

variable {d d' : Directory} {e e' : TenantEvent} {h : Handling}

/-- A reference stays. -/
theorem References.grown {p : Profile} {service : String} {x : Source}
    (hr : References d p service x) (hg : Grown e d d') : References d' p service x := by
  obtain ⟨s, hs, hu, ht, ⟨v, hv, hkey⟩, ha⟩ := hr
  exact ⟨s, hg.profileServices hs, hu, ht, ⟨v, hg.services hv, hkey⟩, hg.profileServiceSources ha⟩

/-- One row passes a filter still, when none of those added does. -/
theorem filter_append_of_forall {α : Type} {p : α → Bool} {l l' : List α} {a : α}
    (h : l.filter p = [a]) (h' : ∀ b ∈ l', ¬ p b = true) : (l ++ l').filter p = [a] := by
  rw [List.filter_append, h, List.filter_eq_nil_iff.2 h', List.append_nil]

/-- The one row that passes a filter is a row, and passes it. -/
theorem mem_of_filter_eq_singleton {α : Type} {p : α → Bool} {l : List α} {a : α}
    (h : l.filter p = [a]) : a ∈ l ∧ p a = true :=
  List.mem_filter.1 (h ▸ List.mem_singleton.2 rfl)

/-- **A tenant configured for an event stays so** through a handling of
another, and through one that adds no display. -/
theorem Configured.grown (hc : Configured d e') (hg : Grown e d d')
    (hd : e' ≠ e ∨ d'.displays = d.displays) : Configured d' e' := by
  obtain ⟨b, p, hb, hp, hu, ht, hsources⟩ := hc
  obtain ⟨xs, hxs, hnew⟩ := hg.sources
  obtain ⟨bs, hbs, hauto⟩ := hg.displays
  obtain ⟨ps, hps, hfree⟩ := hg.profiles
  refine ⟨b, p, ?_, ?_, hu, ht, fun entry he => ?_⟩
  · obtain hne | heq := hd
    · rw [hbs]
      exact filter_append_of_forall hb fun c hc hc' => hne (isAutoDisplay_inj hc' (hauto c hc))
    · rw [heq, hb]
  · rw [hps]
    refine filter_append_of_forall hp fun q hq hq' => ?_
    have hmem := mem_of_filter_eq_singleton hp
    simp only [isDefaultProfile, Bool.and_eq_true, decide_eq_true_eq] at hq' hmem
    obtain ⟨hqt, hnone⟩ := hfree q hq
    exact hnone p hmem.1 hmem.2.2 (hmem.2.1.trans (hq'.1.symm.trans hqt))
  · obtain ⟨x, hx, hrefs⟩ := hsources entry he
    refine ⟨x, ?_, fun service hs => (hrefs service hs).grown hg⟩
    rw [hxs]
    refine filter_append_of_forall hx fun y hy hy' => ?_
    have hmem := mem_of_filter_eq_singleton hx
    simp only [isAutoSource, Bool.and_eq_true, decide_eq_true_eq] at hy' hmem
    obtain ⟨hyt, hnone⟩ := hnew y hy
    exact hnone x hmem.1 (hmem.2.1.1.trans (hy'.1.1.symm.trans hyt))
      (Option.some.inj (hmem.2.2.symm.trans hy'.2))

/-! ## What a handling leaves -/

/-- The profiles of a database are on displays that are there. -/
def DisplaysSound (d : Directory) : Prop := ∀ p ∈ d.profiles, p.displayUuid = none ∨ p.HasDisplay d

variable {xs : List Source} {entries : List (String × SourceBody)} {t : Uuid} {name : String}
  {b : Display} {d₁ d₂ : Directory}

/-- The source steps leave the profiles. -/
theorem Made.profiles (hm : Made t d entries xs d') : d'.profiles = d.profiles :=
  (congrArg Directory.profiles hm.kept :)

theorem Made.displays (hm : Made t d entries xs d') : d'.displays = d.displays :=
  (congrArg Directory.displays hm.kept :)

theorem Made.sound (hm : Made t d entries xs d') (hd : d.Sound) : d'.Sound := by
  have hd : ({ d' with toDatabase := d.toDatabase } : Directory).Sound := hm.kept ▸ hd
  exact ⟨hd.profiles, hd.services, hd.profile, hd.profileService⟩

/-- The display step leaves the profiles. -/
theorem DisplayMade.profiles (hm : DisplayMade t name d b d') : d'.profiles = d.profiles :=
  (congrArg Directory.profiles hm.kept :)

theorem DisplayMade.sound (hm : DisplayMade t name d b d') (hd : d.Sound) : d'.Sound := by
  have hd : ({ d' with
    toDatabase := d.toDatabase, displays := d.displays
    displayColumns := d.displayColumns } : Directory).Sound := hm.kept ▸ hd
  exact ⟨hd.profiles, hd.services, hd.profile, hd.profileService⟩

/-- **The steps of a handling**: the sources, then the display, then the
profile. -/
theorem onNewTenantEvent_steps (h : Handling) (d : Directory) :
    ∃ xs d₁ b d₂,
      (Made h.event.uuid d ((autoSources h.event.name).take h.steps) xs d₁ ∧
        (NoneOf h.event.uuid d ((autoSources h.event.name).take h.steps) →
          List.Forall₂ (Of h.event.uuid) ((autoSources h.event.name).take h.steps) xs)) ∧
      DisplayMade h.event.uuid h.event.name d₁ b d₂ ∧
      onNewTenantEvent h d = if h.steps ≤ 5 then d₁ else if h.steps ≤ 6 then d₂ else
        autoCreateProfile h.server h.event.uuid d₂ (some b.uuid) (xs.map Source.uuid) := by
  have hplain : ∀ entry ∈ (autoSources h.event.name).take h.steps, Plain entry :=
    fun entry he => autoSources_plain entry (List.mem_of_mem_take he)
  have hnodup : (((autoSources h.event.name).take h.steps).map fun entry => entry.2.name).Nodup :=
    (autoSources_nodup h.event.name).sublist ((List.take_sublist _ _).map _)
  obtain ⟨xs, d₁, hsources, hmade⟩ := autoCreateSources_made hplain hnodup
  obtain ⟨b, d₂, hdisplay, hmade'⟩ :=
    autoCreateDisplay_made h.server h.event.uuid d₁ h.event.name
  refine ⟨xs, d₁, b, d₂, hmade, hmade', ?_⟩
  unfold onNewTenantEvent
  rw [hsources]
  dsimp only
  rw [hdisplay]

/-! ## Each step adds -/

theorem Grown.refl (e : TenantEvent) (d : Directory) : Grown e d d where
  sources := ⟨[], (List.append_nil _).symm, nofun⟩
  displays := ⟨[], (List.append_nil _).symm, nofun⟩
  profiles := ⟨[], (List.append_nil _).symm, nofun⟩
  services := List.Subset.refl _
  profileServices := List.Subset.refl _
  profileServiceSources := List.Subset.refl _

theorem Grown.trans (h : Grown e d d₁) (h' : Grown e d₁ d₂) : Grown e d d₂ where
  sources := by
    obtain ⟨xs, hxs, hnew⟩ := h.sources
    obtain ⟨ys, hys, hnew'⟩ := h'.sources
    refine ⟨xs ++ ys, by rw [hys, hxs, List.append_assoc], List.forall_mem_append.2 ⟨hnew, ?_⟩⟩
    exact fun y hy => ⟨(hnew' y hy).1, fun z hz =>
      (hnew' y hy).2 z (by rw [hxs]; exact List.mem_append_left _ hz)⟩
  displays := by
    obtain ⟨bs, hbs, hauto⟩ := h.displays
    obtain ⟨cs, hcs, hauto'⟩ := h'.displays
    exact ⟨bs ++ cs, by rw [hcs, hbs, List.append_assoc],
      List.forall_mem_append.2 ⟨hauto, hauto'⟩⟩
  profiles := by
    obtain ⟨ps, hps, hfree⟩ := h.profiles
    obtain ⟨qs, hqs, hfree'⟩ := h'.profiles
    refine ⟨ps ++ qs, by rw [hqs, hps, List.append_assoc], List.forall_mem_append.2 ⟨hfree, ?_⟩⟩
    exact fun q hq => ⟨(hfree' q hq).1, fun z hz =>
      (hfree' q hq).2 z (by rw [hps]; exact List.mem_append_left _ hz)⟩
  services := fun _ hx => h'.services (h.services hx)
  profileServices := fun _ hx => h'.profileServices (h.profileServices hx)
  profileServiceSources := fun _ hx => h'.profileServiceSources (h.profileServiceSources hx)

theorem Made.grown (hm : Made e.uuid d entries xs d') : Grown e d d' where
  sources := ⟨xs, hm.sources, fun x hx =>
    have ⟨⟨_, _, hof⟩, hnew⟩ := hm.each x hx
    ⟨hof.1, hnew⟩⟩
  displays := ⟨[], by rw [hm.displays, List.append_nil], nofun⟩
  profiles := ⟨[], by rw [hm.profiles, List.append_nil], nofun⟩
  services := (congrArg Directory.services hm.kept :).symm ▸ List.Subset.refl _
  profileServices := (congrArg Directory.profileServices hm.kept :).symm ▸ List.Subset.refl _
  profileServiceSources :=
    (congrArg Directory.profileServiceSources hm.kept :).symm ▸ List.Subset.refl _

theorem DisplayMade.isAuto (hm : DisplayMade e.uuid e.name d b d') : isAutoDisplay e b = true := by
  simp [isAutoDisplay, hm.tenant, hm.name]

theorem DisplayMade.grown (hm : DisplayMade e.uuid e.name d b d') : Grown e d d' where
  sources := ⟨[], by rw [hm.sources, List.append_nil], nofun⟩
  displays := ⟨[b], hm.displays, fun _ hc => List.mem_singleton.1 hc ▸ hm.isAuto⟩
  profiles := ⟨[], by rw [hm.profiles, List.append_nil], nofun⟩
  services := (congrArg Directory.services hm.kept :).symm ▸ List.Subset.refl _
  profileServices := (congrArg Directory.profileServices hm.kept :).symm ▸ List.Subset.refl _
  profileServiceSources :=
    (congrArg Directory.profileServiceSources hm.kept :).symm ▸ List.Subset.refl _

variable {p : Profile} {display : Option Uuid} {sources : List Uuid}

/-- The profile step leaves the other tables of what it is made of. -/
theorem ProfileMade.tables (hm : ProfileMade t d display sources p d') :
    d'.profiles = d.profiles ++ [p] ∧ d'.displays = d.displays ∧ d'.sources = d.sources := by
  refine ⟨hm.associated.profiles, hm.associated.displays, ?_⟩
  rw [hm.associated.toDatabase]
  exact d.toDatabase.createTenant_sources t

theorem ProfileMade.grown (hm : ProfileMade e.uuid d display sources p d') : Grown e d d' where
  sources := ⟨[], by rw [hm.tables.2.2, List.append_nil], nofun⟩
  displays := ⟨[], by rw [hm.tables.2.1, List.append_nil], nofun⟩
  profiles := ⟨[p], hm.tables.1, fun _ hq => List.mem_singleton.1 hq ▸ ⟨hm.tenant, hm.free⟩⟩
  services := hm.associated.grown.1
  profileServices := by
    obtain ⟨rows, hrows, -⟩ := hm.associated.rows
    rw [hrows]
    exact List.subset_append_left _ _
  profileServiceSources := hm.associated.grown.2

theorem ProfileMade.sound_after (hm : ProfileMade t d display sources p d') : d'.Sound :=
  hm.associated.sound hm.sound
    ⟨p, List.mem_append_right _ List.mem_cons_self, rfl, hm.tenant⟩

/-- Profiles stay on displays that are there, where the displays do. -/
theorem DisplaysSound.of_subset (hd : DisplaysSound d) (hp : d'.profiles = d.profiles)
    (hb : d.displays ⊆ d'.displays) : DisplaysSound d' := fun p hmem =>
  (hd p (hp ▸ hmem)).imp_right fun h =>
    Directory.hasDisplay_mono h fun b hmem => ⟨b, hb hmem, rfl, rfl⟩

/-- **A handling adds to its database**, and leaves it sound. -/
theorem grown_onNewTenantEvent (hd : d.Sound) (hs : DisplaysSound d) (h : Handling) :
    Grown h.event d (onNewTenantEvent h d) ∧ (onNewTenantEvent h d).Sound ∧
      DisplaysSound (onNewTenantEvent h d) := by
  obtain ⟨xs, d₁, b, d₂, ⟨hm, -⟩, hm', hrun⟩ := onNewTenantEvent_steps h d
  have hs₁ : DisplaysSound d₁ := hs.of_subset hm.profiles (hm.displays ▸ List.Subset.refl _)
  have hs₂ : DisplaysSound d₂ := hs₁.of_subset hm'.profiles
    (hm'.displays ▸ List.subset_append_left _ _)
  have hd₁ := hm.sound hd
  have hd₂ := hm'.sound hd₁
  have hg₂ := hm.grown.trans hm'.grown
  rw [hrun]
  split
  · exact ⟨hm.grown, hd₁, hs₁⟩
  · split
    · exact ⟨hg₂, hd₂, hs₂⟩
    · obtain heq | ⟨p, hm''⟩ := autoCreateProfile_cases h.server h.event.uuid hd₂ (some b.uuid)
        (xs.map Source.uuid)
      · rw [heq]
        exact ⟨hg₂, hd₂, hs₂⟩
      · refine ⟨hg₂.trans hm''.grown, hm''.sound_after, fun q hq => ?_⟩
        rw [hm''.tables.1] at hq
        have hsame : ∀ {q : Profile}, q.HasDisplay d₂ → q.HasDisplay _ := fun h =>
          Directory.hasDisplay_mono h fun b hb => ⟨b, hm''.tables.2.1.symm ▸ hb, rfl, rfl⟩
        obtain hq | hq := List.mem_append.1 hq
        · exact (hs₂ q hq).imp_right hsame
        · obtain rfl := List.mem_singleton.1 hq
          exact hm''.display.imp_right hsame

/-! ## A handling to the end -/

/-- A row passes the filter of a source when it is the row of it. -/
theorem isAutoSource_iff {entry : String × SourceBody} {x : Source} :
    isAutoSource e entry x = true ↔ Of e.uuid entry x := by
  simp only [isAutoSource, Of, Bool.and_eq_true, decide_eq_true_eq, and_assoc]

/-- The sources made are each the one of its body. -/
theorem filter_isAutoSource (hnodup : (entries.map fun entry => entry.2.name).Nodup)
    (hall : List.Forall₂ (Of e.uuid) entries xs) {entry : String × SourceBody}
    (he : entry ∈ entries) : ∃ x ∈ xs, xs.filter (isAutoSource e entry) = [x] := by
  obtain ⟨x, hx, hof⟩ := exists_of_forall₂ hall he
  have hkeys : (xs.map Source.rawName).Nodup := by
    have hnames : List.Forall₂ Eq (entries.map fun entry => entry.2.name)
        (xs.map fun x => some x.rawName) := by
      rw [List.forall₂_map_left_iff, List.forall₂_map_right_iff]
      exact hall.imp fun _ _ h => h.2.2
    rw [List.forall₂_eq_eq_eq] at hnames
    rw [hnames] at hnodup
    refine List.Nodup.of_map some ?_
    rwa [List.map_map]
  refine ⟨x, hx, filter_of_key hkeys hx (isAutoSource_iff.2 hof) fun y hy => ?_⟩
  exact Option.some.inj ((isAutoSource_iff.1 hy).2.2.symm.trans hof.2.2)

/-- **The services of a default profile reference the sources it was made
on.** -/
theorem ProfileMade.references (hm : ProfileMade t d display sources p d') {x : Source}
    (hx : x.uuid ∈ sources) (ht : x.tenantUuid = t) :
    ∀ service ∈ ["lookup", "reverse", "favorites"], References d' p service x := by
  intro service hservice
  obtain ⟨config, he, hsources⟩ : ∃ config, (service, config) ∈
      (autoProfile display sources).services.entries ∧ config.sources = sources := by
    rw [autoProfile_entries]
    simp only [List.mem_cons, List.not_mem_nil, or_false] at hservice
    obtain rfl | rfl | rfl := hservice
    · exact ⟨_, List.mem_cons_self, rfl⟩
    · exact ⟨_, List.mem_cons_of_mem _ (List.mem_cons_of_mem _ List.mem_cons_self), rfl⟩
    · exact ⟨_, List.mem_cons_of_mem _ List.mem_cons_self, rfl⟩
  obtain ⟨rows, -, hall⟩ := hm.associated.rows
  obtain ⟨s, -, hrow⟩ := exists_of_forall₂ hall he
  refine ⟨s, hrow.mem, hrow.profile, hrow.tenant.trans hm.tenant.symm, hrow.name, ?_⟩
  rw [ht]
  have hmem : sourceRow t s.uuid x.uuid ∈
      d'.profileServiceSources.filter (·.profileServiceUuid = s.uuid) := by
    rw [hrow.sources]
    exact List.mem_map_of_mem (hsources.symm ▸ hx)
  exact (List.mem_filter.1 hmem).1

/-- **What a default profile references, it was made on.** -/
theorem ProfileMade.mem_of_references (hd : d.Sound)
    (hm : ProfileMade t d display sources p d') {service : String} {x : Source}
    (hr : References d' p service x) : x.uuid ∈ sources := by
  obtain ⟨s, hs, hu, -, -, ha⟩ := hr
  obtain ⟨rows, hrows, hall⟩ := hm.associated.rows
  rw [hrows] at hs
  obtain hs | hs := List.mem_append.1 hs
  · obtain ⟨q, hq, hqu, -⟩ := hd.profile s hs
    exact absurd (hqu.trans hu ▸ List.mem_map_of_mem hq) hm.fresh
  · obtain ⟨entry, he, hrow⟩ := exists_of_forall₂ hall.flip hs
    have hmem : sourceRow x.tenantUuid s.uuid x.uuid ∈
        d'.profileServiceSources.filter (·.profileServiceUuid = s.uuid) :=
      List.mem_filter.2 ⟨ha, decide_eq_true rfl⟩
    rw [hrow.sources] at hmem
    obtain ⟨u, hu, heq⟩ := List.mem_map.1 hmem
    have hxu : u = x.uuid := congrArg ProfileServiceSource.sourceUuid heq
    rw [autoProfile_entries] at he
    simp only [List.mem_cons, List.not_mem_nil, or_false] at he
    obtain rfl | rfl | rfl := he <;> exact hxu ▸ hu

variable {h : Handling}

/-- **A handling to the end configures a tenant that was untouched.** -/
theorem configured_of_untouched (hd : d.Sound) (hend : ¬ h.steps ≤ 6)
    (hu : Untouched d h.event) : Configured (onNewTenantEvent h d) h.event := by
  obtain ⟨xs, d₁, b, d₂, ⟨hm, hall⟩, hm', hrun⟩ := onNewTenantEvent_steps h d
  obtain ⟨hdisplays, hprofiles, hsources⟩ := hu
  have htake : (autoSources h.event.name).take h.steps = autoSources h.event.name :=
    List.take_of_length_le (show 5 ≤ h.steps by omega)
  rw [htake] at hm hall
  have hall := hall hsources
  have hd₂ := hm'.sound (hm.sound hd)
  have hsame : d₂.profiles = d.profiles := hm'.profiles.trans hm.profiles
  have htenant : ∀ x ∈ xs, x.tenantUuid = h.event.uuid := fun x hx =>
    have ⟨⟨_, _, hof⟩, _⟩ := hm.each x hx
    hof.1
  have hthere : ∀ u ∈ xs.map Source.uuid, d₂.HasSource h.event.uuid u := by
    intro u hu
    obtain ⟨x, hx, rfl⟩ := List.mem_map.1 hu
    refine ⟨x, ?_, rfl, htenant x hx⟩
    rw [hm'.sources, hm.sources]
    exact List.mem_append_right _ hx
  have hfree : ∀ q ∈ d₂.profiles, q.name = "default" → q.tenantUuid ≠ h.event.uuid := by
    intro q hq hname htq
    have hnone := hprofiles q (hsame ▸ hq)
    simp [isDefaultProfile, hname, htq] at hnone
  have hb : b ∈ d₂.displays := hm'.displays ▸ List.mem_append_right _ List.mem_cons_self
  obtain ⟨p, hm''⟩ := autoCreateProfile_made h.server hd₂ hfree ⟨b, hb, rfl, hm'.tenant⟩
    hm.nodup hthere
  rw [hrun, if_neg (by omega), if_neg hend]
  refine ⟨b, p, ?_, ?_, hm''.displayUuid, by rw [hm''.displayTenantUuid, hm'.tenant], ?_⟩
  · rw [hm''.tables.2.1, hm'.displays, hm.displays, List.filter_append,
      List.filter_eq_nil_iff.2 fun c hc => Bool.eq_false_iff.1 (hdisplays c hc)]
    exact List.filter_cons_of_pos hm'.isAuto
  · rw [hm''.tables.1, hsame, List.filter_append,
      List.filter_eq_nil_iff.2 fun q hq => Bool.eq_false_iff.1 (hprofiles q hq)]
    exact List.filter_cons_of_pos (by simp [isDefaultProfile, hm''.tenant, hm''.name])
  · intro entry he
    obtain ⟨x, hx, hfilter⟩ := filter_isAutoSource (autoSources_nodup _) hall he
    refine ⟨x, ?_, hm''.references (List.mem_map_of_mem hx) (htenant x hx)⟩
    rw [hm''.tables.2.2, hm'.sources, hm.sources, List.filter_append, hfilter,
      List.filter_eq_nil_iff.2, List.nil_append]
    intro y hy hyof
    obtain ⟨hyt, -, hyn⟩ := isAutoSource_iff.1 hyof
    exact hsources entry he y hy hyt hyn

/-- **A handling to the end that leaves its tenant configured** found it
untouched. -/
theorem untouched_of_configured (hd : d.Sound) (hs : DisplaysSound d) (hend : ¬ h.steps ≤ 6)
    (hc : Configured (onNewTenantEvent h d) h.event) : Untouched d h.event := by
  obtain ⟨xs, d₁, b, d₂, ⟨hm, -⟩, hm', hrun⟩ := onNewTenantEvent_steps h d
  have hd₂ := hm'.sound (hm.sound hd)
  have hsame : d₂.profiles = d.profiles := hm'.profiles.trans hm.profiles
  rw [hrun, if_neg (by omega), if_neg hend] at hc
  obtain ⟨b', p', hb', hp', hu', -, hsources⟩ := hc
  have hmem := (mem_of_filter_eq_singleton hp').1
  have hfresh : b.uuid ∉ d.displays.map Display.uuid := hm.displays ▸ hm'.fresh
  -- the display is the one just made, as there is no other
  have hone : ∀ {d₃ : Directory}, d₃.displays = d₂.displays →
      d₃.displays.filter (isAutoDisplay h.event) = [b'] →
      d.displays.filter (isAutoDisplay h.event) = [] ∧ b' = b := by
    intro d₃ heq hfilter
    rw [heq, hm'.displays, hm.displays, List.filter_append,
      List.filter_cons_of_pos hm'.isAuto] at hfilter
    have hsplit := List.append_inj' (hfilter.trans (List.nil_append [b']).symm) rfl
    exact ⟨hsplit.1, (List.cons.inj hsplit.2).1.symm⟩
  -- no old profile is on a display just made
  have hold : p'.displayUuid = some b.uuid → p' ∉ d.profiles := by
    intro hu hp
    obtain hnone | ⟨c, hc, hcu, -⟩ := hs p' hp
    · exact nomatch hnone.symm.trans hu
    · exact hfresh (Option.some.inj (hcu.symm.trans hu) ▸ List.mem_map_of_mem hc)
  obtain heq | ⟨p, hm''⟩ := autoCreateProfile_cases h.server h.event.uuid hd₂ (some b.uuid)
    (xs.map Source.uuid)
  · rw [heq] at hb' hmem
    obtain ⟨-, rfl⟩ := hone rfl hb'
    exact absurd (hsame ▸ hmem) (hold hu')
  · obtain ⟨hnone, rfl⟩ := hone hm''.tables.2.1 hb'
    have hpp : p' = p := by
      rw [hm''.tables.1, hsame] at hmem
      exact List.mem_singleton.1 ((List.mem_append.1 hmem).resolve_left (hold hu'))
    subst hpp
    refine ⟨fun c hc => ?_, fun q hq => ?_, fun entry he y hy hyt hyn => ?_⟩
    · exact Bool.eq_false_iff.2 (List.filter_eq_nil_iff.1 hnone c hc)
    · refine Bool.eq_false_iff.2 fun hdefault => ?_
      simp only [isDefaultProfile, Bool.and_eq_true, decide_eq_true_eq] at hdefault
      exact hm''.free q (hsame.symm ▸ hq) hdefault.2 hdefault.1
    · obtain ⟨x, hfilter, hrefs⟩ := hsources entry he
      obtain ⟨hx, hof⟩ := mem_of_filter_eq_singleton hfilter
      obtain ⟨z, hz, hzu⟩ := List.mem_map.1
        (hm''.mem_of_references hd₂ (hrefs "lookup" List.mem_cons_self))
      rw [hm''.tables.2.2, hm'.sources, hm.sources] at hx
      obtain hx | hx := List.mem_append.1 hx
      · exact hm.fresh z hz (hzu ▸ List.mem_map_of_mem hx)
      · exact (hm.each x hx).2 y hy hyt
          (Option.some.inj (hyn.symm.trans (isAutoSource_iff.1 hof).2.2))

/-- A handling that stops after the display makes another. -/
theorem not_configured_twice (hsteps : ¬ h.steps ≤ 5) (hnot : h.steps ≤ 6)
    (hc : Configured d h.event) : ¬ Configured (onNewTenantEvent h d) h.event := by
  obtain ⟨xs, d₁, b, d₂, ⟨hm, -⟩, hm', hrun⟩ := onNewTenantEvent_steps h d
  rw [hrun, if_neg hsteps, if_pos hnot]
  rintro ⟨c', -, hc', -⟩
  obtain ⟨c, -, hfilter, -⟩ := hc
  rw [hm'.displays, hm.displays, List.filter_append, hfilter,
    List.filter_cons_of_pos hm'.isAuto] at hc'
  cases hc'

/-- A handling that stops before the display makes none. -/
theorem displays_of_steps (hsteps : h.steps ≤ 5) :
    (onNewTenantEvent h d).displays = d.displays := by
  obtain ⟨xs, d₁, b, d₂, ⟨hm, -⟩, -, hrun⟩ := onNewTenantEvent_steps h d
  rw [hrun, if_pos hsteps, hm.displays]

/-- A tenant configured for an event is not untouched. -/
theorem Configured.not_untouched (hc : Configured d e) : ¬ Untouched d e := by
  obtain ⟨b, -, hb, -⟩ := hc
  obtain ⟨hmem, hauto⟩ := mem_of_filter_eq_singleton hb
  exact fun hu => Bool.eq_false_iff.1 (hu.1 b hmem) hauto

end ConfigService

open ConfigService

namespace TenantsState

/-- **The events handled to the end left their tenants configured.** -/
def Configured (s : TenantsState) : Prop :=
  ∀ e ∈ s.handled, ConfigService.Configured s.directory e

/-- **A handling finds its tenant as it needs it**: untouched when it goes
to the end; not handled before when it goes as far as the display. -/
def Finds (s : TenantsState) (h : Handling) : Prop :=
  if h.steps ≤ 5 then True
  else if h.steps ≤ 6 then h.event ∉ s.handled else Untouched s.directory h.event

/-- **A handling leaves the tenants configured** when it finds its own as
it needs it. -/
theorem configured_exec {s : TenantsState} {h : Handling} (hd : s.directory.Sound)
    (hs : DisplaysSound s.directory) (hc : s.Configured) :
    (s.exec h).Configured ↔ s.Finds h := by
  obtain ⟨hg, -, -⟩ := grown_onNewTenantEvent hd hs h
  unfold Finds
  by_cases h5 : h.steps ≤ 5
  · rw [if_pos h5]
    refine iff_of_true (fun e he => ?_) trivial
    have he : e ∈ s.handled := by
      unfold exec at he
      rwa [if_pos (by omega)] at he
    exact (hc e he).grown hg (Or.inr (displays_of_steps h5))
  · rw [if_neg h5]
    by_cases h6 : h.steps ≤ 6
    · have hhandled : (s.exec h).handled = s.handled := if_pos h6
      rw [if_pos h6]
      constructor
      · exact fun h' he => not_configured_twice h5 h6 (hc _ he) (h' _ (hhandled ▸ he))
      · intro hnot e he
        rw [hhandled] at he
        exact (hc e he).grown hg (Or.inl fun heq => hnot (heq ▸ he))
    · have hhandled : (s.exec h).handled = s.handled ++ [h.event] := if_neg h6
      rw [if_neg h6]
      constructor
      · intro h'
        refine untouched_of_configured hd hs h6 (h' _ ?_)
        rw [hhandled]
        exact List.mem_append_right _ List.mem_cons_self
      · intro hu e he
        rw [hhandled] at he
        obtain he | he := List.mem_append.1 he
        · refine (hc e he).grown hg (Or.inl fun heq => ?_)
          exact (hc e he).not_untouched (heq ▸ hu)
        · obtain rfl := List.mem_singleton.1 he
          exact configured_of_untouched hd h6 hu

end TenantsState

/-- **When handling tenant-created events is idempotent**: in every state
of a run the tenants whose events were handled to the end are configured,
exactly when every handling finds its tenant as it needs it. -/
theorem tenants_configured_iff (d : Directory) (hd : d.Sound) (hs : DisplaysSound d)
    (l : List Handling) :
    (∀ s ∈ l.scanl TenantsState.exec { directory := d }, s.Configured) ↔
      Along TenantsState.exec TenantsState.Finds { directory := d } l :=
  forall_scanl_iff_of_invariant (J := fun s => s.directory.Sound ∧ DisplaysSound s.directory)
    (fun hj => (grown_onNewTenantEvent hj.1 hj.2 _).2)
    (fun hj hc => TenantsState.configured_exec hj.1 hj.2 hc) ⟨hd, hs⟩
    (fun _ he => absurd he List.not_mem_nil)

/-- A handling to the end, of a server that answers in the order of its
tables. -/
private def acmeHandling : Handling := ⟨⟨"t", "acme"⟩, .plain, 7⟩

private theorem empty_sound : (({} : Directory)).Sound :=
  ⟨List.nodup_nil, List.nodup_nil, (fun _ h => nomatch h), (fun _ h => nomatch h)⟩

private theorem empty_displaysSound : DisplaysSound {} := fun _ h => nomatch h

/-- A new tenant is configured, and stays so when its event is handled
again and that stops after three sources. -/
theorem tenants_configured_acme :
    Along TenantsState.exec TenantsState.Finds { directory := {} }
        [acmeHandling, { acmeHandling with steps := 3 }] ∧
      ∀ s ∈ [acmeHandling, { acmeHandling with steps := 3 }].scanl TenantsState.exec
        { directory := {} }, s.Configured := by
  have hfinds : Along TenantsState.exec TenantsState.Finds { directory := {} }
      [acmeHandling, { acmeHandling with steps := 3 }] :=
    ⟨⟨(fun _ h => nomatch h), (fun _ h => nomatch h), (fun _ _ _ h => nomatch h)⟩, trivial, trivial⟩
  exact ⟨hfinds, (tenants_configured_iff {} empty_sound empty_displaysSound _).2 hfinds⟩

/-- **The same event handled twice** leaves a second automatic display. -/
theorem tenants_not_configured : ¬ ∀ l : List Handling,
    ∀ s ∈ l.scanl TenantsState.exec { directory := {} }, s.Configured := by
  intro h
  have hall := h [acmeHandling, acmeHandling]
  obtain ⟨-, hd, hs⟩ := grown_onNewTenantEvent empty_sound empty_displaysSound acmeHandling
  have hfirst := hall _ (List.mem_cons_of_mem _ List.mem_cons_self) acmeHandling.event
    List.mem_cons_self
  have hsecond := hall _ (List.mem_cons_of_mem _ (List.mem_cons_of_mem _ List.mem_cons_self))
    acmeHandling.event List.mem_cons_self
  exact hfirst.not_untouched (untouched_of_configured hd hs (by decide) hsecond)

end WazoDird
