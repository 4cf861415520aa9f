import WazoDird.ConfigService.Model
import WazoDird.Profiles.ReadBack

/-!
# What each step of a tenant-created event leaves

A source is made unless the tenant has one of its name, and the handler is
told of those it made only. The display is made each time. The profile is
made unless the tenant has a default one, on the display and the sources of
this handling.
-/

namespace WazoDird

namespace ConfigService

variable {server : ProfileServer} {d d' : Directory} {tenantUuid : Uuid} {name : String}
  {entry : String × SourceBody} {entries : List (String × SourceBody)}

/-! ## The sources -/

/-- A body of a source that is named, and of no phonebook. -/
def Plain (entry : String × SourceBody) : Prop :=
  entry.1 ≠ "phonebook" ∧ entry.2.uuid = none ∧ ∃ name, name ≠ "" ∧ entry.2.name = some name

/-- A row is that of a body. -/
def Of (tenantUuid : Uuid) (entry : String × SourceBody) (x : Source) : Prop :=
  x.tenantUuid = tenantUuid ∧ x.backend = entry.1 ∧ entry.2.name = some x.rawName

/-- The database with one more source of a tenant. -/
def withSource (d : Directory) (tenantUuid : Uuid) (x : Source) : Directory :=
  { d with toDatabase :=
    { d.toDatabase.createTenant tenantUuid with sources := d.sources ++ [x] } }

/-- **What a source step does**: it makes the source, under a new uuid, or
the tenant has one of its name. -/
theorem addSource_cases (he : Plain entry) :
    (∃ x, addSource server tenantUuid d entry = (some x.uuid, withSource d tenantUuid x) ∧
      Of tenantUuid entry x ∧ x.uuid ∉ d.sourceUuids ∧
      ∀ y ∈ d.sources, y.tenantUuid = tenantUuid → y.rawName ≠ x.rawName) ∨
    (addSource server tenantUuid d entry = (none, d) ∧
      ∃ y ∈ d.sources, y.tenantUuid = tenantUuid ∧ entry.2.name = some y.rawName) := by
  obtain ⟨hbackend, huuid, name, hname, hbody⟩ := he
  have hfresh := server.uuids.fresh d.sourceUuids
  set u := server.uuids.generate d.sourceUuids with hu
  let x : Source :=
    { uuid := u, rawName := name, tenantUuid := tenantUuid, backend := entry.1
      searchedColumns := entry.2.searchedColumns
      firstMatchedColumns := entry.2.firstMatchedColumns
      formatColumns := entry.2.formatColumns, extraFields := entry.2.extraFields }
  have hrow : SourceCRUD.createNewSource (d.toDatabase.createTenant tenantUuid) ⟨u, ""⟩ entry.1
      tenantUuid entry.2 = .ok x := by
    simp [SourceCRUD.createNewSource, SourceCRUD.updateToDbFormat, hbackend, hbody, hname, huuid, x]
  have hclash : d.sources.any (SourceCRUD.clash x) = true ↔
      ∃ y ∈ d.sources, y.tenantUuid = tenantUuid ∧ entry.2.name = some y.rawName := by
    rw [List.any_eq_true]
    refine exists_congr fun y => and_congr_right fun hy => ?_
    have hne : u ≠ y.uuid := fun heq => hfresh (heq ▸ List.mem_map_of_mem hy)
    simp only [SourceCRUD.clash, Bool.or_eq_true, Bool.and_eq_true, decide_eq_true_eq]
    show u = y.uuid ∨ name = y.rawName ∧ tenantUuid = y.tenantUuid ↔ _
    rw [hbody, Option.some.injEq, or_iff_right hne, and_comm, eq_comm (a := tenantUuid)]
  by_cases hany : d.sources.any (SourceCRUD.clash x) = true
  · refine Or.inr ⟨?_, hclash.1 hany⟩
    have hcreate : SourceCRUD.create d.toDatabase ⟨u, ""⟩ entry.1 tenantUuid entry.2 =
        (.error (.duplicatedSource entry.2.name), d.toDatabase) := by
      simp [SourceCRUD.create, hrow, SourceCRUD.flushAndHandle, hany, bind, Except.bind]
    unfold addSource
    rw [← hu, hcreate]
  · refine Or.inl ⟨x, ?_, ⟨rfl, rfl, hbody⟩, hfresh, ?_⟩
    · obtain ⟨info, hinfo, hiu⟩ : ∃ info, SourceCRUD.fromDbFormat
          (withSource d tenantUuid x).toDatabase x = .ok info ∧ info.uuid = u := by
        have hsource : (withSource d tenantUuid x).toDatabase.sourceName x = some name :=
          if_neg hbackend
        unfold SourceCRUD.fromDbFormat
        rw [hsource]
        exact ⟨_, rfl, rfl⟩
      have hcreate : SourceCRUD.create d.toDatabase ⟨u, ""⟩ entry.1 tenantUuid entry.2 =
          (.ok info, (withSource d tenantUuid x).toDatabase) := by
        unfold SourceCRUD.create SourceCRUD.flushAndHandle
        dsimp only
        rw [hrow, Database.createTenant_sources]
        dsimp only [bind, Except.bind]
        rw [if_neg hany]
        dsimp only
        rw [show SourceCRUD.fromDbFormat { d.toDatabase.createTenant tenantUuid with
          sources := d.sources ++ [x] } x = .ok info from hinfo]
        rfl
      unfold addSource
      rw [← hu, hcreate]
      simp only [hiu]
      rfl
    · exact fun y hy ht hn => hany (hclash.2 ⟨y, hy, ht, hbody.trans (congrArg some hn.symm)⟩)

/-- **What the source steps leave**: one more row for each source made, of
one of the bodies and of a name its tenant had not, and no other table
changed. -/
structure Made (tenantUuid : Uuid) (d : Directory) (entries : List (String × SourceBody))
    (xs : List Source) (d' : Directory) : Prop where
  sources : d'.sources = d.sources ++ xs
  kept : { d' with toDatabase := d.toDatabase } = d
  each : ∀ x ∈ xs, (∃ entry ∈ entries, Of tenantUuid entry x) ∧
    ∀ y ∈ d.sources, y.tenantUuid = tenantUuid → y.rawName ≠ x.rawName
  fresh : ∀ x ∈ xs, x.uuid ∉ d.sourceUuids
  nodup : (xs.map Source.uuid).Nodup

/-- No source of the tenant has the name of one of some bodies. -/
def NoneOf (tenantUuid : Uuid) (d : Directory) (entries : List (String × SourceBody)) : Prop :=
  ∀ entry ∈ entries, ∀ y ∈ d.sources, y.tenantUuid = tenantUuid →
    entry.2.name ≠ some y.rawName

theorem sourceUuids_withSource (x : Source) :
    (withSource d tenantUuid x).sourceUuids = d.sourceUuids ++ [x.uuid] := by
  rw [Database.sourceUuids, Database.sourceUuids]
  exact List.map_append

/-- One more source made, before the others. -/
theorem Made.cons {x : Source} {xs : List Source}
    (h : Made tenantUuid (withSource d tenantUuid x) entries xs d') (hof : Of tenantUuid entry x)
    (hfresh : x.uuid ∉ d.sourceUuids)
    (hnone : ∀ y ∈ d.sources, y.tenantUuid = tenantUuid → y.rawName ≠ x.rawName) :
    Made tenantUuid d (entry :: entries) (x :: xs) d' where
  sources := h.sources.trans (List.append_assoc _ _ _)
  kept := by
    have hkept := congrArg (fun s : Directory => { s with toDatabase := d.toDatabase }) h.kept
    exact hkept
  each := by
    refine List.forall_mem_cons.2 ⟨⟨⟨entry, List.mem_cons_self, hof⟩, hnone⟩, fun z hz => ?_⟩
    obtain ⟨⟨e, he, hofz⟩, hnew⟩ := h.each z hz
    exact ⟨⟨e, List.mem_cons_of_mem _ he, hofz⟩, fun y hy => hnew y (List.mem_append_left _ hy)⟩
  fresh := by
    refine List.forall_mem_cons.2 ⟨hfresh, fun z hz hmem => h.fresh z hz ?_⟩
    rw [sourceUuids_withSource]
    exact List.mem_append_left _ hmem
  nodup := by
    rw [List.map_cons, List.nodup_cons]
    refine ⟨fun hmem => ?_, h.nodup⟩
    obtain ⟨z, hz, heq⟩ := List.mem_map.1 hmem
    refine h.fresh z hz ?_
    rw [sourceUuids_withSource, heq]
    exact List.mem_append_right _ List.mem_cons_self

/-- **The source steps**, and that they make all the sources when the
tenant has none of them. -/
theorem autoCreateSources_made (hentries : ∀ entry ∈ entries, Plain entry)
    (hnames : (entries.map fun entry => entry.2.name).Nodup) :
    ∃ xs d', autoCreateSources server tenantUuid d entries = (xs.map Source.uuid, d') ∧
      Made tenantUuid d entries xs d' ∧
      (NoneOf tenantUuid d entries → List.Forall₂ (Of tenantUuid) entries xs) := by
  induction entries generalizing d with
  | nil => exact ⟨[], d, rfl, ⟨(List.append_nil _).symm, rfl, nofun, nofun, List.nodup_nil⟩,
      fun _ => .nil⟩
  | cons entry entries ih =>
    obtain ⟨hplain, hentries⟩ := List.forall_mem_cons.1 hentries
    rw [List.map_cons, List.nodup_cons] at hnames
    have hcases : _ ∨ (addSource server tenantUuid d entry = (none, d) ∧ _) :=
      addSource_cases hplain
    obtain ⟨x, hadd, hof, hfresh, hnone⟩ | ⟨hadd, y, hy, ht, hn⟩ := hcases
    · obtain ⟨xs, d', hrest, hmade, hall⟩ := ih hentries hnames.2 (d := withSource d tenantUuid x)
      refine ⟨x :: xs, d', ?_, hmade.cons hof hfresh hnone, fun h => .cons hof (hall ?_)⟩
      · rw [autoCreateSources, hadd]
        dsimp only
        rw [hrest]
        rfl
      · intro e he y hy ht
        obtain hy | hy := List.mem_append.1 hy
        · exact h e (List.mem_cons_of_mem _ he) y hy ht
        · obtain rfl := List.mem_singleton.1 hy
          intro heq
          exact hnames.1 (List.mem_map.2 ⟨e, he, heq.trans hof.2.2.symm⟩)
    · obtain ⟨xs, d', hrest, hmade, hall⟩ := ih hentries hnames.2 (d := d)
      refine ⟨xs, d', ?_, { hmade with each := ?_ }, ?_⟩
      · rw [autoCreateSources, hadd]
        dsimp only
        rw [hrest]
        rfl
      · intro x hx
        obtain ⟨⟨e, he, hof⟩, hnew⟩ := hmade.each x hx
        exact ⟨⟨e, List.mem_cons_of_mem _ he, hof⟩, hnew⟩
      · exact fun h => absurd hn (h entry List.mem_cons_self y hy ht)

/-! ## The display -/

/-- **A display was made**: its row is new, and no other table changed but
that of the columns. -/
structure DisplayMade (tenantUuid : Uuid) (name : String) (d : Directory) (b : Display)
    (d' : Directory) : Prop where
  displays : d'.displays = d.displays ++ [b]
  tenant : b.tenantUuid = tenantUuid
  name : b.name = "auto_" ++ name
  fresh : b.uuid ∉ d.displays.map Display.uuid
  sources : d'.sources = d.sources
  kept : { d' with
    toDatabase := d.toDatabase, displays := d.displays, displayColumns := d.displayColumns } = d

/-- **The display step** makes a display. -/
theorem autoCreateDisplay_made (server : ProfileServer) (tenantUuid : Uuid) (d : Directory)
    (name : String) :
    ∃ b d', autoCreateDisplay server tenantUuid d name = (some b.uuid, d') ∧
      DisplayMade tenantUuid name d b d' := by
  have hfresh := server.uuids.fresh (d.displays.map Display.uuid)
  set u := server.uuids.generate (d.displays.map Display.uuid) with hu
  let b : Display := { uuid := u, tenantUuid := tenantUuid, name := "auto_" ++ name }
  let d' := DisplayCRUD.addColumns
    { d.createTenant tenantUuid with displays := d.displays ++ [b] } u defaultDisplayColumns
  have hnew : ¬ (d.createTenant tenantUuid).displays.any (·.uuid = b.uuid) = true := by
    rw [List.any_eq_true]
    rintro ⟨c, hc, heq⟩
    exact hfresh ((of_decide_eq_true heq : c.uuid = u) ▸ List.mem_map_of_mem hc)
  have hcreate : DisplayCRUD.create server.uuids server.columns d tenantUuid (autoDisplay name) =
      (.ok (DisplayCRUD.dump server.columns d' b), d') := by
    unfold DisplayCRUD.create
    dsimp only
    exact congrArg d.newSession (if_neg hnew)
  refine ⟨b, d', ?_, rfl, rfl, rfl, hfresh, d.toDatabase.createTenant_sources tenantUuid, rfl⟩
  unfold autoCreateDisplay
  rw [hcreate]
  rfl

/-! ## The profile -/

/-- The services of the automatic profile, each on all the sources. -/
theorem autoProfile_entries (display : Option Uuid) (sources : List Uuid) :
    (autoProfile display sources).services.entries =
      [("lookup", { sources := sources }), ("favorites", { sources := sources }),
        ("reverse", { sources := sources
                      config := Dict.ofList [("options", .dict [("timeout", .float (1 / 2))])] })] :=
  rfl

/-- **A default profile was made** of a tenant that had none: its row is
new, on the display, and its services are those of the handler. -/
structure ProfileMade (tenantUuid : Uuid) (d : Directory) (display : Option Uuid)
    (sources : List Uuid) (p : Profile) (d' : Directory) : Prop where
  associated : Associated (ProfileCRUD.withProfile d tenantUuid p) tenantUuid p.uuid
    (autoProfile display sources).services.entries d'
  sound : (ProfileCRUD.withProfile d tenantUuid p).Sound
  fresh : p.uuid ∉ d.profiles.map Profile.uuid
  tenant : p.tenantUuid = tenantUuid
  name : p.name = "default"
  displayUuid : p.displayUuid = display
  displayTenantUuid : p.displayTenantUuid = some tenantUuid
  display : p.displayUuid = none ∨ p.HasDisplay d
  free : ∀ q ∈ d.profiles, q.name = "default" → q.tenantUuid ≠ tenantUuid

/-- **What the profile step does**: nothing, or it makes the profile. -/
theorem autoCreateProfile_cases (server : ProfileServer) (tenantUuid : Uuid) (hd : d.Sound)
    (display : Option Uuid) (sources : List Uuid) :
    autoCreateProfile server tenantUuid d display sources = d ∨
    ∃ p, ProfileMade tenantUuid d display sources p
      (autoCreateProfile server tenantUuid d display sources) := by
  unfold autoCreateProfile
  cases hcreate : ProfileCRUD.create server d tenantUuid (autoProfile display sources) with
  | mk r d' =>
    cases r with
    | error e => exact Or.inl (Directory.newSession_eq_error.1 hcreate).2
    | ok u =>
      obtain ⟨hflush, hall, -⟩ := ProfileCRUD.create_eq_ok.1 hcreate
      obtain ⟨-, hnew, hfree, hdisplay⟩ := ProfileCRUD.flush_eq_ok.1 hflush
      have hsound := ProfileCRUD.sound_withProfile hd tenantUuid hnew
      refine Or.inr ⟨_, ProfileCRUD.associateAllServices_ok hsound hall, hsound, ?_, rfl, rfl, rfl,
        rfl, hdisplay, hfree⟩
      intro hmem
      obtain ⟨q, hq, heq⟩ := List.mem_map.1 hmem
      exact hnew q hq heq

/-- **The profile step makes the profile** of a tenant that has none, on a
display and sources it has. -/
theorem autoCreateProfile_made (server : ProfileServer) (hd : d.Sound) {display : Uuid}
    {sources : List Uuid}
    (hfree : ∀ q ∈ d.profiles, q.name = "default" → q.tenantUuid ≠ tenantUuid)
    (hdisplay : ∃ b ∈ d.displays, b.uuid = display ∧ b.tenantUuid = tenantUuid)
    (hnodup : sources.Nodup) (hthere : ∀ u ∈ sources, d.HasSource tenantUuid u) :
    ∃ p, ProfileMade tenantUuid d (some display) sources p
      (autoCreateProfile server tenantUuid d (some display) sources) := by
  set body := autoProfile (some display) sources with hbody
  have hnew := ProfileCRUD.newProfile_uuid_ne server d tenantUuid body
  have hflush : ProfileCRUD.flush d d.profiles (ProfileCRUD.newProfile server d tenantUuid body) =
      .ok () := by
    obtain ⟨b, hb, hbu, hbt⟩ := hdisplay
    have hname : '\x00' ∉ "default".toList := by decide
    exact ProfileCRUD.flush_eq_ok.2 ⟨hname, hnew, hfree,
      Or.inr ⟨b, hb, congrArg some hbu.symm, congrArg some hbt.symm⟩⟩
  have htakes : ∀ e ∈ body.services.entries, (ProfileCRUD.withProfile d tenantUuid
      (ProfileCRUD.newProfile server d tenantUuid body)).Takes tenantUuid e := by
    have hthere : ∀ u ∈ sources, (ProfileCRUD.withProfile d tenantUuid
        (ProfileCRUD.newProfile server d tenantUuid body)).HasSource tenantUuid u :=
      fun u hu => ProfileCRUD.hasSource_withProfile.2 (hthere u hu)
    intro e he
    rw [hbody, autoProfile_entries] at he
    simp only [List.mem_cons, List.not_mem_nil, or_false] at he
    obtain rfl | rfl | rfl := he
    · exact ⟨(by decide : '\x00' ∉ "lookup".toList), hnodup, hthere⟩
    · exact ⟨(by decide : '\x00' ∉ "favorites".toList), hnodup, hthere⟩
    · exact ⟨(by decide : '\x00' ∉ "reverse".toList), hnodup, hthere⟩
  obtain ⟨d', hd'⟩ := (ProfileCRUD.exists_associateAllServices_eq_ok
    (ProfileCRUD.sound_withProfile hd tenantUuid hnew)).2 htakes
  have hcreate := ProfileCRUD.create_eq_ok.2 ⟨hflush, hd', rfl⟩
  refine (autoCreateProfile_cases server tenantUuid hd (some display) sources).resolve_left ?_
  intro heq
  have heq : d' = d := by
    rw [← heq, autoCreateProfile, ← hbody, hcreate]
  have hkept := ProfileCRUD.associateAllServices_kept hd'
  have hprofiles : d'.profiles = d.profiles ++ [_] := (congrArg Directory.profiles hkept :)
  rw [heq] at hprofiles
  have hlen := congrArg List.length hprofiles
  rw [List.length_append, List.length_singleton] at hlen
  omega

end ConfigService

end WazoDird
