import WazoDird.Database.Queries.Phonebook
import WazoDird.Database.Queries.Profile
import WazoDird.Services.Names

/-!
# One law for the stores of a tenant

Phonebooks, sources, profiles and displays are each listed, counted, read
and written within the tenants a caller may see: none given means all of
them, an empty list means none. Each of the four classes builds its own
filters. What they owe their callers is one law, `TenantStore.Scoped`, and
all four keep it where the driver takes what is asked for, but for a
search of phonebooks in all tenants: that query cannot be built.
-/

namespace WazoDird

/-- Whether a tenant is one a caller may see. -/
def inScope (visibleTenants : Option (List Uuid)) (tenant : Uuid) : Bool :=
  visibleTenants.elim true (tenant ∈ ·)

/-- **A store of the rows of tenants**, as its class shows it: what it
answers in some order of the rows, what its search looks for, and whose
rows a key names. -/
structure TenantStore (ω ι κ β : Type) where
  list : ω → Directory → Option (List Uuid) → Option String → Except DirdError (List ι)
  count : Directory → Option (List Uuid) → Option String → Except DirdError ℕ
  get : ω → Directory → Option (List Uuid) → κ → Except DirdError ι
  edit : ω → Directory → Option (List Uuid) → κ → β → Except DirdError Unit × Directory
  delete : Directory → Option (List Uuid) → κ → Except DirdError Unit × Directory
  tenant : ι → Uuid
  found : String → ι → Bool
  owners : Directory → κ → List Uuid

/-- **The law of a scope**: a listing with a search is what the search
finds of the listing without one, a count is the length of the listing,
nothing is shown of a tenant outside the scope, and a row outside the
scope can neither be read nor written. -/
structure TenantStore.Scoped {ω ι κ β : Type} (S : TenantStore ω ι κ β) (d : Directory)
    (tenants : Option (List Uuid)) (search : Option String) : Prop where
  listed : ∀ o o', ∃ all found, S.list o d tenants none = .ok all ∧
    S.list o' d tenants search = .ok found ∧
    found.Perm (all.filter fun i => search.elim true (S.found · i)) ∧
    S.count d tenants search = .ok found.length ∧ S.count d tenants none = .ok all.length ∧
    ∀ i ∈ all, inScope tenants (S.tenant i) = true
  shown : ∀ o k i, S.get o d tenants k = .ok i → inScope tenants (S.tenant i) = true
  refused : ∀ o k, (∀ t ∈ S.owners d k, inScope tenants t = false) →
    (∃ e, S.get o d tenants k = .error e) ∧
    (∀ b, ∃ e, S.edit o d tenants k b = (.error e, d)) ∧
    ∃ e, S.delete d tenants k = (.error e, d)

/-- What an operation on the other tables leaves of the whole database. -/
def Directory.lift {α β : Type} (d : Directory) (f : α → β)
    (result : Except DirdError α × Database) : Except DirdError β × Directory :=
  (result.1.map f, d.withTables result.2)

/-! ## Rows under a filter -/

section Rows

variable {ρ ι : Type} {rows : List ρ} {scope q : ρ → Bool} {f : ρ → ι} {found : ι → Bool}
  {o o' : RowOrder ρ}

/-- What a search finds among the rows in scope, whatever the order of
either answer. -/
theorem searched_perm (h : ∀ r ∈ rows, found (f r) = q r) :
    ((o'.order (rows.filter fun r => scope r && q r)).map f).Perm
      (((o.order (rows.filter scope)).map f).filter found) := by
  have hfilter : rows.filter (fun r => scope r && q r) =
      (rows.filter scope).filter (found ∘ f) := by
    rw [List.filter_filter]
    refine List.filter_congr fun r hr => ?_
    rw [Function.comp_apply, h r hr, Bool.and_comm]
  rw [List.filter_map, hfilter]
  exact ((o'.perm _).trans ((o.perm _).filter _).symm).map f

/-- No row of a key in scope: the first one is none. -/
theorem first_filter_eq_none {p : ρ → Bool} (h : ∀ r ∈ rows, p r = false) :
    o.first (rows.filter p) = none :=
  RowOrder.first_eq_none.2 (List.filter_eq_nil_iff.2 fun r hr => by simp [h r hr])

end Rows

section None

variable {ρ : Type} {rows : List ρ} {p : ρ → Bool}

/-- Rows none of which meets a predicate stay. -/
theorem filter_not_of_none (h : ∀ r ∈ rows, p r = false) : (rows.filter fun r => !p r) = rows :=
  List.filter_eq_self.2 fun r hr => by simp [h r hr]

/-- And nothing hangs on one of them. -/
theorem any_and_of_none (h : ∀ r ∈ rows, p r = false) (q : ρ → Bool) :
    (rows.any fun r => p r && q r) = false := by
  rw [List.any_eq_false]
  intro r hr
  simp [h r hr]

/-- No row of a key is one of the scope, when none of its tenants is. -/
theorem none_of_owners {named : ρ → Bool} {tenant : ρ → Uuid} {tenants : Option (List Uuid)}
    (hp : ∀ r, p r = (named r && inScope tenants (tenant r)))
    (h : ∀ t ∈ (rows.filter named).map tenant, inScope tenants t = false) :
    ∀ r ∈ rows, p r = false := by
  intro r hr
  rw [hp]
  by_cases hnamed : named r = true
  · rw [h _ (List.mem_map_of_mem (List.mem_filter.2 ⟨hr, hnamed⟩)), Bool.and_false]
  · rw [Bool.eq_false_iff.2 hnamed, Bool.false_and]

/-- The row of a key and a scope is of a tenant of the scope. -/
theorem inScope_of_first (tenant : ρ → Uuid) {named : ρ → Bool} {tenants : Option (List Uuid)}
    {o : RowOrder ρ} {r : ρ} (hp : ∀ r, p r = (named r && inScope tenants (tenant r)))
    (h : o.first (rows.filter p) = some r) : inScope tenants (tenant r) = true := by
  have hr := (List.mem_filter.1 (RowOrder.mem_of_first h)).2
  rw [hp, Bool.and_eq_true] at hr
  exact hr.2

end None

namespace Directory

variable {d : Directory}

/-- Nothing is gone when no source is. -/
theorem withTables_self : d.withTables d.toDatabase = d := by
  rw [withTables, List.filter_eq_self.2 fun a _ => Bool.not_or_self _]

theorem dropDisplays_of_none {p : Display → Bool} (h : ∀ b ∈ d.displays, p b = false) :
    d.dropDisplays p = d := by
  simp [dropDisplays, any_and_of_none h, filter_not_of_none h, Bool.and_assoc]

theorem dropProfileServices_of_none {p : ProfileService → Bool}
    (h : ∀ s ∈ d.profileServices, p s = false) : d.dropProfileServices p = d := by
  simp [dropProfileServices, any_and_of_none h, filter_not_of_none h, Bool.and_assoc]

theorem dropProfiles_of_none {p : Profile → Bool} (h : ∀ b ∈ d.profiles, p b = false) :
    d.dropProfiles p = d := by
  rw [dropProfiles, dropProfileServices_of_none fun s _ => by
    simp [any_and_of_none h, Bool.and_assoc], filter_not_of_none h]

end Directory

theorem SourceCRUD.dropSources_of_none {db : Database} {p : Source → Bool}
    (h : ∀ s ∈ db.sources, p s = false) : SourceCRUD.dropSources db p = db := by
  simp [dropSources, any_and_of_none h, filter_not_of_none h]

/-! ## The four stores -/

variable (lower : String → String)

/-- Whether a name has a term. -/
def nameFound (term name : String) : Bool := ilike lower ("%" ++ term ++ "%") name

/-- `PhonebookCRUD`: a search looks at descriptions too, and an empty one
for nothing. -/
def PhonebookCRUD.store : TenantStore (RowOrder Phonebook) Phonebook PhonebookKey PhonebookBody where
  list o d tenants search := list lower o d.toDatabase tenants search
  count d tenants search := count lower d.toDatabase tenants search
  get _ d tenants key := get d.toDatabase tenants key
  edit _ d tenants key body := d.lift (fun _ => ()) (edit d.toDatabase tenants key body)
  delete d tenants key := d.lift id (delete d.toDatabase tenants key)
  tenant p := p.tenantUuid
  found term p := term = "" || nameFound lower term p.name ||
    p.description.elim false (nameFound lower term)
  owners d key := (d.phonebooks.filter (phonebookKeyToFilter key)).map Phonebook.tenantUuid

/-- `SourceCRUD`, asked for a backend, a uuid or a name too. A key is a
backend and a uuid. -/
def SourceCRUD.store (backend uuid name : Option String) :
    TenantStore (RowOrder Source) SourceInfo (String × Uuid) SourceBody where
  list o d tenants search :=
    list lower o d.toDatabase backend tenants { uuid := uuid, name := name, search := search }
  count d tenants search :=
    count lower d.toDatabase backend tenants { uuid := uuid, name := name, search := search }
  get o d tenants key := get o d.toDatabase key.1 key.2 tenants
  edit o d tenants key body := d.lift (fun _ => ()) (edit o d.toDatabase key.1 key.2 tenants body)
  delete d tenants key := d.lift id (delete d.toDatabase key.1 key.2 tenants)
  tenant i := i.tenantUuid
  found term i := nameFound lower term i.name
  owners d key := (d.sources.filter fun s => s.backend = key.1 && s.uuid = key.2).map
    Source.tenantUuid

/-- `ProfileCRUD`, asked for a uuid or a name too. -/
def ProfileCRUD.store (server : ProfileServer) (uuid name : Option String) :
    TenantStore (RowOrder Profile) ProfileInfo Uuid ProfileBody where
  list o d tenants search :=
    list { server with profiles := o } lower d tenants { uuid := uuid, name := name, search := search }
  count d tenants search :=
    count lower d tenants { uuid := uuid, name := name, search := search }
  get o d tenants key := get { server with profiles := o } d tenants key
  edit o d tenants key body := edit { server with profiles := o } d tenants key body
  delete d tenants key := delete d tenants key
  tenant i := i.tenantUuid
  found term i := nameFound lower term i.name
  owners d key := (d.profiles.filter (·.uuid = key)).map Profile.tenantUuid

/-- `DisplayCRUD`, asked for a uuid or a name too. -/
def DisplayCRUD.store (oc : RowOrder DisplayColumnRow) (uuid name : Option String) :
    TenantStore (RowOrder Display) DisplayInfo Uuid DisplayBody where
  list o d tenants search :=
    list lower o oc d tenants { uuid := uuid, name := name, search := search }
  count d tenants search :=
    count lower d tenants { uuid := uuid, name := name, search := search }
  get o d tenants key := get o oc d tenants key
  edit o d tenants key body := edit o d tenants key body
  delete d tenants key := delete d tenants key
  tenant i := i.tenantUuid
  found term i := nameFound lower term i.name
  owners d key := (d.displays.filter (·.uuid = key)).map Display.tenantUuid

section Listed

variable {ρ ι κ β : Type} {S : TenantStore (RowOrder ρ) ι κ β} {d : Directory}
  {tenants : Option (List Uuid)} {search : Option String}

/-- A store whose listing and count go through one filter, of the scope
and of the search. -/
theorem TenantStore.listed_of_rows (rows : List ρ) (f : ρ → ι) (scope q : ρ → Bool)
    (hlist : ∀ o, S.list o d tenants search =
      .ok ((o.order (rows.filter fun r => scope r && q r)).map f))
    (hall : ∀ o, S.list o d tenants none = .ok ((o.order (rows.filter scope)).map f))
    (hcount : S.count d tenants search = .ok (rows.filter fun r => scope r && q r).length)
    (hcountAll : S.count d tenants none = .ok (rows.filter scope).length)
    (hq : ∀ r ∈ rows, search.elim true (S.found · (f r)) = q r)
    (hscope : ∀ r ∈ rows, scope r = true → inScope tenants (S.tenant (f r)) = true)
    (o o' : RowOrder ρ) : ∃ all found, S.list o d tenants none = .ok all ∧
      S.list o' d tenants search = .ok found ∧
      found.Perm (all.filter fun i => search.elim true (S.found · i)) ∧
      S.count d tenants search = .ok found.length ∧ S.count d tenants none = .ok all.length ∧
      ∀ i ∈ all, inScope tenants (S.tenant i) = true := by
  refine ⟨_, _, hall o, hlist o', searched_perm hq, ?_, ?_, fun i hi => ?_⟩
  · rw [hcount, List.length_map, (o'.perm _).length_eq]
  · rw [hcountAll, List.length_map, (o.perm _).length_eq]
  · obtain ⟨r, hr, rfl⟩ := List.mem_map.1 hi
    obtain ⟨hmem, hs⟩ := List.mem_filter.1 (o.mem_order.1 hr)
    exact hscope r hmem hs

end Listed

/-- A store that keeps the law is asked for texts that are taken. -/
theorem TenantStore.Scoped.taken {ρ ι κ β : Type} {S : TenantStore (RowOrder ρ) ι κ β}
    {d : Directory} {tenants : Option (List Uuid)} {search : Option String}
    (h : S.Scoped d tenants search) {texts : List String}
    {rest : Unit → Except DirdError (List ι)} {o : RowOrder ρ}
    (hlist : S.list o d tenants search = takeTexts texts >>= rest) : NullFree texts := by
  obtain ⟨-, found, -, hfound, -⟩ := h.listed o o
  rw [hlist] at hfound
  obtain ⟨⟨⟩, htexts, -⟩ := bind_eq_ok.1 hfound
  exact takeTexts_ok.1 htexts

/-- Without a search there are no more texts. -/
theorem nullFree_append_nil {texts texts' : List String} (h : NullFree (texts ++ texts')) :
    NullFree (texts ++ []) :=
  nullFree_append.2 ⟨(nullFree_append.1 h).1, List.forall_mem_nil _⟩

@[simp] theorem DirectoryListParams.page_all {α : Type} {uuid name search : Option String}
    {rows : List α} :
    DirectoryListParams.page { uuid := uuid, name := name, search := search } rows = rows := rfl

/-! ### Displays -/

namespace DisplayCRUD

variable {d : Directory} {tenants : Option (List Uuid)} {k : Uuid} {o : RowOrder Display}

/-- The filter of a uuid is that of the uuid and of the scope, or there is
no scope. -/
theorem buildFilter_cases (tenants : Option (List Uuid)) (k : Uuid) :
    buildFilter tenants k = .error (.noSuchDisplay k) ∨
    ∃ p, buildFilter tenants k = .ok p ∧
      ∀ b, p b = (decide (b.uuid = k) && inScope tenants b.tenantUuid) := by
  match tenants with
  | none => exact Or.inr ⟨_, rfl, fun b => by simp [inScope]⟩
  | some [] => exact Or.inl rfl
  | some (t :: ts) => exact Or.inr ⟨_, rfl, fun b => rfl⟩

/-- **Displays keep the law of texts that are taken.** -/
theorem store_scoped (oc : RowOrder DisplayColumnRow) (uuid name : Option String) (d : Directory)
    (tenants : Option (List Uuid)) (search : Option String)
    (hsearch : NullFree (uuid.toList ++ name.toList ++ search.toList)) :
    (store lower oc uuid name).Scoped d tenants search where
  listed := TenantStore.listed_of_rows d.displays (dump oc d)
    (listFilter lower tenants { uuid := uuid, name := name })
    (fun b => search.elim true (nameFound lower · b.name))
    (fun o => (takeTexts_bind_of hsearch _).trans (by simp [listFilter, nameFound]; rfl))
    (fun o => takeTexts_bind_of (nullFree_append_nil hsearch) _)
    ((takeTexts_bind_of hsearch _).trans (by simp [listFilter, nameFound]; rfl))
    (takeTexts_bind_of (nullFree_append_nil hsearch) _) (fun _ _ => rfl)
    fun b _ hb => by
      simp only [listFilter, Bool.and_eq_true] at hb
      exact hb.1.1.1
  shown o k i h := by
    obtain ⟨p, hp, h⟩ := bind_eq_ok.1 h
    rcases buildFilter_cases tenants k with herr | ⟨p', hp', hspec⟩
    · rw [herr] at hp
      cases hp
    · rw [hp'] at hp
      cases hp
      split at h
      · cases h
      · next b hb =>
        cases h
        exact inScope_of_first Display.tenantUuid hspec hb
  refused o k h := by
    rcases buildFilter_cases tenants k with herr | ⟨p, hp, hspec⟩
    · simp only [store, get, edit, delete, herr]
      exact ⟨⟨_, rfl⟩, fun _ => ⟨_, rfl⟩, _, rfl⟩
    · have hnone := none_of_owners hspec h
      have hfirst := first_filter_eq_none hnone (o := o)
      have hany : d.displays.any p = false := by simpa using hnone
      simp only [store, get, edit, delete, hp, hfirst, hany, Directory.dropDisplays_of_none hnone,
        bind, Except.bind]
      exact ⟨⟨_, rfl⟩, fun _ => ⟨_, rfl⟩, _, rfl⟩

end DisplayCRUD

/-! ### Profiles -/

namespace ProfileCRUD

variable {d : Directory} {tenants : Option (List Uuid)} {k : Uuid} {o : RowOrder Profile}

/-- The filter of a uuid is that of the uuid and of the scope, or there is
no scope. -/
theorem buildFilter_cases (tenants : Option (List Uuid)) (k : Uuid) :
    buildFilter tenants k = .error (.noSuchProfileAPI k) ∨
    ∃ p, buildFilter tenants k = .ok p ∧
      ∀ b, p b = (decide (b.uuid = k) && inScope tenants b.tenantUuid) := by
  match tenants with
  | none => exact Or.inr ⟨_, rfl, fun b => by simp [inScope]⟩
  | some [] => exact Or.inl rfl
  | some (t :: ts) => exact Or.inr ⟨_, rfl, fun b => rfl⟩

/-- The texts of a listing are taken: in the scope of no tenant there are
none. -/
theorem nullFree_listTexts {params : DirectoryListParams} :
    NullFree (listTexts tenants params) ↔ tenants = some [] ∨ NullFree params.texts := by
  unfold listTexts
  by_cases htenants : tenants = some [] <;> simp [htenants, NullFree]

theorem nullFree_listTexts_none {uuid name search : Option String}
    (h : NullFree (listTexts tenants { uuid := uuid, name := name, search := search })) :
    NullFree (listTexts tenants { uuid := uuid, name := name }) :=
  nullFree_listTexts.2 ((nullFree_listTexts.1 h).imp_right nullFree_append_nil)

/-- **Profiles keep the law of texts that are taken.** -/
theorem store_scoped (server : ProfileServer) (uuid name : Option String) (d : Directory)
    (tenants : Option (List Uuid)) (search : Option String)
    (hsearch : NullFree (listTexts tenants { uuid := uuid, name := name, search := search })) :
    (store lower server uuid name).Scoped d tenants search where
  listed := TenantStore.listed_of_rows d.profiles (dump server d)
    (listFilter lower tenants { uuid := uuid, name := name })
    (fun b => search.elim true (nameFound lower · b.name))
    (fun o => (takeTexts_bind_of hsearch _).trans (by simp [listFilter, nameFound]; rfl))
    (fun o => takeTexts_bind_of (nullFree_listTexts_none hsearch) _)
    ((takeTexts_bind_of hsearch _).trans (by simp [listFilter, nameFound]; rfl))
    (takeTexts_bind_of (nullFree_listTexts_none hsearch) _) (fun _ _ => rfl)
    fun b _ hb => by
      simp only [listFilter, Bool.and_eq_true] at hb
      exact hb.1.1.1
  shown o k i h := by
    obtain ⟨p, hp, h⟩ := bind_eq_ok.1 h
    rcases buildFilter_cases tenants k with herr | ⟨p', hp', hspec⟩
    · rw [herr] at hp
      cases hp
    · rw [hp'] at hp
      cases hp
      split at h
      · cases h
      · next b hb =>
        cases h
        exact inScope_of_first Profile.tenantUuid hspec hb
  refused o k h := by
    rcases buildFilter_cases tenants k with herr | ⟨p, hp, hspec⟩
    · simp only [store, get, edit, delete, herr]
      exact ⟨⟨_, rfl⟩, fun _ => ⟨_, rfl⟩, _, rfl⟩
    · have hnone := none_of_owners hspec h
      have hfirst := first_filter_eq_none hnone (o := o)
      have hany : d.profiles.any p = false := by simpa using hnone
      simp only [store, get, edit, delete, hp, hfirst, hany, Directory.dropProfiles_of_none hnone,
        Directory.dropProfileServices, bind, Except.bind]
      exact ⟨⟨_, rfl⟩, fun _ => ⟨_, rfl⟩, _, rfl⟩

end ProfileCRUD

/-! ### Sources -/

namespace SourceCRUD

variable {d : Directory} {tenants : Option (List Uuid)}

/-- The filter of a key is that of its backend, of its uuid and of the
scope. -/
theorem multiTenantFilter_eq (backend : String) (u : Uuid) (x : Source) :
    multiTenantFilter backend u tenants x =
      ((decide (x.backend = backend) && decide (x.uuid = u)) && inScope tenants x.tenantUuid) :=
  rfl

/-- **Sources that can be read keep the law of texts that are taken.** -/
theorem store_scoped (backend uuid name : Option String)
    (hread : ∀ x ∈ d.sources, Readable d.toDatabase x) (tenants : Option (List Uuid))
    (search : Option String)
    (hsearch : NullFree (backend.toList ++ (uuid.toList ++ name.toList ++ search.toList))) :
    (store lower backend uuid name).Scoped d tenants search := by
  have hall : NullFree (backend.toList ++ (uuid.toList ++ name.toList ++ [])) :=
    nullFree_append.2 ⟨(nullFree_append.1 hsearch).1,
      nullFree_append_nil (nullFree_append.1 hsearch).2⟩
  have : Nonempty SourceInfo := ⟨{ uuid := "", backend := "", name := "", tenantUuid := "" }⟩
  choose! f hf using fun x hx => readable_iff.1 (hread x hx)
  -- every row of an answer is read
  have hmap : ∀ (o : RowOrder Source) (p : Source → Bool),
      (o.order (d.sources.filter p)).mapM (fromDbFormat d.toDatabase) =
        .ok ((o.order (d.sources.filter p)).map f) := fun o p =>
    mapM_eq_ok_map fun x hx => hf x (List.mem_filter.1 (o.mem_order.1 hx)).1
  constructor
  · refine TenantStore.listed_of_rows d.sources f
      (listFilter lower d.toDatabase backend tenants { uuid := uuid, name := name })
      (fun x => search.elim true fun term =>
        (d.sourceName x).elim false (nameFound lower term)) (fun o => ?_) (fun o => ?_) ?_
      (takeTexts_bind_of hall _)
      (fun x hx => ?_) fun x hx hscope => ?_
    · refine (takeTexts_bind_of hsearch _).trans ?_
      simp only [Option.getD_none, List.drop_zero, Option.elim_none, hmap, listFilter,
        Bool.and_true]
      rfl
    · refine (takeTexts_bind_of hall _).trans ?_
      simp only [Option.getD_none, List.drop_zero, Option.elim_none, hmap]
    · refine (takeTexts_bind_of hsearch _).trans ?_
      simp only [listFilter, Option.elim_none, Bool.and_true]
      rfl
    · obtain ⟨-, -, -, hname⟩ := fromDbFormat_ok (hf x hx)
      rw [hname]
      rfl
    · obtain ⟨-, -, htenant, -⟩ := fromDbFormat_ok (hf x hx)
      simp only [listFilter, Bool.and_eq_true] at hscope
      simp only [store, htenant]
      exact hscope.1.1.1.1
  · rintro o ⟨b, u⟩ i h
    simp only [store, get] at h
    split at h
    · cases h
    · next x hx =>
      simp only [store, (fromDbFormat_ok h).2.2.1]
      exact inScope_of_first Source.tenantUuid (multiTenantFilter_eq b u) hx
  · rintro o ⟨b, u⟩ h
    have hnone := none_of_owners (multiTenantFilter_eq b u) h
    have hfirst := first_filter_eq_none hnone (o := o)
    have hany : d.sources.any (multiTenantFilter b u tenants) = false := by simpa using hnone
    simp only [store, get, edit, delete, hfirst, hany, dropSources_of_none hnone, Directory.lift,
      newSession_error, Directory.withTables_self]
    exact ⟨⟨_, rfl⟩, fun _ => ⟨_, rfl⟩, _, rfl⟩

end SourceCRUD

/-! ### Phonebooks -/

namespace PhonebookCRUD

variable {d : Directory} {tenants : Option (List Uuid)} {search : Option String}

/-- The filter of a key is that of the key and of the scope. -/
theorem phonebookSelector_eq (key : PhonebookKey) (p : Phonebook) :
    phonebookSelector tenants key p =
      (phonebookKeyToFilter key p && inScope tenants p.tenantUuid) := by
  match tenants with
  | none => simp [phonebookSelector, inScope]
  | some [] => simp [phonebookSelector, inScope]
  | some (t :: ts) => rfl

/-- The filter of a search is that of the scope and of the search, when it
can be built. -/
theorem phonebookSearchFilter_ok (h : tenants = none → search.filter (· ≠ "") = none) :
    phonebookSearchFilter lower tenants search = .ok fun p =>
      inScope tenants p.tenantUuid && search.elim true ((store lower).found · p) := by
  match tenants, search with
  | none, none => rfl
  | none, some term =>
    have hterm : term = "" := by simpa [Option.filter] using h rfl
    simp [phonebookSearchFilter, hterm, Option.filter, inScope, store]
  | some ts, none => simp [phonebookSearchFilter, inScope]
  | some ts, some term =>
    by_cases hterm : term = ""
    · simp [phonebookSearchFilter, hterm, Option.filter, inScope, store]
    · simp only [phonebookSearchFilter, Option.filter, ne_eq, hterm, not_false_eq_true, decide_true,
        if_true, store, decide_false, Bool.false_or, Option.elim_some]
      rfl

/-- Without a search it is that of the scope. -/
theorem phonebookSearchFilter_none :
    phonebookSearchFilter lower tenants none = .ok fun p => inScope tenants p.tenantUuid := by
  cases tenants <;> rfl

/-- **Phonebooks keep the law where a search that is taken has tenants to
look in.** -/
theorem store_scoped (h : tenants = none → search.filter (· ≠ "") = none)
    (hsearch : NullFree search.toList) : (store lower).Scoped d tenants search where
  listed := TenantStore.listed_of_rows d.phonebooks id (fun p => inScope tenants p.tenantUuid)
    (fun p => search.elim true ((store lower).found · p))
    (fun o => by
      simp only [store, list, phonebookSearchFilter_ok lower h, List.map_id]
      exact takeTexts_bind_of hsearch _)
    (fun o => by
      simp only [store, list, phonebookSearchFilter_none, List.map_id]
      rfl)
    (by
      simp only [store, count, phonebookSearchFilter_ok lower h]
      exact takeTexts_bind_of hsearch _)
    (by
      simp only [store, count, phonebookSearchFilter_none]
      rfl)
    (fun _ _ => rfl) fun _ _ hp => hp
  shown o key p h := by
    simp only [store, get, getByTenantAndId] at h
    split at h
    · cases h
    · next q hq =>
      cases h
      have hsel := List.find?_some hq
      rw [phonebookSelector_eq, Bool.and_eq_true] at hsel
      exact hsel.2
  refused o key h := by
    have hnone := none_of_owners (phonebookSelector_eq key) h
    have hfind : d.phonebooks.find? (phonebookSelector tenants key) = none :=
      List.find?_eq_none.2 fun p hp => by simp [hnone p hp]
    simp only [store, get, edit, delete, getByTenantAndId, hfind, bind, Except.bind,
      newSession_error, Directory.lift, Directory.withTables_self]
    exact ⟨⟨_, rfl⟩, fun _ => ⟨_, rfl⟩, _, rfl⟩

/-- A search in all tenants is not answered at all. -/
theorem not_store_scoped {term : String} (hterm : term ≠ "") :
    ¬ (store lower).Scoped d none (some term) := by
  rintro ⟨hlisted, -, -⟩
  obtain ⟨-, found, -, hfound, -⟩ := hlisted .asStored .asStored
  simp [store, list, phonebookSearchFilter, Option.filter, hterm, bind, Except.bind] at hfound

end PhonebookCRUD

/-! ## The law -/

/-- **When the four stores keep one law.** Sources, profiles and displays
do whenever the driver takes what is asked of them, of profiles nothing
in the scope of no tenant; phonebooks do unless a term is searched in all
tenants. -/
theorem stores_scoped_iff {d : Directory} (hread : ∀ x ∈ d.sources,
      SourceCRUD.Readable d.toDatabase x)
    (tenants : Option (List Uuid)) (search : Option String) :
    (∀ backend uuid name, (SourceCRUD.store lower backend uuid name).Scoped d tenants search ↔
      NullFree (backend.toList ++ (uuid.toList ++ name.toList ++ search.toList))) ∧
    (∀ server uuid name, (ProfileCRUD.store lower server uuid name).Scoped d tenants search ↔
      tenants = some [] ∨ NullFree (uuid.toList ++ name.toList ++ search.toList)) ∧
    (∀ oc uuid name, (DisplayCRUD.store lower oc uuid name).Scoped d tenants search ↔
      NullFree (uuid.toList ++ name.toList ++ search.toList)) ∧
    ((PhonebookCRUD.store lower).Scoped d tenants search ↔ NullFree search.toList ∧
      ¬ (tenants = none ∧ ∃ term, search = some term ∧ term ≠ "")) := by
  refine ⟨fun backend uuid name => ⟨fun h => h.taken (o := .asStored) rfl, ?_⟩,
    fun server uuid name => ⟨fun h => ?_, fun h => ?_⟩,
    fun oc uuid name => ⟨fun h => h.taken (o := .asStored) rfl, ?_⟩, fun h => ⟨?_, ?_⟩, ?_⟩
  · exact SourceCRUD.store_scoped lower backend uuid name hread _ _
  · exact ProfileCRUD.nullFree_listTexts.1 (h.taken (o := .asStored) rfl)
  · exact ProfileCRUD.store_scoped lower server uuid name d _ _ (ProfileCRUD.nullFree_listTexts.2 h)
  · exact DisplayCRUD.store_scoped lower oc uuid name d _ _
  · obtain ⟨-, found, -, hfound, -⟩ := h.listed .asStored .asStored
    obtain ⟨p, -, hfound⟩ := bind_eq_ok.1 hfound
    obtain ⟨⟨⟩, htexts, -⟩ := bind_eq_ok.1 hfound
    exact takeTexts_ok.1 htexts
  · rintro ⟨rfl, term, rfl, hterm⟩
    exact PhonebookCRUD.not_store_scoped lower hterm h
  · rintro ⟨hsearch, h⟩
    refine PhonebookCRUD.store_scoped lower (fun htenants => ?_) hsearch
    rw [Option.filter_eq_none_iff]
    intro term hterm hne
    exact h ⟨htenants, term, hterm, by simpa using hne⟩

/-- A tenant with a phonebook, and a source on it. -/
def clientsDirectory : Directory where
  tenants := [{ uuid := "t" }]
  phonebooks := [{ id := 1, uuid := "p", name := "clients", tenantUuid := "t" }]
  sources := [{ uuid := "s", rawName := "r", tenantUuid := "t", backend := "phonebook"
                phonebookUuid := some "p" }]

/-- The law where the tenant is asked for, and a term of its phonebook. -/
theorem stores_scoped_clients :
    (PhonebookCRUD.store id).Scoped clientsDirectory (some ["t"]) (some "cli") ∧
    (SourceCRUD.store id none none none).Scoped clientsDirectory (some ["t"]) (some "cli") := by
  have hread : ∀ x ∈ clientsDirectory.sources,
      SourceCRUD.Readable clientsDirectory.toDatabase x := by
    intro x hx
    obtain rfl := List.mem_singleton.1 hx
    exact SourceCRUD.readable_iff.2 ⟨_, rfl⟩
  obtain ⟨hsources, -, -, hphonebooks⟩ :=
    stores_scoped_iff id hread (some ["t"]) (some "cli")
  exact ⟨hphonebooks.2 ⟨by decide, fun h => nomatch h.1⟩, (hsources none none none).2 (by decide)⟩

/-- The phonebook is listed in all tenants, and cannot be searched in all. -/
theorem not_scoped_clients :
    (PhonebookCRUD.store id).list .asStored clientsDirectory none none =
      .ok clientsDirectory.phonebooks ∧
    (PhonebookCRUD.store id).list .asStored clientsDirectory none (some "cli") =
      .error .argument ∧
    ¬ (PhonebookCRUD.store id).Scoped clientsDirectory none (some "cli") :=
  ⟨rfl, rfl, PhonebookCRUD.not_store_scoped id (by decide)⟩

end WazoDird
