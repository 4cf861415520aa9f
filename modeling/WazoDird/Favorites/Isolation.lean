import WazoDird.Common.Table
import WazoDird.Favorites.Model

/-!
# Favorites between tenants

The invariant `Isolated` says that every favorite is in a source of its
user's tenant, and that no source hangs on another tenant's phonebook.
Every operation that meets `SourceResolved` keeps it, and under it no
operation reaches the favorites of another tenant's users: a deleted
source or phonebook takes its own tenant's favorites with it and no
others. Without `SourceResolved` both fail, as the run at the end shows.
-/

namespace WazoDird

variable {owner : Uuid → Uuid} {db db' : Database} {a : Answers} {op : DirectoryOp}

/-- **Every favorite is within its user's tenant.** -/
structure Isolated (owner : Uuid → Uuid) (db : Database) : Prop where
  sources : (db.sources.map Source.uuid).Nodup
  phonebooks : (db.phonebooks.map Phonebook.uuid).Nodup
  phonebookInTenant : ∀ s ∈ db.sources, SourceCRUD.PhonebookInTenant db s
  favorites : ∀ f ∈ db.favorites, ∃ s ∈ db.sources,
    s.uuid = f.sourceUuid ∧ s.tenantUuid = owner f.userUuid

/-- What a step by a tenant leaves alone: the favorites of the users of
the others, while a favorite it adds is in one of the tenant's sources. -/
structure Confined (owner : Uuid → Uuid) (tenant : Uuid) (db db' : Database) : Prop where
  isolated : Isolated owner db'
  others : ∀ u, owner u ≠ tenant → favoritesOf db' u = favoritesOf db u
  added : ∀ f ∈ db'.favorites, f ∉ db.favorites →
    ∃ s ∈ db'.sources, s.uuid = f.sourceUuid ∧ s.tenantUuid = tenant

namespace Isolated

theorem empty (owner : Uuid → Uuid) : Isolated owner {} :=
  ⟨List.nodup_nil, List.nodup_nil, fun _ hs => absurd hs List.not_mem_nil,
    fun _ hf => absurd hf List.not_mem_nil⟩

/-- The invariant reads three tables. -/
theorem congr (h : Isolated owner db) (hs : db'.sources = db.sources)
    (hp : db'.phonebooks = db.phonebooks) (hf : db'.favorites = db.favorites) :
    Isolated owner db' := by
  refine ⟨hs ▸ h.sources, hp ▸ h.phonebooks, fun s hmem => ?_, fun f hmem => ?_⟩
  · have := h.phonebookInTenant s (hs ▸ hmem)
    simpa only [SourceCRUD.PhonebookInTenant, hp] using this
  · obtain ⟨s, hsm, hrest⟩ := h.favorites f (hf ▸ hmem)
    exact ⟨s, hs ▸ hsm, hrest⟩

end Isolated

/-! ## Tables that keep the favorites -/

/-- Favorites filtered on a condition that a user's meet: the user's stay. -/
theorem favoritesOf_filter {p : Favorite → Bool} {u : Uuid}
    (h : db'.favorites = db.favorites.filter p)
    (hp : ∀ f ∈ db.favorites, f.userUuid = u → p f = true) :
    favoritesOf db' u = favoritesOf db u := by
  unfold favoritesOf
  rw [h, List.filter_filter]
  congr 1
  refine List.filter_congr fun f hf => ?_
  by_cases hu : f.userUuid = u
  · simp [hu, hp f hf hu]
  · simp [hu]

/-- A step that adds no favorite and drops none of the other tenants'
users is confined, once it keeps the invariant. -/
theorem Confined.of_filter {tenant : Uuid} {p : Favorite → Bool} (hinv : Isolated owner db')
    (h : db'.favorites = db.favorites.filter p)
    (hp : ∀ f ∈ db.favorites, owner f.userUuid ≠ tenant → p f = true) :
    Confined owner tenant db db' := by
  refine ⟨hinv, fun u hu => favoritesOf_filter h fun f hf hfu => hp f hf (hfu ▸ hu), ?_⟩
  intro f hf hnew
  rw [h] at hf
  exact absurd (List.mem_of_mem_filter hf) hnew

/-- A step that leaves the favorites alone is confined, once it keeps the
invariant. -/
theorem Confined.of_eq {tenant : Uuid} (hinv : Isolated owner db')
    (h : db'.favorites = db.favorites) : Confined owner tenant db db' :=
  .of_filter (p := fun _ => true) hinv (by simp [h]) fun _ _ _ => rfl

/-! ## Sources -/

/-- A new source leaves every favorite where it is. -/
theorem confined_createSource (h : Isolated owner db) (t : Uuid) (backend : String)
    (body : SourceBody) :
    Confined owner t db (SourceCRUD.create db a.source backend t body).2 := by
  generalize hr : SourceCRUD.create db a.source backend t body = r
  obtain ⟨r, db'⟩ := r
  rcases SourceCRUD.create_cases hr with ⟨e, -, rfl⟩ | ⟨s, info, -, rfl, -, -, ht, -, hpt, hnew⟩
  · exact .of_eq h rfl
  · refine .of_eq ⟨?_, ?_, ?_, ?_⟩ (db.createTenant_favorites t)
    · exact keys_append h.sources hnew
    · simpa only [Database.createTenant_phonebooks] using h.phonebooks
    · intro s' hs'
      have hmem : s' ∈ db.sources ∨ s' = s := by simpa using hs'
      simp only [SourceCRUD.PhonebookInTenant, Database.createTenant_phonebooks]
      rcases hmem with hmem | rfl
      · exact h.phonebookInTenant s' hmem
      · exact hpt
    · intro f hf
      obtain ⟨s', hs', hrest⟩ := h.favorites f (db.createTenant_favorites t ▸ hf)
      exact ⟨s', List.mem_append_left _ hs', hrest⟩

/-- An edited source stays the source of its favorites. -/
theorem confined_editSource (h : Isolated owner db) (t : Uuid) (backend : String) (uuid : Uuid)
    (body : SourceBody) :
    Confined owner t db (SourceCRUD.edit a.lookup db backend uuid (some [t]) body).2 := by
  generalize hr : SourceCRUD.edit a.lookup db backend uuid (some [t]) body = r
  obtain ⟨r, db'⟩ := r
  rcases SourceCRUD.edit_cases hr with ⟨e, -, rfl⟩ | ⟨s, s', info, -, hs, -, hup, rfl, -⟩
  · exact .of_eq h rfl
  · obtain ⟨hid, hkeep⟩ := SourceCRUD.updateSource_ok hup
    have hpt := hkeep (h.phonebookInTenant s hs)
    refine .of_eq ⟨?_, h.phonebooks, ?_, ?_⟩ rfl
    · rw [keys_replace hid.uuid]
      exact h.sources
    · intro x hx
      obtain ⟨y, hy, rfl⟩ := List.mem_map.1 hx
      split
      · exact hpt
      · exact h.phonebookInTenant y hy
    · intro f hf
      obtain ⟨x, hx, hu, ht⟩ := h.favorites f hf
      refine ⟨_, List.mem_map_of_mem hx, ?_⟩
      by_cases hxs : x.uuid = s.uuid
      · obtain rfl := eq_of_key h.sources hx hs hxs
        simp [hid.uuid, hid.tenantUuid, hu, ht]
      · simp only [if_neg hxs]
        exact ⟨hu, ht⟩

/-- Dropping sources keeps the invariant: their favorites go too. -/
theorem Isolated.dropSources (h : Isolated owner db) (p : Source → Bool) :
    Isolated owner (SourceCRUD.dropSources db p) := by
  refine ⟨keys_filter h.sources _, h.phonebooks, ?_, ?_⟩
  · intro s hs
    exact h.phonebookInTenant s (List.mem_of_mem_filter hs)
  · intro f hf
    obtain ⟨hmem, hkept⟩ := SourceCRUD.mem_favorites_dropSources.1 hf
    obtain ⟨s, hs, hu, ht⟩ := h.favorites f hmem
    refine ⟨s, List.mem_filter.2 ⟨hs, ?_⟩, hu, ht⟩
    by_contra hp
    exact hkept s hs (by simpa using hp) hu

/-- Dropping sources of one tenant takes only favorites of its users. -/
theorem kept_of_dropSources (h : Isolated owner db) {t : Uuid} {p : Source → Bool}
    (hp : ∀ s ∈ db.sources, p s = true → s.tenantUuid = t) {f : Favorite} (hf : f ∈ db.favorites)
    (hu : owner f.userUuid ≠ t) :
    (!(db.sources.any fun s => p s && s.uuid = f.sourceUuid)) = true := by
  rw [Bool.not_eq_true', List.any_eq_false]
  intro s hs hps
  simp only [Bool.and_eq_true, decide_eq_true_eq] at hps
  obtain ⟨s', hs', hu', ht'⟩ := h.favorites f hf
  obtain rfl := eq_of_key h.sources hs hs' (hps.2.trans hu'.symm)
  exact hu (ht'.symm.trans (hp s hs hps.1))

/-- A deleted source takes favorites of its own tenant's users alone. -/
theorem confined_deleteSource (h : Isolated owner db) (t : Uuid) (backend : String)
    (uuid : Uuid) : Confined owner t db (SourceCRUD.delete db backend uuid (some [t])).2 := by
  rw [SourceCRUD.delete_eq]
  refine .of_filter (h.dropSources _) rfl fun f hf hu => ?_
  refine kept_of_dropSources h (fun s _ hs => ?_) hf hu
  have hten := (SourceCRUD.multiTenantFilter_eq_true.1 hs).2.2
  simpa using hten

/-! ## Phonebooks -/

/-- A new phonebook leaves every favorite where it is. -/
theorem confined_createPhonebook (h : Isolated owner db) (t : Uuid) (body : PhonebookBody) :
    Confined owner t db (PhonebookCRUD.create db a.phonebook t body).2 := by
  generalize hr : PhonebookCRUD.create db a.phonebook t body = r
  obtain ⟨r, db'⟩ := r
  rcases PhonebookCRUD.create_cases hr with ⟨e, -, rfl⟩ | ⟨p, -, rfl, -, ht, hnew⟩
  · exact .of_eq h rfl
  · refine .of_eq ⟨?_, ?_, ?_, ?_⟩ (db.createTenant_favorites t)
    · simpa only [Database.createTenant_sources] using h.sources
    · exact keys_append h.phonebooks hnew
    · intro s hs uuid hpb
      obtain ⟨q, hq, hrest⟩ := h.phonebookInTenant s (db.createTenant_sources t ▸ hs) uuid hpb
      exact ⟨q, List.mem_append_left _ hq, hrest⟩
    · intro f hf
      obtain ⟨s, hs, hrest⟩ := h.favorites f (db.createTenant_favorites t ▸ hf)
      exact ⟨s, by simpa only [Database.createTenant_sources] using hs, hrest⟩

/-- An edited phonebook stays the phonebook of its sources. -/
theorem confined_editPhonebook (h : Isolated owner db) (t : Uuid) (key : PhonebookKey)
    (body : PhonebookBody) :
    Confined owner t db (PhonebookCRUD.edit db (some [t]) key body).2 := by
  generalize hr : PhonebookCRUD.edit db (some [t]) key body = r
  obtain ⟨r, db'⟩ := r
  rcases PhonebookCRUD.edit_cases hr with ⟨e, -, rfl⟩ | ⟨p, hp, p', -, -, -, hp', rfl⟩
  · exact .of_eq h rfl
  · have hu : p'.uuid = p.uuid := by rw [hp']
    have ht : p'.tenantUuid = p.tenantUuid := by rw [hp']
    refine .of_eq ⟨h.sources, ?_, ?_, h.favorites⟩ rfl
    · rw [keys_replace hu]
      exact h.phonebooks
    · intro s hs uuid hpb
      obtain ⟨q, hq, hqu, hqt⟩ := h.phonebookInTenant s hs uuid hpb
      refine ⟨_, List.mem_map_of_mem hq, ?_⟩
      by_cases hqp : q.uuid = p.uuid
      · obtain rfl := eq_of_key h.phonebooks hq hp hqp
        simp [hu, ht, hqu, hqt]
      · simp only [if_neg hqp]
        exact ⟨hqu, hqt⟩

/-- A deleted phonebook takes its sources, and so favorites of its own
tenant's users alone. -/
theorem confined_deletePhonebook (h : Isolated owner db) (t : Uuid) (key : PhonebookKey) :
    Confined owner t db (PhonebookCRUD.delete db (some [t]) key).2 := by
  generalize hr : PhonebookCRUD.delete db (some [t]) key = r
  obtain ⟨r, db'⟩ := r
  rcases PhonebookCRUD.delete_cases hr with ⟨e, -, rfl⟩ | ⟨p, hp, -, ht, -, rfl⟩
  · exact .of_eq h rfl
  · have hdrop := h.dropSources fun s => s.phonebookUuid.elim false fun uuid =>
      db.phonebooks.any fun b => b.uuid = p.uuid && b.uuid = uuid
    refine .of_filter ⟨hdrop.sources, ?_, ?_, hdrop.favorites⟩ rfl
      fun f hf hu => kept_of_dropSources h ?_ hf hu
    · exact keys_filter h.phonebooks _
    · intro s hs uuid hpb
      obtain ⟨hmem, hkept⟩ := List.mem_filter.1 hs
      obtain ⟨q, hq, hqu, hqt⟩ := h.phonebookInTenant s hmem uuid hpb
      refine ⟨q, List.mem_filter.2 ⟨hq, ?_⟩, hqu, hqt⟩
      -- the phonebook of a source that stays is not the deleted one
      by_contra hqp
      have hgone : (db.phonebooks.any fun b => b.uuid = p.uuid && b.uuid = uuid) = true :=
        List.any_eq_true.2 ⟨q, hq, by simpa [hqu] using hqp⟩
      simp only [hpb, Option.elim_some, hgone] at hkept
      cases hkept
    · intro s hs hgone
      cases hpb : s.phonebookUuid with
      | none => simp [hpb] at hgone
      | some uuid =>
        simp only [hpb, Option.elim_some, List.any_eq_true, Bool.and_eq_true,
          decide_eq_true_eq] at hgone
        obtain ⟨b, hb, hbp, hbu⟩ := hgone
        obtain ⟨q, hq, hqu, hqt⟩ := h.phonebookInTenant s hs uuid hpb
        obtain rfl := eq_of_key h.phonebooks hb hp hbp
        obtain rfl := eq_of_key h.phonebooks hb hq (hbu.trans hqu.symm)
        exact hqt.symm.trans (by simpa using ht)

/-! ## Favorites -/

/-- A favorite in a source of its user's tenant keeps the others' as they
are. -/
theorem confined_create (h : Isolated owner db) {t u : Uuid} {backend name contact : String}
    (hu : owner u = t)
    (hres : ∀ s ∈ db.sources, db.sourceName s = some name → s.backend = backend →
      s.tenantUuid = t) :
    Confined owner t db (FavoriteCRUD.create a.lookup db u t backend name contact).2 := by
  generalize hr : FavoriteCRUD.create a.lookup db u t backend name contact = r
  obtain ⟨r, db'⟩ := r
  rcases FavoriteCRUD.create_cases hr with ⟨e, -, rfl⟩ | ⟨s, f, -, hs, hf, rfl⟩
  · exact .of_eq h rfl
  · obtain ⟨hmem, hname, hbk⟩ := FavoriteCRUD.getSource_eq_some hs
    have hten := hres s hmem hname hbk
    obtain ⟨hsources, hphonebooks, -⟩ := FavoriteCRUD.getDirdUser_tables db t u
    refine ⟨⟨?_, ?_, ?_, ?_⟩, ?_, ?_⟩
    · simpa only [hsources] using h.sources
    · simpa only [hphonebooks] using h.phonebooks
    · intro s' hs'
      have := h.phonebookInTenant s' (hsources ▸ hs')
      simpa only [SourceCRUD.PhonebookInTenant, hphonebooks] using this
    · intro g hg
      have hg : g ∈ db.favorites ∨ g = f := by simpa using hg
      simp only [hsources]
      rcases hg with hg | rfl
      · exact h.favorites g hg
      · exact ⟨s, hmem, by rw [hf], by rw [hf, hten, hu]⟩
    · intro v hv
      have hne : u ≠ v := fun huv => hv (huv ▸ hu)
      simp [favoritesOf, List.filter_append, hf, hne]
    · intro g hg hnew
      have hg : g ∈ db.favorites ∨ g = f := by simpa using hg
      obtain rfl := hg.resolve_left hnew
      simp only [hsources]
      exact ⟨s, hmem, by rw [hf], hten⟩

/-- The source the service finds is one of the tenant's, of the name
asked for. -/
theorem matchingSource_ok {t : Uuid} {name : String} {info : SourceInfo}
    (h : FavoritesService.matchingSource a db t name = .ok info) :
    ∃ s ∈ db.sources, s.tenantUuid = t ∧ db.sourceName s = some name ∧
      s.backend = info.backend := by
  obtain ⟨infos, hlist, h⟩ := bind_eq_ok.1 h
  split at h
  · cases h
  · next found hfound =>
    cases h
    obtain ⟨s, hs, hten, hinfo⟩ := SourceCRUD.mem_list hlist (List.mem_of_find?_eq_some hfound)
    obtain ⟨-, hbk, -, hname⟩ := SourceCRUD.fromDbFormat_ok hinfo
    have hfn : info.name = name := by simpa using List.find?_some hfound
    exact ⟨s, hs, by simpa using hten, hfn ▸ hname, hbk.symm⟩

/-- **A new favorite is in one of the tenant's sources**, when the lookup
has no other tenant's to take. -/
theorem confined_newFavorite (h : Isolated owner db) {t u : Uuid} {name contact : String}
    (hu : owner u = t) (hres : SourceResolved db (.newFavorite t name contact u)) :
    Confined owner t db (FavoritesService.newFavorite a none db t name contact u).2 := by
  unfold FavoritesService.newFavorite
  cases hm : FavoritesService.matchingSource a db t name with
  | error e => exact .of_eq h rfl
  | ok info =>
    obtain ⟨own, hown, hten, hname, hbk⟩ := matchingSource_ok hm
    have hcreate : Confined owner t db
        (FavoriteCRUD.create a.lookup db u t info.backend name contact).2 :=
      confined_create h hu fun s hs hsn hsb =>
        hres own hown hten hname s hs hsn (hsb.trans hbk.symm)
    dsimp only
    generalize FavoriteCRUD.create a.lookup db u t info.backend name contact = r at hcreate
    obtain ⟨_ | _, db'⟩ := r <;> exact hcreate

/-- A removed favorite is the user's own. -/
theorem confined_removeFavorite (h : Isolated owner db) {t u : Uuid} {name contact : String}
    (hu : owner u = t) :
    Confined owner t db (FavoritesService.removeFavorite a none db t name contact u).2 := by
  have hdelete : Confined owner t db (FavoriteCRUD.delete db u name contact).2 := by
    refine .of_filter (p := fun f => !FavoriteCRUD.deleteFilter db u name contact f)
      ⟨h.sources, h.phonebooks, h.phonebookInTenant, fun f hf => ?_⟩ rfl fun f _ hne => ?_
    · exact h.favorites f (FavoriteCRUD.mem_favorites_delete.1 hf).1
    · rw [Bool.not_eq_true', Bool.eq_false_iff]
      intro hdel
      exact hne ((FavoriteCRUD.userUuid_of_deleteFilter hdel) ▸ hu)
  unfold FavoritesService.removeFavorite
  cases FavoritesService.matchingSource a db t name with
  | error e => exact .of_eq h rfl
  | ok info =>
    dsimp only
    generalize FavoriteCRUD.delete db u name contact = r at hdelete
    obtain ⟨_ | _, db'⟩ := r <;> exact hdelete

/-! ## Every operation, and every run -/

/-- **One operation stays within its tenant.** -/
theorem confined_step (h : Isolated owner db)
    (hstep : Guarded SourceResolved (DirectoryStep owner) db op db') :
    Confined owner op.tenant db db' := by
  obtain ⟨hres, huser, a, rfl⟩ := hstep
  cases op with
  | createSource t backend body => exact confined_createSource h t backend body
  | editSource t backend uuid body => exact confined_editSource h t backend uuid body
  | deleteSource t backend uuid => exact confined_deleteSource h t backend uuid
  | createPhonebook t body => exact confined_createPhonebook h t body
  | editPhonebook t key body => exact confined_editPhonebook h t key body
  | deletePhonebook t key => exact confined_deletePhonebook h t key
  | createFavorite t backend name contact u => exact confined_create h (huser u rfl) hres
  | newFavorite t name contact u => exact confined_newFavorite h (huser u rfl) hres
  | removeFavorite t name contact u => exact confined_removeFavorite h (huser u rfl)

/-- Every state such operations reach is isolated. -/
theorem isolated_of_run {ops : List DirectoryOp}
    (h : Run (Guarded SourceResolved (DirectoryStep owner)) {} ops db) : Isolated owner db :=
  h.invariant (Isolated.empty owner) fun hi hs => (confined_step hi hs).isolated

/-- **Favorites are isolated between tenants**, along every run whose new
favorites are resolved among the tenant's own sources: an operation on
behalf of one tenant changes no favorite of another tenant's user, and a
favorite it adds is in a source of its tenant. -/
theorem favorites_isolated {ops : List DirectoryOp}
    (hrun : Run (Guarded SourceResolved (DirectoryStep owner)) {} ops db)
    (hstep : Guarded SourceResolved (DirectoryStep owner) db op db') :
    (∀ u, owner u ≠ op.tenant → favoritesOf db' u = favoritesOf db u) ∧
    ∀ f ∈ db'.favorites, f ∉ db.favorites →
      ∃ s ∈ db'.sources, s.uuid = f.sourceUuid ∧ s.tenantUuid = op.tenant :=
  have h := confined_step (isolated_of_run hrun) hstep
  ⟨h.others, h.added⟩

/-! ## A name two tenants share -/

/-- A server that returns the newest row first. -/
def newestFirst : Answers where
  lower := id
  listed := .newestFirst
  lookup := .newestFirst
  source := ⟨"default", "default"⟩
  phonebook := ⟨"default", 1⟩

/-- Two tenants, each with one user: `alice` is the first one's. -/
def twoTenants (userUuid : Uuid) : Uuid := if userUuid = "alice" then "a" else "b"

/-- A source named by its uuid and its name. -/
def namedSource (uuid name : String) : SourceBody := { uuid := some uuid, name := some name }

/-- The favorite of a user of `a` stays as it is when `b` deletes a
source of its own, of another name. -/
theorem favorites_isolated_alice : ∃ ops db db',
    Run (Guarded SourceResolved (DirectoryStep twoTenants)) {} ops db ∧
    favoritesOf db "alice" = [("sa", "c1")] ∧
    DirectoryStep twoTenants db (.deleteSource "b" "csv" "sb") db' ∧
    favoritesOf db' "alice" = [("sa", "c1")] := by
  have hfirst : Guarded SourceResolved (DirectoryStep twoTenants) {}
      (.createSource "a" "csv" (namedSource "sa" "dir")) _ :=
    ⟨by decide, by decide, newestFirst, rfl⟩
  have hrun := Run.cons hfirst <| Run.cons (a := .createSource "b" "csv" (namedSource "sb" "other"))
    ⟨by decide, by decide, newestFirst, rfl⟩ <|
    Run.single (a := .newFavorite "a" "dir" "c1" "alice")
    ⟨by decide, by decide, newestFirst, rfl⟩
  have hstep := @favorites_isolated _ _ _ (.deleteSource "b" "csv" "sb") _ hrun
    ⟨trivial, by decide, newestFirst, rfl⟩
  exact ⟨_, _, _, hrun, by decide, ⟨by decide, newestFirst, rfl⟩,
    (hstep.1 "alice" (by decide)).trans (by decide)⟩

/-- **With a shared name the tenants are not isolated**: `alice`, of the
tenant `a`, marks a contact of `a`'s source `dir` and is given a favorite
in `b`'s, which is gone once `b` deletes its source. -/
theorem favorites_not_isolated : ∃ ops db db',
    Run (DirectoryStep twoTenants) {}
      (ops ++ [.newFavorite "a" "dir" "c1" "alice"]) db ∧
    (∃ s ∈ db.sources, s.uuid = "sb" ∧ s.tenantUuid = "b") ∧
    favoritesOf db "alice" = [("sb", "c1")] ∧
    DirectoryStep twoTenants db (.deleteSource "b" "csv" "sb") db' ∧
    favoritesOf db' "alice" = [] := by
  have hfirst : DirectoryStep twoTenants {}
      (.createSource "a" "csv" (namedSource "sa" "dir")) _ := ⟨by decide, newestFirst, rfl⟩
  have hrun := Run.cons hfirst <| Run.cons (a := .createSource "b" "csv" (namedSource "sb" "dir"))
    ⟨by decide, newestFirst, rfl⟩ <|
    Run.single (a := .newFavorite "a" "dir" "c1" "alice")
    ⟨by decide, newestFirst, rfl⟩
  exact ⟨[_, _], _, _, hrun, by decide, by decide, ⟨by decide, newestFirst, rfl⟩, by decide⟩

end WazoDird
