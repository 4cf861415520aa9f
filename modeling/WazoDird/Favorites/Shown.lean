import WazoDird.Favorites.Ids
import WazoDird.Favorites.Model
import WazoDird.SourceManager.Model

/-!
# The favorite flag shown, and the one stored

A favorite is stored under the uuid of its source. It is shown by a name:
a result carries the name its source's plugin was loaded with, and
`favorite_ids` keeps the ids of a profile's favorites under the names its
sources have now. `Misread` lists what the detour costs: a name that
changed in between, a name several sources have, an id that counts as
none, and a personal column written over the flag.
-/

namespace WazoDird

open FavoritesService ResultFormatter

variable {owner : Uuid → Uuid} {db db' : Database} {op : DirectoryOp} {profile : ProfileConfig}
  {u : Uuid} {x : Source} {result : ViewResult} {column : DisplayColumn}
  {o : RowOrder (String × String)} {name id : String}

/-- A profile read from a database: its favorites sources are rows, under
the names these have. -/
def ProfileRead (db : Database) (profile : ProfileConfig) : Prop :=
  ∀ s ∈ favoritesSources profile, ∃ x ∈ db.sources, x.uuid = s.uuid ∧
    db.sourceName x = some s.name

/-- The columns of a profile's display. -/
def ProfileConfig.columns (profile : ProfileConfig) : List DisplayColumn := profile.display.getD []

/-- A source is among the favorites sources of a profile. -/
def IsFavoritesSource (profile : ProfileConfig) (x : Source) : Prop :=
  ∃ s ∈ favoritesSources profile, s.uuid = x.uuid

/-- **The favorite stored**: the source is one of the profile's favorites
sources, and a row holds it, the contact and the user. -/
def FavoriteStored (db : Database) (profile : ProfileConfig) (u : Uuid) (x : Source)
    (result : ViewResult) : Prop :=
  IsFavoritesSource profile x ∧ ∃ id, result.relations.sourceEntryId = some id ∧
    { sourceUuid := x.uuid, contactId := id, userUuid := u } ∈ db.favorites

/-- **The favorite shown**: the favorite column of the formatted result is
true. -/
def FavoriteShown (o : RowOrder (String × String)) (db : Database) (profile : ProfileConfig)
    (u : Uuid) (result : ViewResult) : Prop :=
  let formatted := formatResult profile.columns (favoriteIds o db profile (some u)).byName result
  formatted.columnValues[profile.columns.findIdx (·.type = some "favorite")]? = some (.bool true)

/-- A name joins a contact to a user's favorites: among the sources it now
names, one is a favorites source of the profile, and one has the contact
as a favorite of the user. -/
def NameJoins (db : Database) (profile : ProfileConfig) (u : Uuid) (name id : String) : Prop :=
  (∃ x ∈ db.sources, db.sourceName x = some name ∧ IsFavoritesSource profile x) ∧
  ∃ x ∈ db.sources, db.sourceName x = some name ∧
    { sourceUuid := x.uuid, contactId := id, userUuid := u } ∈ db.favorites

/-- **What misreads a favorite.** -/
inductive Misread (db : Database) (profile : ProfileConfig) (u : Uuid) (x : Source)
    (result : ViewResult) (column : DisplayColumn) : Prop
  /-- A personal column has the same field, and its flag is another. -/
  | overwritten (hfield : column.field ∈ personalFields profile.columns)
      (hflag : ¬ (result.isPersonal = true ↔ FavoriteStored db profile u x result))
  /-- The id of the favorite is the empty text, which counts as none. -/
  | emptyId (hfield : column.field ∉ personalFields profile.columns)
      (hstored : FavoriteStored db profile u x result)
      (hid : result.relations.sourceEntryId = some "")
  /-- The favorite's source is no longer called what the result says, and
  no other source makes up for it. -/
  | renamed (hfield : column.field ∉ personalFields profile.columns)
      (hstored : FavoriteStored db profile u x result)
      (hname : db.sourceName x ≠ some result.source)
      (hjoin : ∀ id, result.relations.sourceEntryId = some id →
        ¬ NameJoins db profile u result.source id)
  /-- There is no such favorite, but the name the result says joins the
  contact to one of another source. -/
  | shared (id : String) (hfield : column.field ∉ personalFields profile.columns)
      (hstored : ¬ FavoriteStored db profile u x result)
      (hid : result.relations.sourceEntryId = some id) (hne : id ≠ "")
      (hjoin : NameJoins db profile u result.source id)

/-! ## The keys of the sources -/

theorem FavoriteCRUD.create_sources {o : RowOrder Source} {u t : Uuid} {backend contact : String} :
    (FavoriteCRUD.create o db u t backend name contact).2.sources = db.sources := by
  generalize hr : FavoriteCRUD.create o db u t backend name contact = r
  obtain ⟨r, db'⟩ := r
  rcases FavoriteCRUD.create_cases hr with ⟨e, -, rfl⟩ | ⟨s, f, -, -, -, rfl⟩
  · rfl
  · exact (FavoriteCRUD.getDirdUser_tables db t u).1

/-- Neither favorites operation writes a source. -/
theorem newFavorite_sources {a : Answers} {t : Uuid} {contact : String} :
    (newFavorite a none db t name contact u).2.sources = db.sources := by
  unfold newFavorite
  split
  · rfl
  · next info _ =>
    have hcreate : (FavoriteCRUD.create a.lookup db u t info.backend name contact).2.sources =
        db.sources := FavoriteCRUD.create_sources
    split
    · next h => rw [h] at hcreate; exact hcreate
    · next h => rw [h] at hcreate; exact hcreate

theorem removeFavorite_sources {a : Answers} {t : Uuid} {contact : String} :
    (removeFavorite a none db t name contact u).2.sources = db.sources := by
  unfold removeFavorite
  split
  · rfl
  · split
    · next h => exact (Prod.mk.inj h).2 ▸ rfl
    · next h => exact (Prod.mk.inj h).2 ▸ rfl

/-- **Every operation keeps the keys of the sources keys.** -/
theorem sourceUuids_step (h : db.sourceUuids.Nodup) (hstep : DirectoryStep owner db op db') :
    db'.sourceUuids.Nodup := by
  obtain ⟨-, a, rfl⟩ := hstep
  have same : ∀ {d : Database}, d.sources = db.sources → d.sourceUuids.Nodup := by
    intro d hd
    rwa [Database.sourceUuids, hd]
  cases op with
  | createSource t backend body =>
    dsimp only [DirectoryOp.exec]
    generalize hr : SourceCRUD.create db a.source backend t body = r
    obtain ⟨r, db'⟩ := r
    rcases SourceCRUD.create_cases hr with ⟨e, -, rfl⟩ | ⟨s, info, -, rfl, -, -, -, -, -, hnew⟩
    · exact h
    · exact keys_append h hnew
  | editSource t backend uuid body =>
    dsimp only [DirectoryOp.exec]
    generalize hr : SourceCRUD.edit a.lookup db backend uuid (some [t]) body = r
    obtain ⟨r, db'⟩ := r
    cases r with
    | error e =>
      rcases SourceCRUD.edit_cases hr with ⟨e, -, rfl⟩ | ⟨s, s', info, hok, -⟩
      · exact h
      · cases hok
    | ok info => exact (SourceCRUD.edit_stored hr).2.1 ▸ h
  | deleteSource t backend uuid => exact keys_filter h _
  | createPhonebook t body =>
    dsimp only [DirectoryOp.exec]
    generalize hr : PhonebookCRUD.create db a.phonebook t body = r
    obtain ⟨r, db'⟩ := r
    rcases PhonebookCRUD.create_cases hr with ⟨e, -, rfl⟩ | ⟨p, -, rfl, -⟩
    · exact h
    · exact same (db.createTenant_sources t)
  | editPhonebook t key body =>
    dsimp only [DirectoryOp.exec]
    generalize hr : PhonebookCRUD.edit db (some [t]) key body = r
    obtain ⟨r, db'⟩ := r
    rcases PhonebookCRUD.edit_cases hr with ⟨e, -, rfl⟩ | ⟨p, -, p', -, -, -, -, rfl⟩
    · exact h
    · exact same rfl
  | deletePhonebook t key =>
    dsimp only [DirectoryOp.exec]
    generalize hr : PhonebookCRUD.delete db (some [t]) key = r
    obtain ⟨r, db'⟩ := r
    rcases PhonebookCRUD.delete_cases hr with ⟨e, -, rfl⟩ | ⟨p, -, -, -, -, rfl⟩
    · exact h
    · exact keys_filter h _
  | createFavorite t backend name contact u => exact same FavoriteCRUD.create_sources
  | newFavorite t name contact u => exact same newFavorite_sources
  | removeFavorite t name contact u => exact same removeFavorite_sources

theorem sourceUuids_of_run {ops : List DirectoryOp} (h : Run (DirectoryStep owner) {} ops db) :
    db.sourceUuids.Nodup :=
  h.invariant List.nodup_nil fun hi hs => sourceUuids_step hi hs

/-! ## What a name joins -/

/-- The favorites sources of a profile that was read, by their names. -/
theorem favoritesSource_named (hkeyed : db.sourceUuids.Nodup) (hread : ProfileRead db profile) :
    (∃ s ∈ favoritesSources profile, s.name = name) ↔
      ∃ x ∈ db.sources, db.sourceName x = some name ∧ IsFavoritesSource profile x := by
  constructor
  · rintro ⟨s, hs, rfl⟩
    obtain ⟨x, hx, hxu, hxn⟩ := hread s hs
    exact ⟨x, hx, hxn, s, hs, hxu.symm⟩
  · rintro ⟨x, hx, hxn, s, hs, hsu⟩
    obtain ⟨y, hy, hyu, hyn⟩ := hread s hs
    obtain rfl := eq_of_key hkeyed hx hy (hsu.symm.trans hyu.symm)
    exact ⟨s, hs, Option.some.inj (hyn.symm.trans hxn)⟩

/-- A contact is shown as a favorite when its id is not empty and the name
of its result joins it to one. -/
theorem isFavorite_iff_joins (hkeyed : db.sourceUuids.Nodup) (hread : ProfileRead db profile) :
    isFavorite (favoriteIds o db profile (some u)).byName result.toSourceResult = true ↔
      ∃ id, result.relations.sourceEntryId = some id ∧ id ≠ "" ∧
        NameJoins db profile u result.source id := by
  have hjoins : ∀ id, NameJoins db profile u result.source id ↔
      ∃ ids, (favoriteIds o db profile (some u)).byName.get? result.source = some ids ∧
        id ∈ ids := by
    intro id
    rw [mem_byName, favoritesSource_named hkeyed hread, FavoriteCRUD.mem_get, NameJoins, and_comm]
    refine and_congr_left fun _ => ?_
    constructor
    · rintro ⟨x, hx, hxn, hf⟩
      exact ⟨_, hf, rfl, rfl, x, hx, rfl, hxn⟩
    · rintro ⟨f, hf, rfl, rfl, x, hx, hxf, hxn⟩
      exact ⟨x, hx, hxn, hxf ▸ hf⟩
  rw [isFavorite_iff]
  constructor
  · rintro ⟨ids, id, hids, hid, hne, hmem⟩
    exact ⟨id, hid, hne, (hjoins id).2 ⟨ids, hids, hmem⟩⟩
  · rintro ⟨id, hid, hne, hjoin⟩
    obtain ⟨ids, hids, hmem⟩ := (hjoins id).1 hjoin
    exact ⟨ids, id, hids, hid, hne, hmem⟩

/-- **What the favorite column shows.** -/
theorem favoriteShown_iff (hkeyed : db.sourceUuids.Nodup) (hread : ProfileRead db profile)
    (hcolumn : profile.columns.find? (·.type = some "favorite") = some column) :
    FavoriteShown o db profile u result ↔
      if column.field ∈ personalFields profile.columns then result.isPersonal = true
      else ∃ id, result.relations.sourceEntryId = some id ∧ id ≠ "" ∧
        NameJoins db profile u result.source id := by
  rw [List.find?_eq_getElem?_findIdx] at hcolumn
  rw [FavoriteShown, formatResult, List.getElem?_map, hcolumn, Option.map_some,
    cell_favorite (List.find?_eq_getElem?_findIdx.trans hcolumn), Option.some.injEq]
  split
  · rw [Value.bool.injEq]
  · rw [Value.bool.injEq, isFavorite_iff_joins hkeyed hread]

/-- A favorite stored is joined by the name its source has. -/
theorem joins_of_stored (hx : x ∈ db.sources) (hname : db.sourceName x = some result.source)
    (hstored : FavoriteStored db profile u x result) :
    ∃ id, result.relations.sourceEntryId = some id ∧ NameJoins db profile u result.source id := by
  obtain ⟨hsource, id, hid, hf⟩ := hstored
  exact ⟨id, hid, ⟨x, hx, hname, hsource⟩, x, hx, hname, hf⟩

/-- **The favorite shown is the favorite stored, exactly when nothing
misreads it**, in every database that operations reach, for every result
of a source, under whatever name its plugin was loaded with. -/
theorem shown_iff_stored_iff {ops : List DirectoryOp} (hrun : Run (DirectoryStep owner) {} ops db)
    (hread : ProfileRead db profile) (hx : x ∈ db.sources)
    (hcolumn : profile.columns.find? (·.type = some "favorite") = some column) :
    (FavoriteShown o db profile u result ↔ FavoriteStored db profile u x result) ↔
      ¬ Misread db profile u x result column := by
  rw [favoriteShown_iff (sourceUuids_of_run hrun) hread hcolumn]
  by_cases hfield : column.field ∈ personalFields profile.columns
  · rw [if_pos hfield]
    constructor
    · rintro hflag (⟨-, hne⟩ | ⟨hno, -⟩ | ⟨hno, -⟩ | ⟨id, hno, -⟩)
      · exact hne hflag
      · exact hno hfield
      · exact hno hfield
      · exact hno hfield
    · intro hmis
      by_contra hflag
      exact hmis (.overwritten hfield hflag)
  · rw [if_neg hfield]
    constructor
    · rintro hflag (⟨hyes, -⟩ | ⟨-, hstored, hid⟩ | ⟨-, hstored, -, hjoin⟩ |
        ⟨id, -, hno, hid, hne, hjoin⟩)
      · exact hfield hyes
      · obtain ⟨id, hid', hne, -⟩ := hflag.2 hstored
        exact hne (Option.some.inj (hid'.symm.trans hid))
      · obtain ⟨id, hid, -, hjoins⟩ := hflag.2 hstored
        exact hjoin id hid hjoins
      · exact hno (hflag.1 ⟨id, hid, hne, hjoin⟩)
    · intro hmis
      constructor
      · rintro ⟨id, hid, hne, hjoin⟩
        by_contra hno
        exact hmis (.shared id hfield hno hid hne hjoin)
      · intro hstored
        -- the name joins the favorite, its source's own or another's
        obtain ⟨id, hid, hjoin⟩ : ∃ id, result.relations.sourceEntryId = some id ∧
            NameJoins db profile u result.source id := by
          by_contra hnone
          have hname : db.sourceName x ≠ some result.source := fun hname =>
            hnone (joins_of_stored hx hname hstored)
          exact hmis (.renamed hfield hstored hname fun id hid hjoin => hnone ⟨id, hid, hjoin⟩)
        refine ⟨id, hid, ?_, hjoin⟩
        rintro rfl
        exact hmis (.emptyId hfield hstored hid)

/-- A source whose plugin has the name it has now, which no other source
has, is read right: neither another source nor a rename is in the way. -/
theorem shown_of_named {ops : List DirectoryOp} (hrun : Run (DirectoryStep owner) {} ops db)
    (hread : ProfileRead db profile) (hx : x ∈ db.sources)
    (hcolumn : profile.columns.find? (·.type = some "favorite") = some column)
    (hfield : column.field ∉ personalFields profile.columns)
    (hname : db.sourceName x = some result.source)
    (honly : ∀ y ∈ db.sources, db.sourceName y = some result.source → y.uuid = x.uuid)
    (hid : result.relations.sourceEntryId ≠ some "") :
    FavoriteShown o db profile u result ↔ FavoriteStored db profile u x result := by
  rw [shown_iff_stored_iff hrun hread hx hcolumn]
  rintro (⟨hyes, -⟩ | ⟨-, -, hempty⟩ | ⟨-, -, hother, -⟩ | ⟨id, -, hno, hid', -, hjoin⟩)
  · exact hfield hyes
  · exact hid hempty
  · exact hother hname
  · obtain ⟨⟨y, hy, hyn, s, hs, hsu⟩, z, hz, hzn, hf⟩ := hjoin
    rw [honly z hz hzn] at hf
    exact hno ⟨⟨s, hs, hsu.trans (honly y hy hyn)⟩, id, hid', hf⟩

/-! ## A phonebook renamed -/

/-- A server that returns rows as stored. -/
def plainAnswers : Answers where
  lower s := s
  listed := .asStored
  lookup := .asStored
  source := ⟨"default", "default"⟩
  phonebook := ⟨"p", 1⟩

/-- A contact, as the plugin of its source returns it. -/
def resultOf (p : Plugin) (id : String) : ViewResult where
  source := p.name
  backend := p.config.backend
  fields := ∅
  relations := { sourceEntryId := some id }

/-- A profile with one favorites source, under a name. -/
def profileOf (name : String) : ProfileConfig where
  name := "default"
  display := some [{ type := some "favorite", field := some "favorite" }]
  services := Dict.ofList [("favorites", [⟨"s", "phonebook", name, "t"⟩])]

/-- A phonebook source with a favorite. -/
def favoriteMarked : List DirectoryOp :=
  [.createPhonebook "t" { name := "clients" },
    .createSource "t" "phonebook" { uuid := some "s", phonebookUuid := some "p" },
    .newFavorite "t" "clients" "c" "alice"]

/-- What these leave. -/
def markedDb : Database := favoriteMarked.foldl (DirectoryOp.exec plainAnswers) {}

/-- The phonebook source, once its phonebook is renamed. -/
def renamedDb : Database :=
  DirectoryOp.exec plainAnswers markedDb (.editPhonebook "t" (.uuid "p") { name := "customers" })

/-- The phonebook source, whichever its phonebook's name. -/
def clientsSource : Source where
  uuid := "s"
  rawName := "default"
  tenantUuid := "t"
  backend := "phonebook"
  phonebookUuid := some "p"

/-- Its plugin, loaded before. -/
def clientsPlugin : Plugin where
  config :=
    { uuid := "s", backend := "phonebook", name := "clients", tenantUuid := "t"
      phonebookUuid := some "p", phonebookName := some "clients" }
  readAt := 0

theorem run_marked : Run (DirectoryStep fun _ => "t") {} favoriteMarked markedDb :=
  Run.cons ⟨by decide, plainAnswers, rfl⟩ <| Run.cons ⟨by decide, plainAnswers, rfl⟩ <|
    Run.single ⟨by decide, plainAnswers, rfl⟩

/-- A contact marked is shown so, as long as its source keeps its name. -/
theorem shown_iff_stored_iff_marked :
    FavoriteShown .asStored markedDb (profileOf "clients") "alice" (resultOf clientsPlugin "c") ∧
    FavoriteStored markedDb (profileOf "clients") "alice" clientsSource
      (resultOf clientsPlugin "c") := by
  have hread : ProfileRead markedDb (profileOf "clients") := by unfold ProfileRead; decide
  have hx : clientsSource ∈ markedDb.sources := by decide
  have hstored : FavoriteStored markedDb (profileOf "clients") "alice" clientsSource
      (resultOf clientsPlugin "c") := ⟨⟨_, List.mem_singleton_self _, rfl⟩, "c", rfl, by decide⟩
  refine ⟨?_, hstored⟩
  refine ((shown_iff_stored_iff run_marked hread hx rfl).2 ?_).2 hstored
  rintro (⟨hyes, -⟩ | ⟨-, -, hempty⟩ | ⟨-, -, hother, -⟩ | ⟨id, -, hno, -⟩)
  · revert hyes
    decide
  · exact absurd hempty (by decide)
  · exact hother rfl
  · exact hno hstored

/-- **Once the phonebook is renamed the favorite is not shown**: the
source manager still answers with the plugin it loaded before, whose
results carry the old name, while the stored favorite is read under the
new one. -/
theorem not_shown_renamed : ∃ cache,
    Run (DirectoryStep fun _ => "t") {} favoriteMarked markedDb ∧
    SourceManager.get (fun _ => true) false 0 .asStored markedDb ∅ "s" =
      (.ok (some clientsPlugin), cache) ∧
    DirectoryStep (fun _ => "t") markedDb
      (.editPhonebook "t" (.uuid "p") { name := "customers" }) renamedDb ∧
    SourceManager.get (fun _ => true) false 0 .asStored renamedDb cache "s" =
      (.ok (some clientsPlugin), cache) ∧
    ProfileRead renamedDb (profileOf "customers") ∧
    clientsSource ∈ renamedDb.sources ∧
    FavoriteStored renamedDb (profileOf "customers") "alice" clientsSource
      (resultOf clientsPlugin "c") ∧
    ¬ FavoriteShown .asStored renamedDb (profileOf "customers") "alice"
      (resultOf clientsPlugin "c") := by
  refine ⟨_, run_marked, rfl, ⟨by decide, plainAnswers, rfl⟩, rfl, ?_, by decide,
    ⟨⟨_, List.mem_singleton_self _, rfl⟩, "c", rfl, by decide⟩, ?_⟩
  · unfold ProfileRead
    decide
  · unfold FavoriteShown
    decide

end WazoDird
