import WazoDird.Database.Queries.Source

/-!
# Favorites

`database/queries/favorite.py`. A favorite is a user, a contact id and a
source, and the source is looked up again, by name, in every operation:
`create` takes any source of the name and backend, of whichever tenant,
and `delete` removes the user's favorites in every source of the name.
-/

namespace WazoDird

namespace Database

/-- The users a uuid names. -/
def hasUser (db : Database) (userUuid : Uuid) : Bool := db.users.any (·.userUuid = userUuid)

/-- `BaseDAO._get_dird_user`: the user's row, made with its tenant's when
there is none. A user that is there is taken as it is, whatever tenant
the caller names. -/
def getDirdUser (db : Database) (tenantUuid userUuid : Uuid) : Database :=
  let db' := db.createTenant tenantUuid
  if db.hasUser userUuid then db'
  else { db' with users := db'.users ++ [{ userUuid := userUuid, tenantUuid := tenantUuid }] }

end Database

namespace FavoriteCRUD

/-- `_get_source`: the first source of that name and backend. -/
def getSource (o : RowOrder Source) (db : Database) (backend sourceName : String) :
    Option Source :=
  o.first (db.sources.filter fun s => db.sourceName s = some sourceName && s.backend = backend)

/-- `create`. -/
def create (o : RowOrder Source) (db : Database)
    (userUuid tenantUuid : Uuid) (backend sourceName contactId : String) :
    Except DirdError Favorite × Database :=
  newSession db <|
    let db := db.getDirdUser tenantUuid userUuid
    match getSource o db backend sourceName with
    | none => .error .attribute
    | some source =>
      let favorite : Favorite :=
        { sourceUuid := source.uuid, contactId := contactId, userUuid := userUuid }
      if favorite ∈ db.favorites then .error .duplicatedFavorite
      else .ok ({ db with favorites := db.favorites ++ [favorite] }, favorite)

/-- The favorites `delete` removes: the user's, for that contact id, in a
source of that name. -/
def deleteFilter (db : Database) (userUuid : Uuid) (sourceName contactId : String)
    (f : Favorite) : Bool :=
  f.contactId = contactId && f.userUuid = userUuid &&
    db.sources.any fun s => db.sourceName s = some sourceName && s.uuid = f.sourceUuid

/-- `delete`. It commits before it finds that no row was deleted. -/
def delete (db : Database) (userUuid : Uuid) (sourceName contactId : String) :
    Except DirdError Unit × Database :=
  let p := deleteFilter db userUuid sourceName contactId
  (if db.favorites.any p then .ok () else .error (.noSuchFavorite sourceName contactId),
    { db with favorites := db.favorites.filter (fun f => !p f) })

/-- `get`: the names and contact ids of a user's favorites. -/
def get (o : RowOrder (String × String)) (db : Database) (userUuid : Uuid) :
    List (String × String) :=
  o.order <| (db.favorites.filter (·.userUuid = userUuid)).flatMap fun f =>
    (db.sources.filter (·.uuid = f.sourceUuid)).filterMap fun s =>
      (db.sourceName s).map fun name => (name, f.contactId)

/-! ## What an operation does -/

section Spec

variable {db db' : Database} {o : RowOrder Source} {userUuid tenantUuid : Uuid}
  {backend sourceName contactId : String}

/-- The source the lookup takes has the name and the backend it was asked
for. -/
theorem getSource_eq_some {s : Source} (h : getSource o db backend sourceName = some s) :
    s ∈ db.sources ∧ db.sourceName s = some sourceName ∧ s.backend = backend := by
  obtain ⟨hmem, hs⟩ := List.mem_filter.1 (RowOrder.mem_of_first h)
  simp only [Bool.and_eq_true, decide_eq_true_eq] at hs
  exact ⟨hmem, hs.1, hs.2⟩

/-- Finding the user's row touches neither sources, phonebooks nor
favorites. -/
theorem getDirdUser_tables (db : Database) (tenantUuid userUuid : Uuid) :
    (db.getDirdUser tenantUuid userUuid).sources = db.sources ∧
      (db.getDirdUser tenantUuid userUuid).phonebooks = db.phonebooks ∧
      (db.getDirdUser tenantUuid userUuid).favorites = db.favorites := by
  unfold Database.getDirdUser Database.createTenant
  dsimp only
  split <;> split <;> exact ⟨rfl, rfl, rfl⟩

/-- **What a creation does**: nothing, and it raises; or it adds one
favorite of the user, in the source the lookup took. -/
theorem create_cases {r : Except DirdError Favorite}
    (h : create o db userUuid tenantUuid backend sourceName contactId = (r, db')) :
    (∃ e, r = .error e ∧ db' = db) ∨
    ∃ s f, r = .ok f ∧ getSource o db backend sourceName = some s ∧
      f = { sourceUuid := s.uuid, contactId := contactId, userUuid := userUuid } ∧
      db' = { db.getDirdUser tenantUuid userUuid with favorites := db.favorites ++ [f] } := by
  obtain ⟨hsources, hphonebooks, hfavorites⟩ := getDirdUser_tables db tenantUuid userUuid
  have hlookup : getSource o (db.getDirdUser tenantUuid userUuid) backend sourceName =
      getSource o db backend sourceName := by
    simp only [getSource, hsources, Database.sourceName_congr hphonebooks]
  rcases newSession_snd h with herr | ⟨f, rfl, hbody⟩
  · exact Or.inl herr
  · dsimp only at hbody
    split at hbody
    · cases hbody
    · next s hs =>
      split at hbody
      · cases hbody
      · cases hbody
        exact Or.inr ⟨s, _, rfl, hlookup ▸ hs, rfl, by rw [hfavorites]⟩

/-- **What a deletion does**: it removes favorites of the user it was
asked for, and of no other. -/
theorem mem_favorites_delete {f : Favorite} :
    f ∈ (delete db userUuid sourceName contactId).2.favorites ↔
      f ∈ db.favorites ∧ deleteFilter db userUuid sourceName contactId f = false := by
  simp [delete]

theorem userUuid_of_deleteFilter {f : Favorite}
    (h : deleteFilter db userUuid sourceName contactId f = true) : f.userUuid = userUuid := by
  simp only [deleteFilter, Bool.and_eq_true, decide_eq_true_eq] at h
  exact h.1.2

end Spec

end FavoriteCRUD

end WazoDird
