import WazoDird.Database.Driven.Base
import WazoDird.Database.Queries.Favorite

/-!
# The operations, call by call: sources and favorites

`database/queries/source.py` and `database/queries/favorite.py`.
-/

namespace WazoDird

namespace Driven

open Body

namespace SourceCRUD

open WazoDird.SourceCRUD (multiTenantFilter listFilter fromDbFormat clash createNewSource
  updateSource dropSources)

variable (lower : String → String) (o : RowOrder Source) (defaults : SourceDefaults)
  (backend : String) (sourceUuid tenantUuid : Uuid) (visibleTenants : Option (List Uuid))
  (params : SourceListParams) (body : SourceBody)

/-- The flush of a row, among others. -/
def flushSource (others : Database → List Source) (write : Database → Database) (source : Source)
    (db : Database) : Except DirdError (Except IntegrityError (Database × Unit)) :=
  .ok <| if (others db).any (clash source) then .error ⟨.uniqueViolation, none, ""⟩
    else .ok (write db, ())

/-- The handler of `flush_and_handle`. -/
def flushError (e : IntegrityError) : DirdError :=
  match e.pgcode with
  | .uniqueViolation => .duplicatedSource body.name
  | .foreignKeyViolation => .invalidSourceConfig
  | _ => .integrity

/-- `count`. -/
def count (backend : Option String) : Operation Database DirdError ℕ :=
  withSession (fetch fun db =>
    WazoDird.SourceCRUD.count lower db backend visibleTenants params)

/-- `list_`. -/
def list (backend : Option String) : Operation Database DirdError (List SourceInfo) :=
  withSession (fetch fun db =>
    WazoDird.SourceCRUD.list lower o db backend visibleTenants params)

/-- `create`. The phonebook of the body is queried, where it has one. -/
def create : Operation Database DirdError SourceInfo :=
  withSession do
    createTenant tenantUuid
    let source ← fetchIf (backend = "phonebook" ∧ body.phonebookUuid ≠ none) fun db =>
      createNewSource db defaults backend tenantUuid body
    flushOrRaise (flushSource Database.sources (fun db =>
      { db with sources := db.sources ++ [source] }) source) (flushError body)
    held fun db => fromDbFormat db source

/-- `delete`. -/
def delete : Operation Database DirdError Unit :=
  let p := multiTenantFilter backend sourceUuid visibleTenants
  (withSession (access fun db => .ok (dropSources db p, db.sources.any p))).andThen fun deleted =>
    if deleted then .ok () else .error (.noSuchSource sourceUuid)

/-- `edit`. The phonebook of the body is queried, where it has one. -/
def edit : Operation Database DirdError SourceInfo :=
  withSession do
    let found ← query fun db =>
      o.first (db.sources.filter (multiTenantFilter backend sourceUuid visibleTenants))
    match found with
    | none => raise (.noSuchSource sourceUuid)
    | some source =>
      let source' ← fetchIf
        (source.backend = "phonebook" ∧ body.phonebookUuid.filter (· ≠ "") ≠ none) fun db =>
          updateSource db source body
      flushOrRaise (flushSource (fun db => db.sources.filter (·.uuid ≠ source.uuid)) (fun db =>
        { db with
          sources := db.sources.map fun s => if s.uuid = source.uuid then source' else s })
        source') (flushError body)
      held fun db => fromDbFormat db source'

/-- `get`. -/
def get : Operation Database DirdError SourceInfo :=
  withSession (fetch fun db =>
    WazoDird.SourceCRUD.get o db backend sourceUuid visibleTenants)

/-- `get_by_uuid`. -/
def getByUuid : Operation Database DirdError SourceInfo :=
  withSession (fetch fun db => WazoDird.SourceCRUD.getByUuid o db sourceUuid)

/-- A call of an operation on sources. -/
inductive Call where
  | count (backend : Option String) (visibleTenants : Option (List Uuid))
    (params : SourceListParams)
  | list (backend : Option String) (visibleTenants : Option (List Uuid))
    (params : SourceListParams)
  | create (backend : String) (tenantUuid : Uuid) (body : SourceBody)
  | delete (backend : String) (sourceUuid : Uuid) (visibleTenants : Option (List Uuid))
  | edit (backend : String) (sourceUuid : Uuid) (visibleTenants : Option (List Uuid))
    (body : SourceBody)
  | get (backend : String) (sourceUuid : Uuid) (visibleTenants : Option (List Uuid))
  | getByUuid (uuid : Uuid)

namespace Call

/-- What it answers. -/
def Answer : Call → Type
  | count .. => ℕ
  | list .. => List SourceInfo
  | delete .. => Unit
  | create .. | edit .. | get .. | getByUuid .. => SourceInfo

/-- The call, as the accesses it makes. -/
def run : (call : Call) → Operation Database DirdError call.Answer
  | count backend visibleTenants params => SourceCRUD.count lower visibleTenants params backend
  | list backend visibleTenants params => SourceCRUD.list lower o visibleTenants params backend
  | create backend tenantUuid body => SourceCRUD.create defaults backend tenantUuid body
  | delete backend sourceUuid visibleTenants => SourceCRUD.delete backend sourceUuid visibleTenants
  | edit backend sourceUuid visibleTenants body =>
    SourceCRUD.edit o backend sourceUuid visibleTenants body
  | get backend sourceUuid visibleTenants => SourceCRUD.get o backend sourceUuid visibleTenants
  | getByUuid uuid => SourceCRUD.getByUuid o uuid

/-- The call, as what it does to the tables. -/
def done (db : Database) : (call : Call) → Except DirdError call.Answer × Database
  | count backend visibleTenants params =>
    (WazoDird.SourceCRUD.count lower db backend visibleTenants params, db)
  | list backend visibleTenants params =>
    (WazoDird.SourceCRUD.list lower o db backend visibleTenants params, db)
  | create backend tenantUuid body =>
    WazoDird.SourceCRUD.create db defaults backend tenantUuid body
  | delete backend sourceUuid visibleTenants =>
    WazoDird.SourceCRUD.delete db backend sourceUuid visibleTenants
  | edit backend sourceUuid visibleTenants body =>
    WazoDird.SourceCRUD.edit o db backend sourceUuid visibleTenants body
  | get backend sourceUuid visibleTenants =>
    (WazoDird.SourceCRUD.get o db backend sourceUuid visibleTenants, db)
  | getByUuid uuid => (WazoDird.SourceCRUD.getByUuid o db uuid, db)

end Call

section Spec

variable {lower : String → String} {o : RowOrder Source} {defaults : SourceDefaults}
  {body : SourceBody}

/-- **Every operation on sources reports an outage.** -/
theorem reports_call (call : Call) : Reports (call.run lower o defaults) := by
  cases call with
  | count | list | get | getByUuid => exact reports_withSession (passes_fetch _)
  | create =>
    exact reports_withSession <| (passes_createTenant _).bind fun _ => (passes_fetchIf _).bind
      fun _ => (passes_flushOrRaise _ _).bind fun _ => passes_held _
  | delete => exact fun drv db => (reports_withSession (passes_access _) drv db).andThen
  | edit =>
    refine reports_withSession ((passes_query _).bind fun found => ?_)
    cases found with
    | none => exact passes_raise _
    | some source =>
      exact (passes_fetchIf _).bind fun _ => (passes_flushOrRaise _ _).bind fun _ => passes_held _

/-- The flush of a row, and what its handler makes of an integrity
error. -/
theorem gives_flushSource {c v : Database} (others : Database → List Source)
    (write : Database → Database) (source : Source) :
    (flushOrRaise (flushSource others write source) (flushError body)).Gives c v
      ((WazoDird.SourceCRUD.flushAndHandle (others v) source body).map fun u => (write v, u)) := by
  have hflush := gives_flushOrRaise (c := c) (v := v) (flushSource others write source)
    (flushError body)
  unfold flushSource WazoDird.SourceCRUD.flushAndHandle at *
  split
  · next hclash =>
    rw [if_pos hclash] at hflush
    exact hflush
  · next hclash =>
    rw [if_neg hclash] at hflush
    exact hflush

section Does

variable (db : Database) (backend : String) (sourceUuid tenantUuid : Uuid)
  (visibleTenants : Option (List Uuid))

theorem does_create : (create defaults backend tenantUuid body).Does db
    (WazoDird.SourceCRUD.create db defaults backend tenantUuid body) := by
  rw [WazoDird.SourceCRUD.create, ← closed_eq_newSession]
  refine does_withSession ((gives_createTenant (Or.inl rfl)).bind_ok ?_)
  refine (gives_fetchIf _).bind_map fun source _ => ?_
  refine (gives_flushSource _ _ source).bind_map fun _ _ => ?_
  exact gives_held _

theorem does_delete : (delete backend sourceUuid visibleTenants).Does db
    (WazoDird.SourceCRUD.delete db backend sourceUuid visibleTenants) :=
  (does_withSession (gives_access _)).andThen

theorem does_edit : (edit o backend sourceUuid visibleTenants body).Does db
    (WazoDird.SourceCRUD.edit o db backend sourceUuid visibleTenants body) := by
  rw [WazoDird.SourceCRUD.edit, ← closed_eq_newSession]
  refine does_withSession ((gives_query _).bind_ok ?_)
  cases o.first (db.sources.filter (multiTenantFilter backend sourceUuid visibleTenants)) with
  | none => exact gives_raise _
  | some source =>
    refine (gives_fetchIf _).bind_map fun source' _ => ?_
    refine (gives_flushSource _ _ source').bind_map fun _ _ => ?_
    exact gives_held _

end Does

/-- **While the database is up, an operation on sources does what it does
to the tables.** -/
theorem does_call (call : Call) (db : Database) :
    (call.run lower o defaults).Does db (call.done lower o defaults db) := by
  cases call with
  | count | list | get | getByUuid => exact does_fetch _ db
  | create backend tenantUuid body => exact does_create db backend tenantUuid
  | delete backend sourceUuid visibleTenants =>
    exact does_delete db backend sourceUuid visibleTenants
  | edit backend sourceUuid visibleTenants body =>
    exact does_edit db backend sourceUuid visibleTenants

end Spec

end SourceCRUD

namespace FavoriteCRUD

open WazoDird.FavoriteCRUD (getSource deleteFilter)

/-- The flush of a favorite. -/
def flushFavorite (favorite : Favorite) (db : Database) :
    Except DirdError (Except IntegrityError (Database × Favorite)) :=
  .ok <| if favorite ∈ db.favorites then .error ⟨.uniqueViolation, none, ""⟩
    else .ok ({ db with favorites := db.favorites ++ [favorite] }, favorite)

/-- `create`. -/
def create (o : RowOrder Source) (userUuid tenantUuid : Uuid)
    (backend sourceName contactId : String) : Operation Database DirdError Favorite :=
  withSession do
    getDirdUser tenantUuid userUuid
    match ← query fun db => getSource o db backend sourceName with
    | none => raise .attribute
    | some source =>
      flushOrRaise (flushFavorite
        { sourceUuid := source.uuid, contactId := contactId, userUuid := userUuid })
        fun _ => .duplicatedFavorite

/-- The sources of a name. -/
def matchingSourceUuids (sourceName : String) (db : Database) : List Uuid :=
  (db.sources.filter fun s => db.sourceName s = some sourceName).map Source.uuid

/-- The deletion of the favorites of a user in some sources, and whether
there was one. -/
def dropFavorites (userUuid : Uuid) (contactId : String) (matching : List Uuid) (db : Database) :
    Except DirdError (Database × Bool) :=
  let p (f : Favorite) : Bool :=
    f.contactId = contactId && f.userUuid = userUuid && f.sourceUuid ∈ matching
  .ok ({ db with favorites := db.favorites.filter (fun f => !p f) }, db.favorites.any p)

/-- What the session of `delete` does. -/
def deleteMatching (userUuid : Uuid) (sourceName contactId : String) :
    Body Database DirdError Bool := do
  let matching ← query (matchingSourceUuids sourceName)
  if matching = [] then raise (.noSuchFavorite sourceName contactId)
  else access (dropFavorites userUuid contactId matching)

/-- `delete`, which commits before its session does. -/
def delete (userUuid : Uuid) (sourceName contactId : String) : Operation Database DirdError Unit :=
  (withSession (deleteMatching userUuid sourceName contactId).thenCommit).andThen fun deleted =>
    if deleted then .ok () else .error (.noSuchFavorite sourceName contactId)

/-- `get`. -/
def get (o : RowOrder (String × String)) (userUuid : Uuid) :
    Operation Database DirdError (List (String × String)) :=
  withSession (query fun db => WazoDird.FavoriteCRUD.get o db userUuid)

/-- A call of an operation on favorites. -/
inductive Call where
  | create (userUuid tenantUuid : Uuid) (backend sourceName contactId : String)
  | delete (userUuid : Uuid) (sourceName contactId : String)
  | get (userUuid : Uuid)

namespace Call

/-- What it answers. -/
def Answer : Call → Type
  | create .. => Favorite
  | delete .. => Unit
  | get .. => List (String × String)

variable (o : RowOrder Source) (of : RowOrder (String × String))

/-- The call, as the accesses it makes. -/
def run : (call : Call) → Operation Database DirdError call.Answer
  | create userUuid tenantUuid backend sourceName contactId =>
    FavoriteCRUD.create o userUuid tenantUuid backend sourceName contactId
  | delete userUuid sourceName contactId => FavoriteCRUD.delete userUuid sourceName contactId
  | get userUuid => FavoriteCRUD.get of userUuid

/-- The call, as what it does to the tables. -/
def done (db : Database) : (call : Call) → Except DirdError call.Answer × Database
  | create userUuid tenantUuid backend sourceName contactId =>
    WazoDird.FavoriteCRUD.create o db userUuid tenantUuid backend sourceName contactId
  | delete userUuid sourceName contactId =>
    WazoDird.FavoriteCRUD.delete db userUuid sourceName contactId
  | get userUuid => (.ok (WazoDird.FavoriteCRUD.get of db userUuid), db)

end Call

section Spec

variable {o : RowOrder Source} {of : RowOrder (String × String)}

/-- **Every operation on favorites reports an outage.** -/
theorem reports_call (call : Call) : Reports (call.run o of) := by
  cases call with
  | get => exact reports_withSession (passes_query _)
  | create =>
    refine reports_withSession ((passes_getDirdUser _ _).bind fun _ =>
      (passes_query _).bind fun found => ?_)
    cases found with
    | none => exact passes_raise _
    | some source => exact passes_flushOrRaise _ _
  | delete userUuid sourceName contactId =>
    have hbody : (deleteMatching userUuid sourceName contactId).Passes :=
      (passes_query _).bind fun _ => (passes_raise _).ite (passes_access _)
    have hsession : Reports (withSession (deleteMatching userUuid sourceName contactId).thenCommit)
        := by
      rw [withSession, Operation.newSession_thenCommit]
      exact reports_withSession hbody
    exact fun drv db => (hsession drv db).andThen

theorem does_create (db : Database) (userUuid tenantUuid : Uuid)
    (backend sourceName contactId : String) :
    (create o userUuid tenantUuid backend sourceName contactId).Does db
      (WazoDird.FavoriteCRUD.create o db userUuid tenantUuid backend sourceName contactId) := by
  rw [WazoDird.FavoriteCRUD.create, ← closed_eq_newSession]
  refine does_withSession ((gives_getDirdUser _ _).bind_ok ((gives_query _).bind_ok ?_))
  dsimp only
  cases getSource o (db.getDirdUser tenantUuid userUuid) backend sourceName with
  | none => exact gives_raise _
  | some source =>
    have hflush := gives_flushOrRaise (c := db) (v := db.getDirdUser tenantUuid userUuid)
      (flushFavorite { sourceUuid := source.uuid, contactId := contactId, userUuid := userUuid })
      fun _ => .duplicatedFavorite
    unfold flushFavorite at hflush
    dsimp only
    split
    · next hmem =>
      rw [if_pos hmem] at hflush
      exact hflush
    · next hmem =>
      rw [if_neg hmem] at hflush
      exact hflush

/-- The favorites in the sources of a name. -/
theorem deleteFilter_eq {db : Database} {userUuid : Uuid} {sourceName contactId : String} :
    deleteFilter db userUuid sourceName contactId = fun f =>
      f.contactId = contactId && f.userUuid = userUuid &&
        f.sourceUuid ∈ matchingSourceUuids sourceName db := by
  funext f
  rw [Bool.eq_iff_iff]
  simp [deleteFilter, matchingSourceUuids, and_assoc]

theorem does_delete (db : Database) (userUuid : Uuid) (sourceName contactId : String) :
    (delete userUuid sourceName contactId).Does db
      (WazoDird.FavoriteCRUD.delete db userUuid sourceName contactId) := by
  rw [delete, withSession, Operation.newSession_thenCommit, WazoDird.FavoriteCRUD.delete,
    deleteFilter_eq]
  by_cases hnone : matchingSourceUuids sourceName db = []
  · -- no source has the name: it raises before it would delete nothing
    have hraise : (deleteMatching userUuid sourceName contactId).Gives db db
        (.error (.noSuchFavorite sourceName contactId)) := by
      refine (gives_query _).bind_ok ?_
      rw [if_pos hnone]
      exact gives_raise _
    simp only [hnone, List.not_mem_nil, decide_false, Bool.and_false, Bool.not_false,
      List.any_eq_true, Bool.false_eq_true, and_false, exists_false, if_false, List.filter_true]
    exact (does_withSession hraise).andThen
  · have hdelete : (deleteMatching userUuid sourceName contactId).Gives db db
        (dropFavorites userUuid contactId (matchingSourceUuids sourceName db) db) := by
      refine (gives_query _).bind_ok ?_
      rw [if_neg hnone]
      exact gives_access _
    exact (does_withSession hdelete).andThen

/-- **While the database is up, an operation on favorites does what it does
to the tables.** -/
theorem does_call (call : Call) (db : Database) : (call.run o of).Does db (call.done o of db) := by
  cases call with
  | create userUuid tenantUuid backend sourceName contactId =>
    exact does_create db userUuid tenantUuid backend sourceName contactId
  | delete userUuid sourceName contactId => exact does_delete db userUuid sourceName contactId
  | get => exact does_query _ db

end Spec

end FavoriteCRUD

end Driven

end WazoDird
