import WazoDird.Database.Queries.Favorite
import WazoDird.Views.ResultFormatter

/-!
# The favorites of a user, under the sources of a profile

`favorite_ids` of the favorites service: a user's favorites are read with
the names of their sources, and kept, under the uuid and under the name
of a source, where the profile has a favorites source of that name.
-/

namespace WazoDird

/-- A source as a profile has it. -/
structure ProfileSource where
  uuid : Uuid
  backend : String
  name : String
  tenantUuid : Uuid
  deriving DecidableEq, Repr

/-- `ProfileConfig`: a profile as its service reads it. A profile may have
no display. -/
structure ProfileConfig where
  name : String
  display : Option (List DisplayColumn) := none
  services : Dict String (List ProfileSource) := ∅
  deriving DecidableEq, Repr

namespace FavoritesService

/-- The sources of the favorites service of a profile. -/
def favoritesSources (profile : ProfileConfig) : List ProfileSource :=
  (profile.services.get? "favorites").getD []

/-- `FavoriteList`. -/
structure FavoriteList where
  byUuid : Dict String (List String) := ∅
  byName : Dict String (List String) := ∅

/-- `d[key].append(id)`, of a dictionary that starts a list where it has
none. -/
def appendId (ids : Dict String (List String)) (key id : String) : Dict String (List String) :=
  ids.set key ((ids.get? key).getD [] ++ [id])

/-- Keep one favorite. -/
def keepFavorite (enabledSources : Dict String ProfileSource) (kept : FavoriteList)
    (favorite : String × String) : FavoriteList :=
  match enabledSources.get? favorite.1 with
  | none => kept
  | some source =>
    { byUuid := appendId kept.byUuid source.uuid favorite.2
      byName := appendId kept.byName source.name favorite.2 }

/-- `favorite_ids`. A caller without a user has no favorite. -/
def favoriteIds (o : RowOrder (String × String)) (db : Database) (profile : ProfileConfig)
    (userUuid : Option Uuid) : FavoriteList :=
  let favorites := userUuid.elim [] (FavoriteCRUD.get o db)
  let enabledSources := Dict.ofList ((favoritesSources profile).map fun s => (s.name, s))
  favorites.foldl (keepFavorite enabledSources) {}

variable {o : RowOrder (String × String)} {db : Database} {profile : ProfileConfig}
  {userUuid : Uuid} {name id : String}

/-- What is kept after one more id. -/
theorem mem_appendId {ids : Dict String (List String)} {key id name id' : String} :
    (∃ l, (appendId ids key id).get? name = some l ∧ id' ∈ l) ↔
      (name = key ∧ id' = id) ∨ ∃ l, ids.get? name = some l ∧ id' ∈ l := by
  rw [appendId, Dict.get?_set]
  by_cases hk : key = name
  · subst hk
    cases hget : ids.get? key with
    | none => simp
    | some l => simp [or_comm]
  · rw [if_neg hk]
    constructor
    · exact Or.inr
    · rintro (⟨hname, -⟩ | h)
      · exact absurd hname.symm hk
      · exact h

/-- An enabled source is under its own name. -/
theorem name_of_enabled {sources : List ProfileSource} {source : ProfileSource}
    (h : (Dict.ofList (sources.map fun s => (s.name, s))).get? name = some source) :
    source ∈ sources ∧ source.name = name := by
  obtain ⟨s, hs, heq⟩ := List.mem_map.1 (Dict.mem_of_get?_ofList h)
  cases heq
  exact ⟨hs, rfl⟩

/-- **What is kept under a name**: the ids of the favorites read with that
name, when it is the name of a favorites source of the profile. -/
theorem mem_byName :
    (∃ ids, (favoriteIds o db profile (some userUuid)).byName.get? name = some ids ∧ id ∈ ids) ↔
      (name, id) ∈ FavoriteCRUD.get o db userUuid ∧
        ∃ source ∈ favoritesSources profile, source.name = name := by
  let sources := favoritesSources profile
  let enabled := Dict.ofList (sources.map fun s => (s.name, s))
  have hloop : ∀ (favorites : List (String × String)) (kept : FavoriteList),
      (∃ ids, (favorites.foldl (keepFavorite enabled) kept).byName.get? name = some ids ∧
          id ∈ ids) ↔
        ((name, id) ∈ favorites ∧ (enabled.get? name).isSome) ∨
          ∃ ids, kept.byName.get? name = some ids ∧ id ∈ ids := by
    intro favorites
    induction favorites with
    | nil => simp
    | cons favorite favorites ih =>
        obtain ⟨name', id'⟩ := favorite
        intro kept
        rw [List.foldl_cons, ih, List.mem_cons, Prod.mk.injEq]
        cases hsource : enabled.get? name' with
        | none =>
            rw [keepFavorite, hsource]
            constructor
            · rintro (⟨hmem, hsome⟩ | h)
              · exact Or.inl ⟨Or.inr hmem, hsome⟩
              · exact Or.inr h
            · rintro (⟨⟨rfl, -⟩ | hmem, hsome⟩ | h)
              · rw [hsource] at hsome
                cases hsome
              · exact Or.inl ⟨hmem, hsome⟩
              · exact Or.inr h
        | some source =>
            rw [keepFavorite, hsource]
            dsimp only
            rw [mem_appendId, (name_of_enabled hsource).2]
            constructor
            · rintro (⟨hmem, hsome⟩ | ⟨rfl, rfl⟩ | h)
              · exact Or.inl ⟨Or.inr hmem, hsome⟩
              · exact Or.inl ⟨Or.inl ⟨rfl, rfl⟩, by rw [hsource]; rfl⟩
              · exact Or.inr h
            · rintro (⟨⟨rfl, rfl⟩ | hmem, hsome⟩ | h)
              · exact Or.inr (Or.inl ⟨rfl, rfl⟩)
              · exact Or.inl ⟨hmem, hsome⟩
              · exact Or.inr (Or.inr h)
  have henabled : (enabled.get? name).isSome ↔ ∃ source ∈ sources, source.name = name := by
    rw [← Dict.mem_keys_iff, Dict.mem_keys_ofList, List.map_map]
    simp
  rw [favoriteIds, Option.elim_some, hloop, henabled]
  constructor
  · rintro (h | ⟨ids, hids, -⟩)
    · exact h
    · cases hids
  · exact Or.inl

end FavoritesService

/-- The name and contact id a favorite is read with. -/
theorem FavoriteCRUD.mem_get {o : RowOrder (String × String)} {db : Database} {userUuid : Uuid}
    {name id : String} :
    (name, id) ∈ FavoriteCRUD.get o db userUuid ↔ ∃ f ∈ db.favorites, f.userUuid = userUuid ∧
      f.contactId = id ∧ ∃ s ∈ db.sources, s.uuid = f.sourceUuid ∧ db.sourceName s = some name := by
  simp only [FavoriteCRUD.get, RowOrder.mem_order, List.mem_flatMap, List.mem_filter,
    List.mem_filterMap, decide_eq_true_eq, Option.map_eq_some_iff, Prod.mk.injEq]
  constructor
  · rintro ⟨f, ⟨hf, hu⟩, s, ⟨hs, hsf⟩, n, hn, rfl, rfl⟩
    exact ⟨f, hf, hu, rfl, s, hs, hsf, hn⟩
  · rintro ⟨f, hf, hu, rfl, s, hs, hsf, hn⟩
    exact ⟨f, ⟨hf, hu⟩, s, ⟨hs, hsf⟩, name, hn, rfl, rfl⟩

end WazoDird
