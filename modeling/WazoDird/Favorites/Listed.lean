import WazoDird.Common.Executor.Wait
import WazoDird.Favorites.Ids
import WazoDird.Reverse.Model
import WazoDird.Services.BaseService

/-!
# The favorites a user is shown

`_FavoritesService.favorites`: the ids `favorite_ids` keeps under the uuid
of a source are asked of that source, all sources at once, and waited for
as a lookup is. The service may be given a timeout in its configuration,
whatever the profile.
-/

namespace WazoDird

namespace FavoritesService

variable {σ ε ρ : Type}

/-- The favorites source of a name: the last one, when there are several. -/
def enabledSource (profile : ProfileConfig) (name : String) : Option ProfileSource :=
  (Dict.ofList ((favoritesSources profile).map fun s => (s.name, s))).get? name

/-- `args`, with who asks once more for the plugins that read it there. -/
structure ListArgs extends SourceArgs where
  tokenInfosUserUuid : Option Uuid
  deriving DecidableEq, Repr

/-- **A request for the favorites of a user**: what it is called with, what
the database holds, and what the source manager answers it. -/
structure FavoritesCall (σ : Type) where
  profile : ProfileConfig
  /-- A profile without the service raises `_NoSuchProfileException`. -/
  configured : (profile.services.get? "favorites").isSome
  userUuid : Uuid
  token : Option String
  db : Database
  rows : RowOrder (String × String)
  manager : Uuid → Option σ
  /-- `lookup_timeout` is in the configuration. -/
  lookupTimeout : Bool

/-- What a source is asked: its contacts of some ids. -/
structure ListTask (σ : Type) where
  source : σ
  ids : List String
  args : ListArgs

namespace FavoritesCall

variable (call : FavoritesCall σ)

/-- The `args` of the call. -/
def args : ListArgs :=
  { SourceArgs.ofRequest call.token (some call.userUuid) with
    tokenInfosUserUuid := some call.userUuid }

/-- The ids kept under the uuid of a source. -/
def byUuid : Dict String (List String) :=
  (favoriteIds call.rows call.db call.profile (some call.userUuid)).byUuid

/-- The sources it asks, each for its ids. -/
def sources : List (σ × List String) :=
  call.byUuid.entries.filterMap fun entry => (call.manager entry.1).map fun source =>
    (source, entry.2)

/-- `_async_list`, for each of them. -/
def tasks : List (ListTask σ) := call.sources.map fun p => ⟨p.1, p.2, call.args⟩

end FavoritesCall

/-- What a source may do when it is asked for contacts: it raises, or
returns results. -/
abbrev Lists (σ ε ρ : Type) := σ → List String → ListArgs → Except ε (List ρ) → Prop

variable (lists : Lists σ ε ρ)

/-- A source that raises has nothing to show. -/
def Listed (source : σ) (ids : List String) (args : ListArgs) (results : List ρ) : Prop :=
  ∃ answer, lists source ids args answer ∧ results = RaiseStopper.execute [] answer

/-- A request: its task list, its futures, and where it is. -/
abbrev ListRequest (σ ρ : Type) :=
  Job (ListTask σ) (List ρ) (FavoritesCall σ × WaitPhase (List ρ))

/-- **A step of the service.** -/
abbrev ListStep (workers : ℕ) :
    List (ListRequest σ ρ) → ExecutorEvent → List (ListRequest σ ρ) → Prop :=
  ExecutorStep workers (fun task => Listed lists task.source task.ids task.args)
    (waitRule FavoritesCall.tasks FavoritesCall.lookupTimeout)

/-- A request is answered with some results. -/
def ListAnswered (request : ListRequest σ ρ) (call : FavoritesCall σ) (results : List ρ) : Prop :=
  ∃ done, request.caller = (call, .answered done) ∧ results = done.flatten

/-! ## What is kept under a uuid -/

/-- **The ids kept under the uuid of a source** are those of the favorites
read with the name of an enabled source of that uuid. -/
theorem mem_byUuid {o : RowOrder (String × String)} {db : Database} {profile : ProfileConfig}
    {userUuid uuid : Uuid} {id : String} :
    (∃ ids, (favoriteIds o db profile (some userUuid)).byUuid.get? uuid = some ids ∧ id ∈ ids) ↔
      ∃ name source, (name, id) ∈ FavoriteCRUD.get o db userUuid ∧
        enabledSource profile name = some source ∧ source.uuid = uuid := by
  let enabled := Dict.ofList ((favoritesSources profile).map fun s => (s.name, s))
  have hloop : ∀ (favorites : List (String × String)) (kept : FavoriteList),
      (∃ ids, (favorites.foldl (keepFavorite enabled) kept).byUuid.get? uuid = some ids ∧
          id ∈ ids) ↔
        (∃ name source, (name, id) ∈ favorites ∧ enabled.get? name = some source ∧
          source.uuid = uuid) ∨ ∃ ids, kept.byUuid.get? uuid = some ids ∧ id ∈ ids := by
    intro favorites
    induction favorites with
    | nil => simp
    | cons favorite favorites ih =>
        obtain ⟨name', id'⟩ := favorite
        intro kept
        rw [List.foldl_cons, ih]
        cases hsource : enabled.get? name' with
        | none =>
            rw [keepFavorite, hsource]
            constructor
            · rintro (⟨name, source, hmem, henabled⟩ | h)
              · exact Or.inl ⟨name, source, List.mem_cons_of_mem _ hmem, henabled⟩
              · exact Or.inr h
            · rintro (⟨name, source, hmem, henabled, huuid⟩ | h)
              · rcases List.mem_cons.1 hmem with heq | hmem
                · obtain ⟨rfl, -⟩ := Prod.mk.inj heq
                  rw [hsource] at henabled
                  cases henabled
                · exact Or.inl ⟨name, source, hmem, henabled, huuid⟩
              · exact Or.inr h
        | some source' =>
            rw [keepFavorite, hsource]
            dsimp only
            rw [mem_appendId]
            constructor
            · rintro (⟨name, source, hmem, henabled⟩ | ⟨rfl, rfl⟩ | h)
              · exact Or.inl ⟨name, source, List.mem_cons_of_mem _ hmem, henabled⟩
              · exact Or.inl ⟨name', source', List.mem_cons_self, hsource, rfl⟩
              · exact Or.inr h
            · rintro (⟨name, source, hmem, henabled, huuid⟩ | h)
              · rcases List.mem_cons.1 hmem with heq | hmem
                · obtain ⟨rfl, rfl⟩ := Prod.mk.inj heq
                  rw [hsource] at henabled
                  obtain rfl := Option.some.inj henabled
                  exact Or.inr (Or.inl ⟨huuid.symm, rfl⟩)
                · exact Or.inl ⟨name, source, hmem, henabled, huuid⟩
              · exact Or.inr (Or.inr h)
  rw [favoriteIds, Option.elim_some, hloop]
  constructor
  · rintro (h | ⟨ids, hids, -⟩)
    · exact h
    · cases hids
  · exact Or.inl

variable {lists} {workers : ℕ} {l : List ExecutorEvent} {requests : List (ListRequest σ ρ)}
  {request : ListRequest σ ρ} {call : FavoritesCall σ} {results : List ρ}

/-- A favorite the database holds for a user, of an enabled source of the
profile. -/
structure Shows (call : FavoritesCall σ) (uuid : Uuid) (id : String) : Prop where
  exists_favorite : ∃ name source, enabledSource call.profile name = some source ∧
    source.uuid = uuid ∧ ∃ f ∈ call.db.favorites, f.userUuid = call.userUuid ∧ f.contactId = id ∧
      ∃ s ∈ call.db.sources, s.uuid = f.sourceUuid ∧ call.db.sourceName s = some name

/-- What is kept under a uuid is what the user is to be shown. -/
theorem shows_iff {uuid : Uuid} {id : String} :
    (∃ ids, call.byUuid.get? uuid = some ids ∧ id ∈ ids) ↔ Shows call uuid id := by
  rw [FavoritesCall.byUuid, mem_byUuid]
  constructor
  · rintro ⟨name, source, hmem, henabled, huuid⟩
    exact ⟨name, source, henabled, huuid, FavoriteCRUD.mem_get.1 hmem⟩
  · rintro ⟨name, source, henabled, huuid, hfavorite⟩
    exact ⟨name, source, FavoriteCRUD.mem_get.2 hfavorite, henabled, huuid⟩

/-- A source asked is one the manager has, and its ids are those the user
is to be shown of it. -/
theorem mem_sources {p : σ × List String} (h : p ∈ call.sources) :
    ∃ uuid, call.manager uuid = some p.1 ∧ ∀ id, id ∈ p.2 ↔ Shows call uuid id := by
  obtain ⟨⟨uuid, ids⟩, hentry, hp⟩ := List.mem_filterMap.1 h
  obtain ⟨source, hsource, rfl⟩ := Option.map_eq_some_iff.1 hp
  have hget : call.byUuid.get? uuid = some ids := Dict.get?_eq_some_iff.2 hentry
  refine ⟨uuid, hsource, fun id => ⟨fun hid => shows_iff.1 ⟨ids, hget, hid⟩, fun hid => ?_⟩⟩
  obtain ⟨ids', hget', hid'⟩ := shows_iff.2 hid
  rw [hget] at hget'
  exact Option.some.inj hget' ▸ hid'

/-- **The favorites a user is shown**, whatever other requests the service
has: what some of the sources asked listed, each asked once, for exactly
the ids of the user's own favorites of it, and nothing where it raised;
and, without a timeout, what every source listed that the user has a
favorite of, among the sources of the profile the manager has. -/
theorem favorites_answers (h : Run (ListStep lists workers) [] l requests)
    (hr : request ∈ requests) (ha : ListAnswered request call results) :
    ∃ asked : List ((σ × List String) × List ρ), results = asked.flatMap Prod.snd ∧
      (asked.map Prod.fst).Subperm call.sources ∧
      (∀ p ∈ asked, Listed lists p.1.1 p.1.2 call.args p.2 ∧
        ∃ uuid, call.manager uuid = some p.1.1 ∧ ∀ id, id ∈ p.1.2 ↔ Shows call uuid id) ∧
      (call.lookupTimeout = false → ∀ uuid id source, Shows call uuid id →
        call.manager uuid = some source → ∃ p ∈ asked, p.1.1 = source ∧ id ∈ p.1.2) := by
  obtain ⟨done, hcaller, rfl⟩ := ha
  obtain ⟨outcomes, rfl, hsub, hout, hall⟩ := wait_answered h hr hcaller
  obtain ⟨asked, hsnd, hsources, hasked, hperm⟩ :=
    exists_asked (g := fun task : ListTask σ => (task.source, task.ids)) (fun _ => rfl) hsub
  refine ⟨asked, ?_, hsources, fun p hp => ⟨hout _ (hasked p hp), ?_⟩, ?_⟩
  · rw [← hsnd, List.flatMap_def]
  · exact mem_sources (hsources.subset (List.mem_map_of_mem hp))
  · intro htimeout uuid id source hshows hsource
    obtain ⟨ids, hget, hid⟩ := shows_iff.2 hshows
    have hmem : (source, ids) ∈ call.sources :=
      List.mem_filterMap.2 ⟨(uuid, ids), Dict.get?_eq_some_iff.1 hget, by simp [hsource]⟩
    obtain ⟨p, hp, heq⟩ := List.mem_map.1 ((hperm (hall htimeout)).mem_iff.2 hmem)
    exact ⟨p, hp, by rw [heq], by rw [heq]; exact hid⟩

/-- A user with one favorite, of the one favorites source of a profile. -/
def oneFavorite : FavoritesCall ℕ where
  profile :=
    { name := "default"
      services := Dict.ofList [("favorites", [⟨"s", "csv", "people", "t"⟩])] }
  configured := by decide
  userUuid := "u"
  token := some "token"
  db :=
    { tenants := [⟨"t", none⟩], users := [⟨"u", "t"⟩]
      sources := [{ uuid := "s", rawName := "people", tenantUuid := "t", backend := "csv" }]
      favorites := [⟨"s", "1", "u"⟩] }
  rows := .asStored
  manager := fun _ => some 0
  lookupTimeout := false

/-- A source that lists the ids it is asked for. -/
def listsIds : Lists ℕ Unit String := fun _ ids _ answer => answer = .ok ids

/-- It is asked, its one source lists the contact, and it is answered. -/
theorem run_oneFavorite : Run (ListStep listsIds 1) []
    [.call, .move 0, .move 0, .move 0, .move 0, .move 0, .move 0]
    [⟨oneFavorite.tasks, [.finished ["1"]], (oneFavorite, .answered [["1"]])⟩] := by
  refine .cons (.call ⟨oneFavorite, rfl, rfl⟩) ?_
  refine .cons (.move (k := 0) rfl (.submit (by decide)) (by decide)) ?_
  refine .cons (.move (k := 0) rfl (.start (i := 0) rfl) (by decide)) ?_
  refine .cons (.move (k := 0) rfl (.finish (i := 0) rfl rfl ⟨_, rfl, rfl⟩) (by decide)) ?_
  refine .cons (.move (k := 0) rfl (.proceed rfl
    (WaitStep.allDone (by decide) (List.Perm.refl _))) (by decide)) ?_
  refine .cons (.move (k := 0) rfl (.proceed rfl (WaitStep.found rfl)) (by decide)) ?_
  exact .cons (.move (k := 0) rfl (.proceed rfl (WaitStep.answer (List.Perm.refl _)))
    (by decide)) (.nil _)

theorem favorites_answers_oneFavorite : ∃ asked : List ((ℕ × List String) × List String),
    ["1"] = asked.flatMap Prod.snd ∧ (asked.map Prod.fst).Subperm oneFavorite.sources ∧
      (∀ p ∈ asked, Listed listsIds p.1.1 p.1.2 oneFavorite.args p.2 ∧
        ∃ uuid, oneFavorite.manager uuid = some p.1.1 ∧
          ∀ id, id ∈ p.1.2 ↔ Shows oneFavorite uuid id) ∧
      (oneFavorite.lookupTimeout = false → ∀ uuid id source, Shows oneFavorite uuid id →
        oneFavorite.manager uuid = some source → ∃ p ∈ asked, p.1.1 = source ∧ id ∈ p.1.2) :=
  favorites_answers run_oneFavorite List.mem_cons_self ⟨_, rfl, rfl⟩

end FavoritesService

end WazoDird
