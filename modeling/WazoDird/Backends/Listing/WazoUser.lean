import WazoDird.Backends.WazoUser
import WazoDird.Common.Listing

/-!
# Listing users by their ids

The lookups of the Wazo user backend from what confd answers, where any key
may be missing. A listing compares the id that a result shows, after its
columns are formatted; the id it is known by is read before.
-/

namespace WazoDird

/-! ## Reading a user -/

/-- `_valid_keys`. -/
def validKeys : List String := "id" :: ConfdUser.textColumns

/-- A fragment of a full name, which has to be text. -/
def fragment : Value → Except PyError String
  | .str name => .ok name
  | _ => .error .typeError

/-- `' '.join(...)`, of the names that are not empty. -/
def joinNames (names : List Value) : Except PyError String := do
  return " ".intercalate (← (names.filter Value.truthy).mapM fragment)

/-- The columns of a user, none where it has none. -/
def userColumns (user : Fields) : Fields :=
  Dict.ofList (validKeys.map fun key => (key, (user.get? key).getD .none))

/-- The fields that `_source_result_from_entry` makes of a user. -/
def readUser (user : Fields) : Except PyError Fields := do
  let fields := userColumns user
  let fullname ← joinNames [fields.getOr "firstname", fields.getOr "lastname"]
  return fields.set "full_name" (.str fullname)

/-- The keys of a user that have to be there. -/
def neededKeys : List String := ["agent_id", "id", "uuid", "line_id"]

/-- **A user that can be read**: it has an id, a uuid, an agent and a line,
if none, and its names are text, if any. -/
structure ReadableUser (user : Fields) : Prop where
  keys : ∀ key ∈ neededKeys, key ∈ user.keys
  names : ∀ column ∈ ["firstname", "lastname"], ∀ v, user.get? column = some v →
    v.truthy = true → ∃ name, v = .str name

/-- What confd answers: its uuid, and the users for the parameters of a
search, none when the request fails. -/
structure ConfdAnswers where
  uuid : Option String
  users : Fields → Option (List Fields)

theorem fragment_eq_ok {v : Value} {name : String} : fragment v = .ok name ↔ v = .str name := by
  cases v <;> simp [fragment]

/-- Names can be joined when they are text, if any. -/
theorem exists_joinNames_iff {names : List Value} :
    (∃ fullname, joinNames names = .ok fullname) ↔
      ∀ v ∈ names, v.truthy = true → ∃ name, v = .str name := by
  simp only [joinNames, bind_eq_ok]
  constructor
  · rintro ⟨fullname, fragments, hfragments, -⟩ v hv htruthy
    obtain ⟨name, hname⟩ := exists_mapM_eq_ok.1 ⟨fragments, hfragments⟩ v
      (List.mem_filter.2 ⟨hv, htruthy⟩)
    exact ⟨name, fragment_eq_ok.1 hname⟩
  · intro hall
    have htext : ∀ v ∈ names.filter Value.truthy, ∃ name, fragment v = .ok name := by
      intro v hv
      obtain ⟨hv, htruthy⟩ := List.mem_filter.1 hv
      obtain ⟨name, hname⟩ := hall v hv htruthy
      exact ⟨name, fragment_eq_ok.2 hname⟩
    obtain ⟨fragments, hfragments⟩ := exists_mapM_eq_ok.2 htext
    exact ⟨_, fragments, hfragments, rfl⟩

theorem keys_userColumns (user : Fields) : (userColumns user).keys = validKeys := by
  have hkeys : (validKeys.map fun key => (key, (user.get? key).getD .none)).map Prod.fst =
      validKeys := by
    simp [List.map_map, Function.comp_def]
  rw [userColumns, Dict.keys_ofList_of_nodup]
  · exact hkeys
  · rw [hkeys]
    decide

/-- A column is read as it is, none when it is not there. -/
theorem get?_userColumns {user : Fields} {key : String} (hkey : key ∈ validKeys) :
    (userColumns user).get? key = some ((user.get? key).getD .none) := by
  refine (Dict.get?_ofList_eq_some_iff fun k v v' hv hv' => ?_).2 (List.mem_map_of_mem hkey)
  simp only [List.mem_map, Prod.mk.injEq] at hv hv'
  obtain ⟨key', -, rfl, rfl⟩ := hv
  obtain ⟨key'', -, rfl, rfl⟩ := hv'
  rfl

/-- **The fields of a user that is read**: the columns, and the full name. -/
theorem of_readUser {user fields : Fields} (h : readUser user = .ok fields) :
    fields.keys = validKeys ++ ["full_name"] ∧
      fields.get? "id" = some ((user.get? "id").getD .none) := by
  obtain ⟨fullname, -, h⟩ := bind_eq_ok.1 h
  cases h
  constructor
  · rw [Dict.keys_set_of_not_mem, keys_userColumns]
    rw [keys_userColumns]
    decide
  · rw [Dict.get?_set_of_ne _ _ (by decide)]
    exact get?_userColumns (by decide)

/-- A name is joined as it is, when it is not empty. -/
theorem truthy_or_text {v : Value} :
    ((v.or (.str "")).truthy = true → ∃ name, v.or (.str "") = .str name) ↔
      (v.truthy = true → ∃ name, v = .str name) := by
  rw [Value.or]
  split
  · exact Iff.rfl
  · next h => exact iff_of_true (fun _ => ⟨"", rfl⟩) fun htruthy => absurd htruthy h

/-- When the columns of a user can be read. -/
theorem exists_readUser_iff {user : Fields} :
    (∃ fields, readUser user = .ok fields) ↔ ∀ column ∈ ["firstname", "lastname"], ∀ v,
      user.get? column = some v → v.truthy = true → ∃ name, v = .str name := by
  have hread : (∃ fields, readUser user = .ok fields) ↔
      ∃ fullname, joinNames [(userColumns user).getOr "firstname",
        (userColumns user).getOr "lastname"] = .ok fullname := by
    simp only [readUser, bind_eq_ok]
    constructor
    · rintro ⟨fields, fullname, hfullname, -⟩
      exact ⟨fullname, hfullname⟩
    · rintro ⟨fullname, hfullname⟩
      exact ⟨_, fullname, hfullname, rfl⟩
  have hcolumn : ∀ column ∈ validKeys,
      (((userColumns user).getOr column).truthy = true →
        ∃ name, (userColumns user).getOr column = .str name) ↔
      ∀ v, user.get? column = some v → v.truthy = true → ∃ name, v = .str name := by
    intro column hcolumn
    rw [Fields.getOr, get?_userColumns hcolumn, Option.getD_some, truthy_or_text]
    cases user.get? column with
    | none => exact iff_of_true (fun h => by cases h) fun v h => by cases h
    | some v => simp
  rw [hread, exists_joinNames_iff]
  simp only [List.forall_mem_cons, List.not_mem_nil, false_implies, implies_true, and_true]
  rw [hcolumn "firstname" (by decide), hcolumn "lastname" (by decide)]

namespace ConfdUser

/-- The keys of a user that confd answers, and their values. -/
def answerEntries (user : ConfdUser) : List (String × Value) :=
  [("id", .int user.id), ("uuid", .str user.uuid), ("agent_id", user.agentId.elim .none .int),
    ("line_id", user.lineId.elim .none .int)] ++
      textColumns.map fun column => (column, (user.column column).elim .none .str)

/-- A user, as confd answers it. -/
def answer (user : ConfdUser) : Fields := Dict.ofList user.answerEntries

variable {user : ConfdUser}

/-- A user answers each of its keys. -/
theorem get?_answer {key : String} {v : Value} (h : (key, v) ∈ user.answerEntries) :
    user.answer.get? key = some v := by
  have hnodup : (user.answerEntries.map Prod.fst).Nodup := by
    rw [answerEntries, List.map_append, List.map_map]
    simp only [List.map_cons, List.map_nil, Function.comp_def, List.map_id']
    decide
  exact (Dict.get?_ofList_eq_some_iff fun k v v' => Dict.eq_of_nodup_keys hnodup).2 h

theorem get?_answer_column {column : String} (hcolumn : column ∈ textColumns) :
    user.answer.get? column = some ((user.column column).elim .none .str) :=
  get?_answer (List.mem_append_right _ (List.mem_map.2 ⟨column, hcolumn, rfl⟩))

end ConfdUser

/-- Names that are text are joined, but the empty ones. -/
theorem joinNames_map (names : List (Option String)) :
    joinNames (names.map fun name => (name.elim .none Value.str).or (.str "")) =
      .ok (" ".intercalate ((names.map (·.getD "")).filter (· ≠ ""))) := by
  have hnames : (names.map fun name => (name.elim .none Value.str).or (.str "")).filter
      Value.truthy = ((names.map (·.getD "")).filter (· ≠ "")).map Value.str := by
    induction names with
    | nil => rfl
    | cons name names ih =>
      rw [List.map_cons, List.map_cons]
      cases name with
      | none => exact ih
      | some name =>
        by_cases hname : name = ""
        · subst hname
          exact ih
        · have htruthy : (Value.str name).truthy = true := by simp [Value.truthy, hname]
          have hor : ((some name).elim Value.none Value.str).or (.str "") = .str name :=
            if_pos htruthy
          rw [hor, List.filter_cons_of_pos htruthy, ih, Option.getD_some,
            List.filter_cons_of_pos (by simpa using hname), List.map_cons]
  rw [joinNames, hnames, mapM_map_eq_ok (g := Value.str) fun _ => rfl]
  rfl

/-- The columns of a user are what it answers under them. -/
theorem userColumns_answer (user : ConfdUser) : userColumns user.answer =
    Dict.ofList (("id", .int user.id) ::
      ConfdUser.textColumns.map fun column => (column, (user.column column).elim .none .str)) := by
  have hid : user.answer.get? "id" = some (.int user.id) :=
    ConfdUser.get?_answer (List.mem_append_left _ (by simp))
  have hcolumns : ConfdUser.textColumns.map (fun key => (key, (user.answer.get? key).getD .none)) =
      ConfdUser.textColumns.map fun column => (column, (user.column column).elim .none .str) := by
    refine List.map_congr_left fun column hcolumn => ?_
    rw [ConfdUser.get?_answer_column hcolumn, Option.getD_some]
  rw [userColumns, validKeys, List.map_cons, hid, hcolumns, Option.getD_some]

/-- **What is read of a user is its fields.** -/
theorem readUser_answer (user : ConfdUser) : readUser user.answer = .ok user.fields := by
  have hname : ∀ column ∈ ConfdUser.textColumns, (userColumns user.answer).getOr column =
      ((user.column column).elim .none Value.str).or (.str "") := by
    intro column hcolumn
    rw [Fields.getOr, get?_userColumns (List.mem_cons_of_mem _ hcolumn), Option.getD_some,
      ConfdUser.get?_answer_column hcolumn, Option.getD_some]
  have hjoin : joinNames [(userColumns user.answer).getOr "firstname",
      (userColumns user.answer).getOr "lastname"] = .ok user.fullName := by
    rw [hname "firstname" (by decide), hname "lastname" (by decide)]
    exact joinNames_map [user.firstname, user.lastname]
  have hfields : user.fields = (userColumns user.answer).set "full_name" (.str user.fullName) := by
    rw [userColumns_answer, ConfdUser.fields, Dict.ofList, Dict.ofList, Dict.setAll_append]
    rfl
  rw [readUser, hjoin, hfields]
  rfl

/-- What confd answers, of users with all their keys. -/
def ConfdClient.answers (client : ConfdClient) : ConfdAnswers where
  uuid := client.uuid
  users params := (client.users params).map (·.map ConfdUser.answer)

namespace WazoUserPlugin

variable (py : TextOps) (unidecode : String → String) (client : ConfdAnswers)
  (plugin : WazoUserPlugin)

/-- `_source_result_from_entry`, of what confd answers. -/
def resultFrom (uuid : String) (user : Fields) : Except PyError SourceResult := do
  let fields ← readUser user
  let agentId ← user.item "agent_id"
  let userId ← user.item "id"
  let userUuid ← user.item "uuid"
  let endpointId ← user.item "line_id"
  plugin.sourceResult.make py fields {
    xivoId := .str uuid
    agentId := agentId
    userId := userId
    userUuid := userUuid
    endpointId := endpointId }

/-- `_fetch_users`, of what confd answers. -/
def usersFrom (term : String) : List Fields :=
  (client.users (if term = "" then plugin.searchParams
    else plugin.searchParams.set "search" (.str term))).getD []

/-- `_fetch_entries`, of what confd answers. -/
def entriesFrom (term : String) : List (Except PyError SourceResult) :=
  match client.uuid with
  | none => []
  | some uuid => (plugin.usersFrom client term).map (plugin.resultFrom py uuid)

/-- `match_fn` of `search`, by some searched columns. -/
def showsPart (searchedColumns : List String) (cleanTerm : String) (entry : SourceResult) : Bool :=
  searchedColumns.any fun column =>
    inText cleanTerm (unidecode (py.lower (py.str (entry.fields.getOr column))))

/-- `search`, in what confd answers. -/
def searchFrom (searchedColumns : List String) (term : String) :
    Except PyError (List SourceResult) :=
  Listing.lazily id
    (fun entry => .ok (showsPart py unidecode searchedColumns (unidecode (py.lower term)) entry))
    .ok (plugin.entriesFrom py client term)

/-- `first_match`, in what confd answers. -/
def firstMatchFrom (term : String) : Except PyError (Option SourceResult) :=
  Scan.first (fun entry => do return plugin.showsTerm term (← entry)) id
    (plugin.entriesFrom py client term)

/-- `list`, in what confd answers. The id is read where the result shows
it. -/
def listFrom (uniqueIds : List String) : Except PyError (List SourceResult) :=
  Listing.lazily id
    (fun entry => .ok ((plugin.sourceResult.getUnique py entry.fields).any (· ∈ uniqueIds)))
    .ok (plugin.entriesFrom py client "")

/-- A user with all its keys makes the same result. -/
theorem resultFrom_answer (uuid : String) (user : ConfdUser) :
    plugin.resultFrom py uuid user.answer = plugin.sourceResultFromEntry py uuid user := by
  have hagent : user.answer.item "agent_id" = .ok (user.agentId.elim .none .int) :=
    Fields.item_eq_ok.2 (ConfdUser.get?_answer (List.mem_append_left _ (by simp)))
  have hid : user.answer.item "id" = .ok (.int user.id) :=
    Fields.item_eq_ok.2 (ConfdUser.get?_answer (List.mem_append_left _ (by simp)))
  have huuid : user.answer.item "uuid" = .ok (.str user.uuid) :=
    Fields.item_eq_ok.2 (ConfdUser.get?_answer (List.mem_append_left _ (by simp)))
  have hline : user.answer.item "line_id" = .ok (user.lineId.elim .none .int) :=
    Fields.item_eq_ok.2 (ConfdUser.get?_answer (List.mem_append_left _ (by simp)))
  rw [resultFrom, readUser_answer, hagent, hid, huuid, hline]
  rfl

theorem usersFrom_answers (client : ConfdClient) (term : String) :
    plugin.usersFrom client.answers term =
      ((plugin.fetchUsers client term "search").getD []).map ConfdUser.answer := by
  rw [fetchUsers]
  change ((client.users _).map (·.map ConfdUser.answer)).getD [] = _
  cases client.users (if term = "" then plugin.searchParams
    else plugin.searchParams.set "search" (.str term)) <;> rfl

/-- Of users with all their keys, the entries are those of the users. -/
theorem entriesFrom_answers (client : ConfdClient) (term : String) :
    plugin.entriesFrom py client.answers term = plugin.fetchEntries py client term := by
  rw [entriesFrom, fetchEntries, usersFrom_answers]
  cases h : client.uuid with
  | none => simp [ConfdClient.answers, h]
  | some uuid =>
    simp only [ConfdClient.answers, h, List.map_map]
    exact List.map_congr_left fun user _ => plugin.resultFrom_answer py uuid user

/-- So the first match is that of the users. -/
theorem firstMatchFrom_answers (client : ConfdClient) (term : String) :
    plugin.firstMatchFrom py client.answers term = plugin.firstMatch py client term := by
  rw [firstMatchFrom, firstMatch, entriesFrom_answers]

/-! ## What is found is listed back -/

section Listed

variable {py : TextOps} {unidecode : String → String} {client : ConfdAnswers}
  {plugin : WazoUserPlugin} {uuid : String} {user : Fields}

/-- What an entry is compared by. -/
def compared (py : TextOps) (cls : ResultClass) (entry : Except PyError SourceResult) :
    Except PyError (Option String) := do
  return cls.getUnique py (← entry).fields

/-- An entry is kept when it is asked for. -/
theorem requested_compared {cls : ResultClass} {ids : List String} :
    Listing.requested (compared py cls) ids = fun entry => id entry >>= fun entry =>
      .ok ((cls.getUnique py entry.fields).any (· ∈ ids)) := by
  funext entry
  cases entry <;> rfl

/-- An entry can be compared when it is built. -/
theorem exists_compared_iff {cls : ResultClass} {entry : Except PyError SourceResult} :
    (∃ k, compared py cls entry = .ok k) ↔ ∃ r, entry = .ok r := by
  cases entry with
  | error e => exact iff_of_false (fun ⟨k, hk⟩ => by cases hk) fun ⟨r, hr⟩ => by cases hr
  | ok r => exact iff_of_true ⟨_, rfl⟩ ⟨r, rfl⟩

/-- An entry is compared by the id that it shows. -/
theorem compared_eq_ok {cls : ResultClass} {r : SourceResult} {s : String} :
    compared py cls (.ok r) = .ok (some s) ↔ cls.getUnique py r.fields = some s :=
  ⟨Except.ok.inj, congrArg Except.ok⟩

/-- **When a user makes a result**: it can be read, and the columns can be
formatted. -/
theorem exists_resultFrom_iff :
    (∃ r, plugin.resultFrom py uuid user = .ok r) ↔ ReadableUser user ∧
      CanFormat plugin.sourceResult.formatColumns.keys (validKeys ++ ["full_name"]) := by
  simp only [resultFrom, bind_eq_ok]
  constructor
  · rintro ⟨r, fields, hread, agent, hagent, id, hid, uuid, huuid, line, hline, hmake⟩
    rw [← (of_readUser hread).1]
    refine ⟨⟨?_, exists_readUser_iff.1 ⟨fields, hread⟩⟩,
      (ResultClass.exists_make_iff py).1 ⟨r, hmake⟩⟩
    simp only [neededKeys, List.forall_mem_cons, ← Fields.exists_item_iff]
    exact ⟨⟨agent, hagent⟩, ⟨id, hid⟩, ⟨uuid, huuid⟩, ⟨line, hline⟩, by simp⟩
  · rintro ⟨⟨hkeys, hnames⟩, hformat⟩
    simp only [neededKeys, List.forall_mem_cons, ← Fields.exists_item_iff] at hkeys
    obtain ⟨⟨agent, hagent⟩, ⟨id, hid⟩, ⟨uuid, huuid⟩, ⟨line, hline⟩, -⟩ := hkeys
    obtain ⟨fields, hread⟩ := exists_readUser_iff.2 hnames
    rw [← (of_readUser hread).1] at hformat
    obtain ⟨r, hmake⟩ := (ResultClass.exists_make_iff py).2 hformat
    exact ⟨r, fields, hread, agent, hagent, id, hid, uuid, huuid, line, hline, hmake⟩

/-- The columns of a user keep the text of its id. -/
def KeepsId (py : TextOps) (formatColumns : Dict String String) (user : Fields) : Prop :=
  ∀ fields formatted, readUser user = .ok fields →
    addFormattedColumns py formatColumns fields = .ok formatted →
      (formatted.get? "id").map py.str = (fields.get? "id").map py.str

/-- What a user's result is made of. -/
theorem of_resultFrom {r : SourceResult} (hunique : plugin.sourceResult.uniqueColumn = some "id")
    (hr : plugin.resultFrom py uuid user = .ok r) :
    ∃ fields, readUser user = .ok fields ∧
      addFormattedColumns py plugin.sourceResult.formatColumns fields = .ok r.fields ∧
      plugin.sourceResult.getUnique py r.fields = (r.fields.get? "id").map py.str ∧
      r.relations.sourceEntryId = (fields.get? "id").map py.str := by
  have hget : ∀ fields : Fields, plugin.sourceResult.getUnique py fields =
      (fields.get? "id").map py.str := by
    intro fields
    simp [ResultClass.getUnique, hunique]
  simp only [resultFrom, bind_eq_ok] at hr
  obtain ⟨fields, hread, agent, -, id, -, uuid, -, line, -, hmake⟩ := hr
  refine ⟨fields, hread, ?_, hget r.fields, ?_⟩
  · obtain ⟨formatted, hformatted, hr⟩ := bind_eq_ok.1 hmake
    cases hr
    exact hformatted
  · rw [ResultClass.entryId_of_make py hmake, hget]

/-- Whether a result shows the id that it is known by. -/
theorem keepsId_iff {r : SourceResult} (hunique : plugin.sourceResult.uniqueColumn = some "id")
    (hr : plugin.resultFrom py uuid user = .ok r) :
    KeepsId py plugin.sourceResult.formatColumns user ↔
      plugin.sourceResult.getUnique py r.fields = r.relations.sourceEntryId := by
  obtain ⟨fields, hread, hformatted, hshown, hid⟩ := of_resultFrom hunique hr
  rw [hshown, hid]
  constructor
  · exact fun hkeeps => hkeeps fields r.fields hread hformatted
  · intro hshows fields' formatted' hread' hformatted'
    obtain rfl := Except.ok.inj (hread.symm.trans hread')
    obtain rfl := Except.ok.inj (hformatted.symm.trans hformatted')
    exact hshows

/-- A result of a user shows some id. -/
theorem exists_getUnique {r : SourceResult} (hunique : plugin.sourceResult.uniqueColumn = some "id")
    (hr : plugin.resultFrom py uuid user = .ok r) :
    ∃ s, plugin.sourceResult.getUnique py r.fields = some s := by
  obtain ⟨fields, hread, hformatted, hshown, -⟩ := of_resultFrom hunique hr
  have hid : "id" ∈ r.fields.keys := by
    refine mem_keys_addFormattedColumns py hformatted ?_
    rw [(of_readUser hread).1]
    decide
  obtain ⟨v, hv⟩ := Option.isSome_iff_exists.1 (Dict.mem_keys_iff.1 hid)
  exact ⟨py.str v, by rw [hshown, hv]; rfl⟩

/-- And it is known by some id. -/
theorem exists_entryId {r : SourceResult} (hunique : plugin.sourceResult.uniqueColumn = some "id")
    (hr : plugin.resultFrom py uuid user = .ok r) : ∃ s, r.relations.sourceEntryId = some s := by
  obtain ⟨fields, hread, -, -, hid⟩ := of_resultFrom hunique hr
  rw [(of_readUser hread).2] at hid
  exact ⟨_, hid⟩

/-- A listing is a selection of the entries. -/
theorem selects_listFrom (ids : List String) :
    Listing.Selects (Listing.requested (compared py plugin.sourceResult) ids) id
      (plugin.entriesFrom py client "") (plugin.listFrom py client ids) := by
  have hmake : (fun entry : Except PyError SourceResult => id entry >>= Except.ok) = id := by
    funext entry
    cases entry <;> rfl
  have hselects : Listing.Selects
      (fun entry => id entry >>= fun r =>
        .ok ((plugin.sourceResult.getUnique py r.fields).any (· ∈ ids)))
      (fun entry => id entry >>= .ok) (plugin.entriesFrom py client "")
      (plugin.listFrom py client ids) := Listing.selects_lazily
  rwa [hmake, ← requested_compared] at hselects

/-- The entries of a listing are the results of the users. -/
theorem mem_entriesFrom {term : String} {entry : Except PyError SourceResult} :
    entry ∈ plugin.entriesFrom py client term ↔ ∃ uuid, client.uuid = some uuid ∧
      ∃ user ∈ plugin.usersFrom client term, plugin.resultFrom py uuid user = entry := by
  rw [entriesFrom]
  cases client.uuid with
  | none => simp
  | some uuid => simp

/-- What is found is the entry of a user that a term asks for. -/
theorem mem_entriesFrom_of_found {searchedColumns : List String} {r : SourceResult}
    (h : Listing.Found (plugin.searchFrom py unidecode client searchedColumns)
      (plugin.firstMatchFrom py client) r) :
    ∃ term, .ok r ∈ plugin.entriesFrom py client term := by
  rcases h with ⟨term, rs, h, hr⟩ | ⟨term, h⟩
  · obtain ⟨entry, hentry, hmake⟩ := Listing.selects_lazily.exists_mem h hr
    obtain ⟨r', rfl, hr'⟩ := bind_eq_ok.1 hmake
    cases hr'
    exact ⟨term, hentry⟩
  · obtain ⟨entry, hentry, rfl⟩ := Scan.exists_mem_of_first h
    exact ⟨term, hentry⟩

/-- **A user is reached**, with the uuid of the server: confd answers it to
a term, which its result shows, and results can be made of all that it
answers to it; or it is the first of them to show it in a first-matched
column. -/
def Reached (py : TextOps) (unidecode : String → String) (plugin : WazoUserPlugin)
    (client : ConfdAnswers) (searchedColumns : List String) (uuid : String) (user : Fields) :
    Prop :=
  Listing.Reached (plugin.usersFrom client) (plugin.usersFrom client)
    (fun term user => do
      return showsPart py unidecode searchedColumns (unidecode (py.lower term))
        (← plugin.resultFrom py uuid user))
    (fun term user => do return plugin.showsTerm term (← plugin.resultFrom py uuid user))
    (plugin.resultFrom py uuid) user

/-- What is found is made of the users that are reached. -/
theorem found_iff {searchedColumns : List String} {r : SourceResult}
    (huuid : client.uuid = some uuid) :
    Listing.Found (plugin.searchFrom py unidecode client searchedColumns)
        (plugin.firstMatchFrom py client) r ↔
      ∃ user, Reached py unidecode plugin client searchedColumns uuid user ∧
        plugin.resultFrom py uuid user = .ok r := by
  have hentries : ∀ term, plugin.entriesFrom py client term =
      (plugin.usersFrom client term).map (plugin.resultFrom py uuid) := by
    intro term
    rw [entriesFrom, huuid]
  have hmake : (fun user => plugin.resultFrom py uuid user >>= Except.ok) =
      plugin.resultFrom py uuid := by
    funext user
    cases plugin.resultFrom py uuid user <;> rfl
  refine Listing.found_iff_reached (fun term => ?_) fun term => ?_
  · rw [searchFrom, hentries, Listing.lazily_map]
    have hselects := @Listing.selects_lazily _ _ _ _ (plugin.resultFrom py uuid) (fun entry => .ok
      (showsPart py unidecode searchedColumns (unidecode (py.lower term)) entry)) .ok
      (plugin.usersFrom client term)
    rwa [hmake] at hselects
  · rw [firstMatchFrom, hentries, Scan.first_map]
    rfl

/-- **When a Wazo source lists back what it finds**: every user it lists
makes a result, which shows the text of its id; and what is reached makes
the result of one that is listed. -/
theorem listsBack_iff {searchedColumns : List String}
    (hunique : plugin.sourceResult.uniqueColumn = some "id") :
    Listing.ListsBack
        (Listing.Found (plugin.searchFrom py unidecode client searchedColumns)
          (plugin.firstMatchFrom py client))
        (·.relations.sourceEntryId) (plugin.listFrom py client)
        (compared py plugin.sourceResult) id (plugin.entriesFrom py client "") ↔
      ∀ uuid, client.uuid = some uuid →
        (∀ user ∈ plugin.usersFrom client "", ReadableUser user ∧
          CanFormat plugin.sourceResult.formatColumns.keys (validKeys ++ ["full_name"]) ∧
          KeepsId py plugin.sourceResult.formatColumns user) ∧
        ∀ user, Reached py unidecode plugin client searchedColumns uuid user →
          ∃ listed ∈ plugin.usersFrom client "",
            plugin.resultFrom py uuid listed = plugin.resultFrom py uuid user := by
  rw [Listing.listsBack_iff selects_listFrom]
  constructor
  · rintro ⟨hall, honly, hback⟩ uuid huuid
    refine ⟨fun user huser => ?_, fun user hreached => ?_⟩
    · have hentry : plugin.resultFrom py uuid user ∈ plugin.entriesFrom py client "" :=
        mem_entriesFrom.2 ⟨uuid, huuid, user, huser, rfl⟩
      obtain ⟨r, hr⟩ := exists_compared_iff.1 (hall _ hentry)
      obtain ⟨hread, hformat⟩ := exists_resultFrom_iff.1 ⟨r, hr⟩
      refine ⟨hread, hformat, (keepsId_iff hunique hr).2 ?_⟩
      obtain ⟨s, hs⟩ := exists_getUnique hunique hr
      rw [hr] at hentry
      rw [hs, honly s (fun entry _ hk => exists_compared_iff.1 ⟨_, hk⟩) _ hentry
        (compared_eq_ok.2 hs) r rfl]
    · obtain ⟨r, hr⟩ := hreached.exists_make
      obtain ⟨s, hs⟩ := exists_entryId hunique hr
      obtain ⟨-, entry, hentry, -, rfl⟩ := hback r s ((found_iff huuid).2 ⟨user, hreached, hr⟩) hs
      obtain ⟨uuid', huuid', listed, hlisted, hsame⟩ := mem_entriesFrom.1 hentry
      obtain rfl := Option.some.inj (huuid.symm.trans huuid')
      exact ⟨listed, hlisted, hsame.trans hr.symm⟩
  · intro hcond
    have hbuilt : ∀ entry ∈ plugin.entriesFrom py client "", ∃ r, entry = .ok r ∧
        plugin.sourceResult.getUnique py r.fields = r.relations.sourceEntryId := by
      intro entry hmem
      obtain ⟨uuid, huuid, user, huser, rfl⟩ := mem_entriesFrom.1 hmem
      obtain ⟨hread, hformat, hkeeps⟩ := (hcond uuid huuid).1 user huser
      obtain ⟨r, hr⟩ := exists_resultFrom_iff.2 ⟨hread, hformat⟩
      exact ⟨r, hr, (keepsId_iff hunique hr).1 hkeeps⟩
    have hsame : ∀ r, .ok r ∈ plugin.entriesFrom py client "" →
        plugin.sourceResult.getUnique py r.fields = r.relations.sourceEntryId := by
      intro r hmem
      obtain ⟨r', hr', hshows⟩ := hbuilt _ hmem
      cases hr'
      exact hshows
    refine ⟨fun entry hmem => ?_, fun s _ entry hmem hk r hr => ?_, fun r s hfound hs => ?_⟩
    · obtain ⟨r, hr, -⟩ := hbuilt entry hmem
      exact exists_compared_iff.2 ⟨r, hr⟩
    · obtain rfl : entry = .ok r := hr
      rw [← hsame r hmem]
      exact compared_eq_ok.1 hk
    · -- what is found comes from the server of that uuid
      obtain ⟨uuid, huuid⟩ : ∃ uuid, client.uuid = some uuid := by
        obtain ⟨term, hmem⟩ := mem_entriesFrom_of_found hfound
        exact (mem_entriesFrom.1 hmem).imp fun uuid h => h.1
      obtain ⟨user, hreached, hr⟩ := (found_iff huuid).1 hfound
      obtain ⟨listed, hlisted, hresult⟩ := (hcond uuid huuid).2 user hreached
      have hmem : .ok r ∈ plugin.entriesFrom py client "" :=
        mem_entriesFrom.2 ⟨uuid, huuid, listed, hlisted, hresult.trans hr⟩
      refine ⟨fun entry _ hk => exists_compared_iff.1 ⟨_, hk⟩, _, hmem, compared_eq_ok.2 ?_, rfl⟩
      rw [hsame r hmem, hs]

end Listed

end WazoUserPlugin

end WazoDird
