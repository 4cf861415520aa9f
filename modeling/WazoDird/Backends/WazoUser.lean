import WazoDird.Backends.SourceResult
import WazoDird.Common.Scan

/-!
# The Wazo user backend

`plugins/wazo_user_backend/plugin.py`. The users are asked of confd, by a
search or by the value of one column. A batch is looked up by one query a
column (`matchAllByColumn`), or term by term when a column cannot be asked
for or the terms are fewer than the columns (`matchAllByTerm`).
-/

namespace WazoDird

/-- A user of confd's directory view, the keys that the backend reads. -/
structure ConfdUser where
  id : Int
  uuid : String
  agentId : Option Int := none
  lineId : Option Int := none
  exten : Option String := none
  firstname : Option String := none
  lastname : Option String := none
  userfield : Option String := none
  email : Option String := none
  description : Option String := none
  mobilePhoneNumber : Option String := none
  voicemailNumber : Option String := none
  deriving DecidableEq, Repr

namespace ConfdUser

/-- The text of a column. -/
def column (user : ConfdUser) : String → Option String
  | "exten" => user.exten
  | "firstname" => user.firstname
  | "lastname" => user.lastname
  | "userfield" => user.userfield
  | "email" => user.email
  | "description" => user.description
  | "mobile_phone_number" => user.mobilePhoneNumber
  | "voicemail_number" => user.voicemailNumber
  | _ => none

/-- The columns of a user that hold a text, of `_valid_keys`. -/
def textColumns : List String :=
  ["exten", "firstname", "lastname", "userfield", "email", "description", "mobile_phone_number",
    "voicemail_number"]

/-- `full_name`: the names that are not empty, with a blank between. -/
def fullName (user : ConfdUser) : String :=
  " ".intercalate ([user.firstname.getD "", user.lastname.getD ""].filter (· ≠ ""))

/-- The fields of a user: its columns, and its full name. -/
def fields (user : ConfdUser) : Fields :=
  Dict.ofList (("id", .int user.id) ::
    textColumns.map (fun column => (column, (user.column column).elim .none .str)) ++
      [("full_name", .str user.fullName)])

end ConfdUser

/-- A confd client: the uuid of its server, and what it lists for the
parameters of a search, none when the request fails. -/
structure ConfdClient where
  uuid : Option String
  users : Fields → Option (List ConfdUser)

/-- `WazoUserPlugin`. -/
structure WazoUserPlugin where
  name : String
  firstMatchedColumns : List String
  sourceResult : ResultClass
  searchParams : Fields

namespace WazoUserPlugin

/-- `_match_all_supported_columns`. -/
def matchAllSupportedColumns : List String := ["exten", "mobile_phone_number"]

/-- `load`. -/
def load (name : String) (firstMatchedColumns : List String)
    (formatColumns : Option (Dict String String)) (extraSearchParams : Fields) :
    WazoUserPlugin where
  name := name
  firstMatchedColumns := firstMatchedColumns
  sourceResult := makeResultClass "wazo" name (some "id") formatColumns
  searchParams :=
    (Dict.ofList [("view", .str "directory"), ("recurse", .bool true)]).update extraSearchParams

variable (py : TextOps) (client : ConfdClient) (plugin : WazoUserPlugin)

/-- `_source_result_from_entry`. -/
def sourceResultFromEntry (uuid : String) (user : ConfdUser) : Except PyError SourceResult :=
  plugin.sourceResult.make py user.fields {
    xivoId := .str uuid
    agentId := user.agentId.elim .none .int
    userId := .int user.id
    userUuid := .str user.uuid
    endpointId := user.lineId.elim .none .int }

/-- `_fetch_users`: an empty term is not searched for. -/
def fetchUsers (term column : String) : Option (List ConfdUser) :=
  client.users (if term = "" then plugin.searchParams
    else plugin.searchParams.set column (.str term))

/-- `_fetch_entries`, each built when a loop comes to it. A request that
fails gives none. -/
def fetchEntries (term : String) (column : String := "search") :
    List (Except PyError SourceResult) :=
  match client.uuid with
  | none => []
  | some uuid =>
    ((plugin.fetchUsers client term column).getD []).map (plugin.sourceResultFromEntry py uuid)

/-- `match_fn` of `first_match`. -/
def showsTerm (term : String) (entry : SourceResult) : Bool :=
  plugin.firstMatchedColumns.any fun column => entry.fields.get? column = some (.str term)

/-- `first_match`. -/
def firstMatch (term : String) : Except PyError (Option SourceResult) :=
  Scan.first (fun entry => do return plugin.showsTerm term (← entry)) id
    (plugin.fetchEntries py client term)

/-- The fallback of `match_all`. -/
def matchAllByTerm (terms : List String) : Except PyError (Dict String SourceResult) :=
  Scan.oneByOne (plugin.firstMatch py client) terms

/-- The queries by column of `match_all`. -/
def matchAllByColumn (terms : List String) : Except PyError (Dict String SourceResult) :=
  plugin.firstMatchedColumns.foldlM (fun results column =>
    (plugin.fetchEntries py client (",".intercalate terms) column).foldlM (fun results entry => do
      return keep terms column results (← entry)) results) ∅

/-- `match_all`. -/
def matchAll (terms : List String) : Except PyError (Dict String SourceResult) :=
  let supported := plugin.firstMatchedColumns.all (· ∈ matchAllSupportedColumns)
  let firstMatchFaster := terms.length < plugin.firstMatchedColumns.length
  if !supported || firstMatchFaster then plugin.matchAllByTerm py client terms
  else plugin.matchAllByColumn py client terms

end WazoUserPlugin

end WazoDird
