import WazoDird.Backends.Csv
import WazoDird.Backends.Listing.Conference
import WazoDird.Backends.Listing.Google
import WazoDird.Backends.Listing.Office365
import WazoDird.Backends.Listing.WazoUser

/-!
# What is found is listed back

The backends that compare ids themselves, over what their sources answer:
whatever a search or a first match finds can be listed again by its id, a
listing gives nothing else, and no other row makes it raise
(`ClientFiltered.ListsBack`). This holds under a condition on the source
and its rows, one for each backend (`ClientFiltered.Listable`).
-/

namespace WazoDird

/-- **A source of a backend that filters by itself**: its configuration,
and what it reads. -/
inductive ClientFiltered where
  | csv (config : CSVConfig) (file : CsvText)
  | csvWs (config : CSVWSConfig) (service : CsvService)
  | wazo (name : String) (searchedColumns firstMatchedColumns : List String)
      (formatColumns : Option (Dict String String)) (extraSearchParams : Fields)
      (client : ConfdAnswers)
  | conference (config : PluginConfig) (searchedColumns : List String) (conferences : List Fields)
  | google (config : PluginConfig) (searchedColumns : List String)
      (account : Option GoogleAccount)
  | office365 (config : PluginConfig) (searchedColumns : List String)
      (contacts : Option (List Fields))

namespace ClientFiltered

variable (py : TextOps) (unidecode : String → String)

/-- `search`. -/
def search : ClientFiltered → String → Except PyError (List SourceResult)
  | csv config file => (CSVPlugin.load config file).search py
  | csvWs config service => (CSVWSPlugin.load config).search py service
  | wazo name searched firsts formats params client =>
    (WazoUserPlugin.load name firsts formats params).searchFrom py unidecode client searched
  | conference config searched conferences =>
    (ConferencePlugin.load config).searchFrom py unidecode conferences searched
  | google config searched account => (GooglePlugin.load config).search py account searched
  | office365 config searched contacts =>
    (Office365Plugin.load config).search py contacts searched

/-- `first_match`. -/
def firstMatch : ClientFiltered → String → Except PyError (Option SourceResult)
  | csv config file => (CSVPlugin.load config file).firstMatch py
  | csvWs config service => (CSVWSPlugin.load config).firstMatch py service
  | wazo name _ firsts formats params client =>
    (WazoUserPlugin.load name firsts formats params).firstMatchFrom py client
  | conference config _ conferences =>
    (ConferencePlugin.load config).firstMatchFrom py conferences
  | google config _ account =>
    (GooglePlugin.load config).firstMatch py (account.map GoogleAccount.contacts)
  | office365 config _ contacts => (Office365Plugin.load config).firstMatch py contacts

/-- `list`. -/
def list : ClientFiltered → List String → Except PyError (List SourceResult)
  | csv config file => (CSVPlugin.load config file).list py
  | csvWs config service => (CSVWSPlugin.load config).list py service
  | wazo name _ firsts formats params client =>
    (WazoUserPlugin.load name firsts formats params).listFrom py client
  | conference config _ conferences => (ConferencePlugin.load config).listFrom py conferences
  | google config _ account => (GooglePlugin.load config).list py account
  | office365 config _ contacts => (Office365Plugin.load config).list py contacts

/-- What a source finds. -/
def Found (source : ClientFiltered) (r : SourceResult) : Prop :=
  Listing.Found (source.search py unidecode) (source.firstMatch py) r

/-- What a row is. -/
def Row : ClientFiltered → Type
  | csv .. | csvWs .. => CsvEntry
  | wazo .. => Except PyError SourceResult
  | conference .. | google .. | office365 .. => Fields

/-- The rows that a listing goes through. -/
def rows : (source : ClientFiltered) → List source.Row
  | csv _ file => file.entries
  | csvWs _ service => service.all
  | wazo name _ firsts formats params client =>
    (WazoUserPlugin.load name firsts formats params).entriesFrom py client ""
  | conference _ _ conferences => conferences
  | google _ _ account => GooglePlugin.listed account
  | office365 _ _ contacts => contacts.getD []

/-- What a listing compares a row by. -/
def compared : (source : ClientFiltered) → source.Row → Except PyError (Option String)
  | csv config file => (CSVPlugin.load config file).compared
  | csvWs config _ => (CSVWSPlugin.load config).compared
  | wazo name _ firsts formats params _ =>
    WazoUserPlugin.compared py (WazoUserPlugin.load name firsts formats params).sourceResult
  | conference .. => ConferencePlugin.compared py
  | google .. => fun contact => .ok contact >>= Fields.textId
  | office365 .. => fun contact => updateContact contact >>= Fields.textId

/-- The result of a row. -/
def result : (source : ClientFiltered) → source.Row → Except PyError SourceResult
  | csv config file => (CSVPlugin.load config file).result py
  | csvWs config _ => (CSVWSPlugin.load config).result py
  | wazo .. => id
  | conference config .. => (ConferencePlugin.load config).result py
  | google config .. => fun contact =>
    .ok contact >>= ((GooglePlugin.load config).sourceResult.make py ·)
  | office365 config .. => fun contact =>
    updateContact contact >>= ((Office365Plugin.load config).sourceResult.make py ·)

/-- **What a source finds can be listed back by its id.** -/
def ListsBack (source : ClientFiltered) : Prop :=
  Listing.ListsBack (source.Found py unidecode) (·.relations.sourceEntryId) (source.list py)
    (source.compared py) (source.result py) (source.rows py)

/-- **A plain source**: whatever the terms, its rows all have an id that is
compared as it is known, and can be read and formatted; and what is
answered to a term is among what is listed. -/
def Plain (source : ClientFiltered) : Prop :=
  match source with
  | csv config file => ∀ entry ∈ file.entries,
      (∀ column, config.uniqueColumn = some column → column ∈ entry.keys) ∧
      CanFormat config.formatColumns.keys entry.keys
  | csvWs config service => config.listUrl ≠ none ∧
      ∀ entry ∈ service.all, CanFormat config.formatColumns.keys entry.keys
  | wazo name _ firsts formats params client =>
      let plugin := WazoUserPlugin.load name firsts formats params
      (∀ user ∈ plugin.usersFrom client "", ReadableUser user ∧
        CanFormat (formats.getD ∅).keys (validKeys ++ ["full_name"]) ∧
        WazoUserPlugin.KeepsId py (formats.getD ∅) user) ∧
      ∀ term, ∀ user ∈ plugin.usersFrom client term, user ∈ plugin.usersFrom client ""
  | conference _ _ conferences => ∀ conference ∈ conferences, ReadableConference conference
  | google _ _ account => ∀ a, account = some a →
      (∀ person ∈ a.connections, person.names ≠ []) ∧
      ∀ term, ∀ person ∈ a.results term, person ∈ a.connections
  | office365 config _ contacts => ∀ contact ∈ contacts.getD [], ∃ updated s,
      updateContact contact = .ok updated ∧ contact.get? "id" = some (.str s) ∧
      CanFormat (Office365Plugin.load config).sourceResult.formatColumns.keys updated.keys

end ClientFiltered

end WazoDird
