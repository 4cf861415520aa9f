import WazoDird.Backends.SourceResult
import WazoDird.Common.Scan

/-!
# The conference backend

`plugins/conference_backend/plugin.py`: conferences as contacts, and their
reverse lookup, one term at a time (`firstMatch`) and in batch
(`matchAll`).
-/

namespace WazoDird

/-- The part of a source's configuration that the backends below read. -/
structure PluginConfig where
  name : String
  firstMatchedColumns : List String := []
  formatColumns : Option (Dict String String) := none

/-- A conference as confd lists it: the `exten` of each of its extensions,
and of each extension of each of its incalls. -/
structure Conference where
  id : Int
  name : Value
  extensions : List Value
  incalls : List (List Value)

/-- A conference as a contact. -/
def Conference.contact (conference : Conference) : Fields :=
  Dict.ofList [
    ("id", .int conference.id),
    ("name", conference.name),
    ("extensions", .list conference.extensions),
    ("incalls", .list conference.incalls.flatten)]

/-- `ConferencePlugin`. -/
structure ConferencePlugin where
  name : String
  firstMatchedColumns : List String
  sourceResult : ResultClass

namespace ConferencePlugin

/-- `load`. -/
def load (config : PluginConfig) : ConferencePlugin where
  name := config.name
  firstMatchedColumns := config.firstMatchedColumns
  sourceResult := makeResultClass "conference" config.name (some "id") config.formatColumns

/-- `_fetch_contacts`: nothing without a client, or when confd answers with
an error. -/
def fetchContacts (response : Option (List Conference)) : List Fields :=
  (response.getD []).map Conference.contact

variable (py : TextOps) (plugin : ConferencePlugin)

/-- `_first_match_filter`. -/
def firstMatchFilter (loweredTerm : String) (contact : Fields) : Except PyError Bool :=
  plugin.firstMatchedColumns.anyM fun column =>
    match contact.getOr column with
    | .str value => .ok (loweredTerm = py.lower value)
    | .list items => items.anyM fun item => do return loweredTerm = (← item.lower py.lower)
    | _ => .ok false

/-- `first_match`. -/
def firstMatch (response : Option (List Conference)) (term : String) :
    Except PyError (Option SourceResult) :=
  Scan.first (plugin.firstMatchFilter py (py.lower term)) (plugin.sourceResult.make py ·)
    (fetchContacts response)

/-- `match_all`. -/
def matchAll (response : Option (List Conference)) (terms : List String) :
    Except PyError (Dict String SourceResult) :=
  Scan.byItem (fun term => plugin.firstMatchFilter py (py.lower term))
    (plugin.sourceResult.make py ·) terms (fetchContacts response)

end ConferencePlugin

end WazoDird
