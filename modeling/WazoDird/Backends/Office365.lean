import WazoDird.Backends.Conference

/-!
# The Office 365 backend

`plugins/office365_backend/plugin.py` and the parts of its `services.py`
that complete a contact with its first email and its numbers.
-/

namespace WazoDird

/-- `MULTI_PHONE_FIELDS`. -/
def multiPhoneFields : List String := ["businessPhones", "homePhones"]

/-- `SINGLE_PHONE_FIELDS`. -/
def singlePhoneFields : List String := ["mobilePhone"]

/-- `contact.get(field) or []`. -/
def Fields.getList (contact : Fields) (field : String) : Value :=
  ((contact.get? field).getD .none).or (.list [])

/-- `get_first_email`. -/
def getFirstEmail (contact : Fields) : Except PyError Value := do
  let emailAddresses ← (contact.getList "emailAddresses").iter
  (emailAddresses.head?.getD (.dict [])).get "address"

/-- `aggregate_numbers`. -/
def aggregateNumbers (contact : Fields) : Except PyError Value := do
  let single := (singlePhoneFields.map fun field => (contact.get? field).getD .none).filter
    Value.truthy
  let multi ← multiPhoneFields.mapM fun field => (contact.getList field).iter
  return .list (single ++ multi.flatten)

/-- `numbers_by_phonetype` of `get_numbers_except_label`. -/
def numbersByPhonetype (contact : Fields) : Dict String Value :=
  Dict.ofList ((multiPhoneFields.map fun field => (field, contact.getList field)) ++
    singlePhoneFields.map fun field =>
      let phoneNumber := (contact.get? field).getD .none
      (field, .list (if phoneNumber.truthy then [phoneNumber] else [])))

/-- `get_numbers_except_label`. -/
def getNumbersExceptLabel (contact : Fields) : Except PyError Value := do
  let numbers := numbersByPhonetype contact
  let entries ← numbers.keys.mapM fun phoneField => do
    let candidates ← (numbers.erase phoneField).values.mapM Value.iter
    return (phoneField, Value.list candidates.flatten)
  return .dict entries

/-- One turn of the loop of `_update_contact_fields`. -/
def updateContact (contact : Fields) : Except PyError Fields := do
  let contact := if "givenName" ∈ contact.keys then contact else contact.set "givenName" (.str "")
  let contact := contact.set "email" (← getFirstEmail contact)
  let contact := contact.set "numbers" (← aggregateNumbers contact)
  return contact.set "numbers_except_label" (← getNumbersExceptLabel contact)

/-- `_update_contact_fields`. -/
def updateContactFields (contacts : List Fields) : Except PyError (List Fields) :=
  contacts.mapM updateContact

/-- `Office365Plugin`. -/
structure Office365Plugin where
  name : String
  firstMatchedColumns : List String
  sourceResult : ResultClass

namespace Office365Plugin

/-- `load`. -/
def load (config : PluginConfig) : Office365Plugin where
  name := config.name
  firstMatchedColumns := config.firstMatchedColumns
  sourceResult :=
    let formatColumns := config.formatColumns.getD ∅
    makeResultClass "office365" config.name (some "id") (some
      (if "reverse" ∈ formatColumns.keys then formatColumns
        else formatColumns.set "reverse" "{givenName}"))

variable (py : TextOps) (plugin : Office365Plugin)

/-- `_first_match_predicate`. -/
def firstMatchPredicate (term : String) (contact : Fields) : Except PyError Bool :=
  plugin.firstMatchedColumns.anyM fun column =>
    match contact.getOr column with
    | .list items => items.anyM fun item => do return term = (← item.lower py.lower)
    | columnValue => .ok (term = py.lower (py.str columnValue))

/-- `first_match`, with what `_fetch_contacts` returned: none without a
token, or when the endpoint answers with an error. -/
def firstMatch (contacts : Option (List Fields)) (term : String) :
    Except PyError (Option SourceResult) :=
  if plugin.firstMatchedColumns = [] then .ok none
  else match contacts with
    | none | some [] => .ok none
    | some contacts => do
      Scan.first (plugin.firstMatchPredicate py (py.lower term)) (plugin.sourceResult.make py ·)
        (← updateContactFields contacts)

/-- `match_all`. -/
def matchAll (contacts : Option (List Fields)) (terms : List String) :
    Except PyError (Dict String SourceResult) :=
  if plugin.firstMatchedColumns = [] then .ok ∅
  else match contacts with
    | none | some [] => .ok ∅
    | some contacts => do
      Scan.byKey (fun term => plugin.firstMatchPredicate py (py.lower term))
        (plugin.sourceResult.make py ·) terms (← updateContactFields contacts)

end Office365Plugin

end WazoDird
