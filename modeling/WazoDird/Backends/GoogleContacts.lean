import WazoDird.Common.Text

/-!
# The contacts of Google

`ContactFormatter` of `plugins/google_backend/services.py`: a person as the
People API answers it, where any key may be missing, and the contact that
is made of it.
-/

namespace WazoDird

/-- A name of a person. The id is that of its source, in its metadata. -/
structure GoogleName where
  sourceId : Option String := none
  displayName : Option String := none
  unstructuredName : Option String := none
  givenName : Option String := none
  familyName : Option String := none

/-- An email address or a phone number. -/
structure GoogleEntry where
  value : Option String := none
  type : Option String := none

/-- An address. -/
structure GoogleAddress where
  formattedValue : Option String := none
  type : Option String := none

/-- An organization. -/
structure GoogleOrganization where
  name : Option String := none
  title : Option String := none

/-- A person. A biography is its value. -/
structure GooglePerson where
  names : List GoogleName := []
  emailAddresses : List GoogleEntry := []
  phoneNumbers : List GoogleEntry := []
  organizations : List GoogleOrganization := []
  addresses : List GoogleAddress := []
  biographies : List (Option String) := []

namespace GooglePerson

/-- `chars_to_remove`. -/
def charsToRemove : List Char := [' ', '-', '(', ')']

/-- `_extract_type`. -/
def extractType (type : Option String) : String := type.getD "other"

/-- A number, without the characters to remove. -/
def cleanNumber (number : String) : String :=
  String.ofList (charsToRemove.foldl (fun cs c => replaceAll [c] [] cs) number.toList)

/-- One turn of the loop of `_extract_numbers_by_label`. -/
def addNumber (numbers : Dict String String) (entry : GoogleEntry) : Dict String String :=
  match extractType entry.type, entry.value with
  | "", _ | _, none | _, some "" => numbers
  | type, some number => numbers.set type (cleanNumber number)

variable (person : GooglePerson)

/-- `_extract_id`. -/
def extractId : Value :=
  match person.names with
  | [] => .none
  | name :: _ => .str (name.sourceId.getD "")

/-- `_find_name`. -/
def findName : GoogleName := person.names.head?.getD {}

/-- `_extract_name`. -/
def extractName : String :=
  match person.findName.displayName with
  | none | some "" => person.findName.unstructuredName.getD ""
  | some name => name

/-- `_extract_first_name`. -/
def extractFirstName : String := person.findName.givenName.getD ""

/-- `_extract_last_name`. -/
def extractLastName : String := person.findName.familyName.getD ""

/-- `_extract_numbers_by_label`. -/
def extractNumbersByLabel : Dict String String := person.phoneNumbers.foldl addNumber ∅

/-- `_extract_numbers`: the mobile comes last. -/
def extractNumbers : List String :=
  let numbers := person.extractNumbersByLabel
  (numbers.entries.filter (·.1 ≠ "mobile")).map Prod.snd ++
    (((numbers.entries.filter (·.1 = "mobile")).map Prod.snd).filter (· ≠ ""))

/-- The labels of `_extract_numbers_except_label`. -/
def numberLabels : List String :=
  ["home", "work", "mobile", "other", "main", "home_fax", "work_fax", "google_voice", "pager"]

/-- `_extract_numbers_except_label`. -/
def extractNumbersExceptLabel : List (String × List String) :=
  numberLabels.map fun type => (type, (person.extractNumbersByLabel.erase type).values)

/-- `_extract_emails`. -/
def extractEmails : List (String × String) :=
  person.emailAddresses.filterMap fun email =>
    match email.value with
    | none | some "" => none
    | some address => some (address, extractType email.type)

/-- `_extract_organizations`. -/
def extractOrganizations : List (String × String) :=
  person.organizations.map fun organization =>
    (organization.name.getD "", organization.title.getD "")

/-- `_extract_addresses`. -/
def extractAddresses : List (String × String) :=
  person.addresses.map fun address =>
    (address.formattedValue.getD "", extractType address.type)

/-- `_extract_note`. -/
def extractNote : Value :=
  match person.biographies with
  | [] => .str ""
  | note :: _ => note.elim .none .str

/-- A dictionary of two texts. -/
def pair (first second : String) (entry : String × String) : Value :=
  .dict [(first, .str entry.1), (second, .str entry.2)]

/-- **`ContactFormatter.format`.** -/
def format : Fields :=
  Dict.ofList [
    ("id", person.extractId),
    ("name", .str person.extractName),
    ("firstname", .str person.extractFirstName),
    ("lastname", .str person.extractLastName),
    ("numbers_by_label", .dict (person.extractNumbersByLabel.map Value.str).entries),
    ("numbers", .list (person.extractNumbers.map .str)),
    ("numbers_except_label", .dict (person.extractNumbersExceptLabel.map fun entry =>
      (entry.1, .list (entry.2.map .str)))),
    ("emails", .list (person.extractEmails.map (pair "address" "label"))),
    ("organizations", .list (person.extractOrganizations.map (pair "name" "title"))),
    ("addresses", .list (person.extractAddresses.map (pair "address" "label"))),
    ("note", person.extractNote)]

/-- The columns of a contact. -/
def contactColumns : List String :=
  ["id", "name", "firstname", "lastname", "numbers_by_label", "numbers", "numbers_except_label",
    "emails", "organizations", "addresses", "note"]

theorem keys_format : person.format.keys = contactColumns := rfl

end GooglePerson

end WazoDird
