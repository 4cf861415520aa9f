import WazoDird.PersonalContacts.Export
import WazoDird.PersonalContacts.Store

/-!
# The import of personal contacts

`_PersonalService.create_contacts` and `validate_contact` of
`plugins/personal_service/plugin.py`, fed as `PersonalImport._mass_import`
feeds them: each row of the document is refused, with the number of its
line, or handed on to be created.
-/

namespace WazoDird

open PersonalContactCRUD

/-- A row of a document: the number of its last line, and its cells under
their names. -/
abbrev ImportRow := ℕ × Dict (Option String) Value

/-- The answers of the server, and the orders of its rows, in one import. -/
structure ImportWorld where
  enc : Encoding
  server : PersonalServer
  text : SortText
  uuids : RowOrder Uuid
  fields : RowOrder ContactFields

namespace PersonalService

/-- What a row is refused with. -/
inductive RowError where
  /-- `InvalidPersonalContact`. -/
  | invalid (errors : List String)
  /-- `PersonalImportError`. -/
  | importError (message : String)
  deriving DecidableEq, Repr

/-- The texts of the errors of a row. -/
def RowError.errors : RowError → List String
  | .invalid errors => errors
  | .importError message => [message]

/-- An entry of the errors of an import. -/
structure ReportedError where
  errors : List String
  line : ℕ
  deriving DecidableEq, Repr

/-- The value is a text. -/
def isText : Value → Bool
  | .str _ => true
  | _ => false

/-- `validate_contact`, given the ids of the contacts there are. -/
def validateContact (existing : List (Option String)) (row : Dict (Option String) Value) :
    Except RowError Unit :=
  let errors :=
    (if row.keys.any Option.isNone then ["all keys must be strings"] else []) ++
    (if row.values.any fun v => !isText v then ["all values must be strings"] else []) ++
    (if some "" ∈ row.keys then ["\x22\x22 is a forbidden in keys"] else [])
  if errors ≠ [] then .error (.invalid errors)
  else
    match (row.get? (some "id")).or (row.get? (some "uuid")) with
    | some (.str uuid) =>
      if uuid ≠ "" ∧ some uuid ∈ existing then
        .error (.importError ("contact \x22" ++ uuid ++ "\x22 already exist"))
      else .ok ()
    | _ => .ok ()

/-- What the loop of `create_contacts` checks of a row. -/
def checkRow (existing : List (Option String)) (row : Dict (Option String) Value) :
    Except RowError Unit :=
  if none ∈ row.keys then .error (.importError "too many fields")
  else if .none ∈ row.values then .error (.importError "missing fields")
  else validateContact existing row

/-- The row passes the validation. -/
def passes (existing : List (Option String)) (row : ImportRow) : Bool :=
  (checkRow existing row.2).toBool

/-- A row that passes, by its texts. -/
def textInfo (row : ImportRow) : TextInfo :=
  Dict.ofList (row.2.entries.filterMap fun
    | (some name, .str text) => some (name, text)
    | _ => none)

/-- The contacts handed on to be created. -/
def accepted (existing : List (Option String)) (rows : List ImportRow) : List TextInfo :=
  (rows.filter (passes existing)).map textInfo

/-- The error a row is reported with. -/
def report (existing : List (Option String)) (row : ImportRow) : Option ReportedError :=
  match checkRow existing row.2 with
  | .ok _ => none
  | .error e => some { errors := e.errors, line := row.1 }

variable (w : ImportWorld) (db : Database) (tenantUuid userUuid : Uuid)

/-- The ids of all contacts, of whomever. -/
def existingContactUuids : Except DirdError (List (Option String)) := do
  let contacts ← listPersonalContacts w.text w.uuids w.fields db none {}
  return contacts.filterMap (·.get? "id")

/-- **`create_contacts`**, of the rows that a document is read to. The
reader raises before anything is created. -/
def createContacts (reader : Except Excel.Error (List ImportRow)) :
    Except (Excel.Error ⊕ DirdError) (List TextInfo × List ReportedError) × Database :=
  match existingContactUuids w db, reader with
  | .error e, _ => (.error (.inr e), db)
  | .ok _, .error e => (.error (.inl e), db)
  | .ok existing, .ok rows =>
    let (created, db') :=
      createPersonalContacts w.enc w.server db tenantUuid userUuid (accepted existing rows)
    ((created.map fun created => (created, rows.filterMap (report existing))).mapError .inr, db')

end PersonalService

namespace PersonalImport

variable (w : ImportWorld) (o : RowOrder ContactFields) (db : Database)
  (tenantUuid userUuid : Uuid)

/-- A contact that is returned for a row has an id under which the user
gets the fields of the row, with that id. -/
def Returned (row created : TextInfo) : Prop :=
  ∃ id, created.get? "id" = some id ∧ ∃ contact,
    getPersonalContact o db userUuid id = .ok contact ∧
      contact.Same ((row.set "id" id).map some)

/-- **An import accounts for every row**: it does not raise, and each row is
reported with the number of its line, or is one that passes the validation
and is returned. -/
def Accounts (csvDocument : String) : Prop :=
  ∃ rows existing created reported db',
    reader csvDocument = .ok rows ∧ PersonalService.existingContactUuids w db = .ok existing ∧
    PersonalService.createContacts w db tenantUuid userUuid (reader csvDocument) =
      (.ok (created, reported), db') ∧
    List.Forall₂ (fun (row : ImportRow) r => r.line = row.1)
      (rows.filter fun row => !PersonalService.passes existing row) reported ∧
    List.Forall₂ (fun (row : ImportRow) => Returned o db' userUuid (PersonalService.textInfo row))
      (rows.filter (PersonalService.passes existing)) created

end PersonalImport

end WazoDird
