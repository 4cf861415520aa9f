import WazoDird.Common.CsvHeader
import WazoDird.Common.Text
import WazoDird.PhonebookContacts.Import

/-!
# The endpoints of an import

`PhonebookContactImport.post` of `plugins/phonebook/http.py` and
`DeprecatedPhonebookContactImport.post` of
`plugins/phonebook_deprecated/http.py`. Both decode the body, cut it at its
line feeds and read it as a document whose first record names the columns;
they differ in how they name the phonebook and in what they answer. Of one
body both leave the same database (`deprecated_agrees`).
-/

namespace WazoDird

open Excel PhonebookContactCRUD

/-- What `bytes.decode` raises. -/
inductive DecodeError where
  /-- `LookupError`, with its text. -/
  | lookup (message : String)
  /-- `UnicodeDecodeError`. -/
  | unicode
  deriving DecidableEq, Repr

/-- `bytes.decode`, of a charset. -/
abbrev Codecs := String → List UInt8 → Except DecodeError String

/-- Latin-1, and no other charset. -/
def latin1 : Codecs := fun charset data =>
  if charset = "latin-1" then .ok (String.ofList (data.map fun octet => Char.ofNat octet.toNat))
  else .error (.lookup ("unknown encoding: " ++ charset))

/-- The body of a request, and the charset its content type names. -/
structure ImportRequest where
  charset : Option String := none
  data : List UInt8

/-- `request.mimetype_params.get('charset', 'utf-8')`. -/
def ImportRequest.codec (request : ImportRequest) : String := request.charset.getD "utf-8"

/-- `PhonebookContactImportAPIError`, with its details: status 400. -/
inductive ImportAPIError where
  | badEncoding (error charset : String)
  | duplicateColumns (duplicates : List String)
  | invalidFile (error : Excel.Error)
  | emptyFile (lineCount byteCount : ℕ)
  | badContacts (errors : List ContactEntryError)
  deriving DecidableEq, Repr

/-- The `error_id` of the refusal. -/
def ImportAPIError.errorId : ImportAPIError → String
  | badEncoding .. => "phonebook-contact-import-bad-encoding"
  | duplicateColumns .. => "phonebook-contact-import-duplicate-columns"
  | invalidFile .. => "phonebook-contact-import-invalid-file"
  | emptyFile .. => "phonebook-contact-import-empty-file"
  | badContacts .. => "phonebook-contact-import-bad-contacts"

/-- What a request that is not answered raises. -/
inductive ImportRaised where
  /-- What the endpoint refuses it with. -/
  | api (error : ImportAPIError)
  /-- What `bytes.decode` raised, not caught. -/
  | decode (error : DecodeError)
  /-- `csv.Error`, not caught. -/
  | csv (error : Excel.Error)
  /-- What the service raised. -/
  | service (error : DirdError)
  deriving DecidableEq, Repr

/-- `{f for f in fields if fields.count(f) > 1}`, as it is listed. -/
def duplicateColumns (o : RowOrder String) (fields : List (List Char)) : List String :=
  o.order ((fields.filter fun f => 1 < fields.count f).dedup.map String.ofList)

variable (codecs : Codecs) (o : RowOrder String)

namespace PhonebookContactImport

/-- The text of the body. -/
def decode (request : ImportRequest) : Except ImportRaised String :=
  match codecs request.codec request.data with
  | .ok text => .ok text
  | .error (.lookup message) =>
    if inText "unknown encoding:" message then
      .error (.api (.badEncoding message request.codec))
    else .error (.decode (.lookup message))
  | .error .unicode => .error (.decode .unicode)

/-- The contacts of the lines of the body. The field names are read before
the rest, and outside of what catches the errors of the reader. -/
def readLines (byteCount : ℕ) (data : List (List Char)) :
    Except ImportRaised (List RawContact) := do
  let fields ← (firstRecord fieldSizeLimit {} data).mapError .csv
  let duplicates := duplicateColumns o (fields.getD [])
  if duplicates ≠ [] then .error (.api (.duplicateColumns duplicates))
  else
    let rows ← (dictReader fieldSizeLimit data).mapError fun e => .api (.invalidFile e)
    if rows = [] then .error (.api (.emptyFile data.length byteCount))
    else return rows.map Prod.snd

/-- The contacts of the body. -/
def toAdd (request : ImportRequest) : Except ImportRaised (List RawContact) := do
  let text ← decode codecs request
  readLines o request.data.length (text.toList.splitOn '\n')

variable (enc : Encoding) (server : Server)

/-- **`post`**: the contacts created, answered 201. -/
def post (db : Database) (visibleTenants : List Uuid) (phonebookUuid : Uuid)
    (request : ImportRequest) : Except ImportRaised (List ContactBody) × Database :=
  match toAdd codecs o request with
  | .error e => (.error e, db)
  | .ok contacts =>
    match PhonebookService.importContacts enc server db visibleTenants (.uuid phonebookUuid)
      contacts with
    | (.error e, db') => (.error (.service e), db')
    | (.ok (created, failed), db') =>
      (if failed ≠ [] then .error (.api (.badContacts failed)) else .ok created, db')

end PhonebookContactImport

/-- What a request of the deprecated endpoint that is not answered raises. -/
inductive DeprecatedImportRaised where
  /-- `NoSuchTenant`, answered 404. -/
  | noSuchTenant (name : String)
  /-- Answered 400, with the text of the error. -/
  | badEncoding (reason : String)
  /-- Answered 400, with the columns. -/
  | duplicateColumns (duplicates : List String)
  /-- What `bytes.decode` raised, not caught. -/
  | decode (error : DecodeError)
  /-- `csv.Error`, not caught. -/
  | csv (error : Excel.Error)
  /-- `StopIteration`, not caught. -/
  | stopIteration
  /-- What the service raised. -/
  | service (error : DirdError)
  deriving DecidableEq, Repr

namespace DeprecatedPhonebookContactImport

/-- `_find_tenant`, of the tenants of the name that the server lists. -/
def findTenant (tenants : List Uuid) (name : String) : Except DeprecatedImportRaised Uuid :=
  match tenants with
  | [] => .error (.noSuchTenant name)
  | tenantUuid :: _ => .ok tenantUuid

/-- The text of the body. -/
def decode (request : ImportRequest) : Except DeprecatedImportRaised String :=
  match codecs request.codec request.data with
  | .ok text => .ok text
  | .error (.lookup message) =>
    if inText "unknown encoding:" message then .error (.badEncoding message)
    else .error (.decode (.lookup message))
  | .error .unicode => .error (.decode .unicode)

/-- `next(reader)`. -/
def next (first : Option (List (List Char))) : Except DeprecatedImportRaised (List (List Char)) :=
  match first with
  | none => .error .stopIteration
  | some fields => .ok fields

/-- The contacts of the lines of the body, which are read twice. -/
def readLines (data : List (List Char)) : Except DeprecatedImportRaised (List RawContact) := do
  let first ← (firstRecord fieldSizeLimit {} data).mapError .csv
  let fields ← next first
  let duplicates := duplicateColumns o fields
  if duplicates ≠ [] then .error (.duplicateColumns duplicates)
  else
    let rows ← (dictReader fieldSizeLimit data).mapError .csv
    return rows.map Prod.snd

/-- The contacts of the body. -/
def toAdd (request : ImportRequest) : Except DeprecatedImportRaised (List RawContact) := do
  let text ← decode codecs request
  readLines o (text.toList.splitOn '\n')

variable (enc : Encoding) (server : Server)

/-- **`post`**: the contacts created, and the errors, answered 200. -/
def post (db : Database) (tenants : List Uuid) (tenant : String) (phonebookId : ℕ)
    (request : ImportRequest) :
    Except DeprecatedImportRaised (List ContactBody × List ContactEntryError) × Database :=
  match findTenant tenants tenant with
  | .error e => (.error e, db)
  | .ok matchingTenant =>
    match toAdd codecs o request with
    | .error e => (.error e, db)
    | .ok contacts =>
      let r := PhonebookService.importContacts enc server db [matchingTenant] (.id phonebookId)
        contacts
      (r.1.mapError .service, r.2)

end DeprecatedPhonebookContactImport

/-! ## One import, two endpoints -/

/-- **What the deprecated endpoint answers** where the other ends so: a
document without a row is one of no contact, the contacts that do not pass
the check are no failure, and a document that cannot be read is not caught. -/
def deprecatedAnswer : Except ImportRaised (List ContactBody) →
    Except DeprecatedImportRaised (List ContactBody × List ContactEntryError)
  | .ok created => .ok (created, [])
  | .error (.api (.badEncoding error _)) => .error (.badEncoding error)
  | .error (.api (.duplicateColumns duplicates)) => .error (.duplicateColumns duplicates)
  | .error (.api (.invalidFile error)) => .error (.csv error)
  | .error (.api (.emptyFile _ _)) => .ok ([], [])
  | .error (.api (.badContacts errors)) => .ok ([], errors)
  | .error (.decode error) => .error (.decode error)
  | .error (.csv error) => .error (.csv error)
  | .error (.service error) => .error (.service error)

section Agree

variable {codecs o} {enc : Encoding} {server : Server} {db : Database}
  {visibleTenants visibleTenants' : List Uuid} {key key' : PhonebookKey} {p : Phonebook}
  {request : ImportRequest}

/-- An import depends on the phonebook its key names alone. -/
theorem importContacts_congr
    (h : getPhonebook db (some visibleTenants) key =
      getPhonebook db (some visibleTenants') key') (raws : List RawContact) :
    PhonebookService.importContacts enc server db visibleTenants key raws =
      PhonebookService.importContacts enc server db visibleTenants' key' raws := by
  unfold PhonebookService.importContacts createMany
  rw [h]

/-- An import that reports errors creates nothing. -/
theorem created_eq_nil_of_failed {raws : List RawContact} {created : List ContactBody}
    {failed : List ContactEntryError} {db' : Database}
    (h : PhonebookService.importContacts enc server db visibleTenants key raws =
      (.ok (created, failed), db')) (hfailed : failed ≠ []) : created = [] ∧ db' = db := by
  unfold PhonebookService.importContacts at h
  split at h
  · cases h
    exact ⟨rfl, rfl⟩
  · -- what is created is created without an error
    exfalso
    cases hcreate : createMany enc server db (some visibleTenants) key
      (PhonebookService.importBodies raws) with
    | mk r db₁ =>
    rw [hcreate] at h
    cases r with
    | error e => cases h
    | ok r =>
      obtain ⟨p, t, -, -, -, rfl, -⟩ := PhonebookContacts.createMany_ok hcreate
      cases h
      exact hfailed rfl

/-- An import of no contact, in a phonebook that is seen, does nothing. -/
theorem importContacts_nil (hp : getPhonebook db (some visibleTenants) key = .ok p) :
    PhonebookService.importContacts enc server db visibleTenants key [] = (.ok ([], []), db) := by
  have hcreate : createMany enc server db (some visibleTenants) key
      (PhonebookService.importBodies []) = (.ok ([], []), db) := by
    rw [createMany, hp]
    rfl
  rw [PhonebookService.importContacts, if_neg (fun h => h rfl), hcreate]
  rfl

/-- What one endpoint raises or reads, as the other does. -/
def deprecatedRead : Except ImportRaised (List RawContact) →
    Except DeprecatedImportRaised (List RawContact)
  | .ok contacts => .ok contacts
  | .error e => (deprecatedAnswer (.error e)).map fun _ => []

/-- **The lines of a body read the same**: that the document has no row is
found by one endpoint only. -/
theorem deprecated_readLines (byteCount : ℕ) (line : List Char) (lines : List (List Char)) :
    DeprecatedPhonebookContactImport.readLines o (line :: lines) =
      deprecatedRead (PhonebookContactImport.readLines o byteCount (line :: lines)) := by
  unfold DeprecatedPhonebookContactImport.readLines PhonebookContactImport.readLines
  cases hfirst : firstRecord fieldSizeLimit {} (line :: lines) with
  | error e => rfl
  | ok first =>
      obtain ⟨fields, rfl⟩ := Option.isSome_iff_exists.1 (firstRecord_isSome hfirst)
      show (if duplicateColumns o fields ≠ [] then _ else _) =
        deprecatedRead (if duplicateColumns o fields ≠ [] then _ else _)
      by_cases hduplicates : duplicateColumns o fields ≠ []
      · rw [if_pos hduplicates, if_pos hduplicates]
        rfl
      · rw [if_neg hduplicates, if_neg hduplicates]
        cases dictReader fieldSizeLimit (line :: lines) with
        | error e => rfl
        | ok rows =>
            cases rows with
            | nil => rfl
            | cons row rows => rfl

/-- Bodies read the same. -/
theorem deprecated_toAdd : DeprecatedPhonebookContactImport.toAdd codecs o request =
    deprecatedRead (PhonebookContactImport.toAdd codecs o request) := by
  unfold DeprecatedPhonebookContactImport.toAdd PhonebookContactImport.toAdd
    DeprecatedPhonebookContactImport.decode PhonebookContactImport.decode
  cases codecs request.codec request.data with
  | error e =>
      cases e with
      | lookup message =>
          by_cases hunknown : inText "unknown encoding:" message
          · simp only [hunknown, if_true]
            rfl
          · simp only [hunknown]
            rfl
      | unicode => rfl
  | ok text =>
      -- the lines of a text are never none, so there is a first record
      show DeprecatedPhonebookContactImport.readLines o (text.toList.splitOn '\n') =
        deprecatedRead (PhonebookContactImport.readLines o request.data.length
          (text.toList.splitOn '\n'))
      obtain ⟨line, lines, hlines⟩ := List.exists_cons_of_ne_nil
        (List.splitOn_ne_nil '\n' text.toList)
      rw [hlines]
      exact deprecated_readLines _ _ _

/-- A body is not refused for what its contacts are. -/
theorem toAdd_ne_badContacts (errors : List ContactEntryError) :
    PhonebookContactImport.toAdd codecs o request ≠ .error (.api (.badContacts errors)) := by
  intro h
  rcases bind_eq_error.1 h with h | ⟨text, -, h⟩
  · unfold PhonebookContactImport.decode at h
    split at h
    · cases h
    · split at h <;> cases h
    · cases h
  · rcases bind_eq_error.1 h with h | ⟨first, -, h⟩
    · cases hfirst : firstRecord fieldSizeLimit {} (text.toList.splitOn '\n') <;>
        rw [hfirst] at h <;> cases h
    · dsimp only at h
      split at h
      · cases h
      · rcases bind_eq_error.1 h with h | ⟨rows, -, h⟩
        · cases hrows : dictReader fieldSizeLimit (text.toList.splitOn '\n') <;>
            rw [hrows] at h <;> cases h
        · split at h <;> cases h

/-- **The two endpoints agree.** Where both name one phonebook that its
tenant sees, the deprecated endpoint leaves the database the other leaves,
and answers what `deprecatedAnswer` says, of any body. -/
theorem deprecated_agrees {tenantUuid phonebookUuid : Uuid} {phonebookId : ℕ}
    (tenants : List Uuid) (tenant : String)
    (hp : getPhonebook db (some [tenantUuid]) (.uuid phonebookUuid) = .ok p)
    (hid : getPhonebook db (some [tenantUuid]) (.id phonebookId) = .ok p) :
    DeprecatedPhonebookContactImport.post codecs o enc server db (tenantUuid :: tenants) tenant
        phonebookId request =
      let r := PhonebookContactImport.post codecs o enc server db [tenantUuid] phonebookUuid
        request
      (deprecatedAnswer r.1, r.2) := by
  unfold DeprecatedPhonebookContactImport.post PhonebookContactImport.post
  simp only [DeprecatedPhonebookContactImport.findTenant, deprecated_toAdd]
  cases hread : PhonebookContactImport.toAdd codecs o request with
  | error e =>
      cases e with
      | api e =>
          cases e with
          | emptyFile lineCount byteCount =>
              show (Except.mapError _ _, _) = _
              rw [importContacts_nil hid]
              rfl
          | badContacts errors => exact absurd hread (toAdd_ne_badContacts errors)
          | badEncoding | duplicateColumns | invalidFile => rfl
      | decode | csv | service => rfl
  | ok contacts =>
      simp only [deprecatedRead]
      rw [importContacts_congr (hid.trans hp.symm) contacts]
      cases himport : PhonebookService.importContacts enc server db [tenantUuid]
        (.uuid phonebookUuid) contacts with
      | mk r db' =>
      cases r with
      | error e => rfl
      | ok r =>
          obtain ⟨created, failed⟩ := r
          by_cases hfailed : failed = []
          · subst hfailed
            rfl
          · obtain ⟨rfl, rfl⟩ := created_eq_nil_of_failed himport hfailed
            simp only [ne_eq, hfailed, not_false_eq_true, if_true]
            rfl

end Agree

section Examples

open PhonebookContacts PhonebookService

/-- The document of one contact, in Latin-1. -/
def oneContact : ImportRequest where
  charset := some "latin-1"
  data := "name\r\nAlice\r\n".toList.map fun c => c.toNat.toUInt8

/-- It is imported in the phonebook of `onePhonebook`. -/
theorem post_oneContact : ∃ answer db', PhonebookContactImport.post latin1 RowOrder.asStored
    Encoding.plain Server.plain onePhonebook.db ["t"] "p" oneContact = (.ok answer, db') := by
  have hread : PhonebookContactImport.toAdd latin1 RowOrder.asStored oneContact =
      .ok [rawText "name" "Alice"] := rfl
  have himport : importContacts Encoding.plain Server.plain onePhonebook.db ["t"] (.uuid "p")
      [rawText "name" "Alice"] = (.ok (_ :: [], []), _) := rfl
  unfold PhonebookContactImport.post
  rw [hread]
  simp only [himport]
  exact ⟨_, _, rfl⟩

/-- Both endpoints import it. -/
theorem deprecated_agrees_oneContact : ∃ answer db',
    PhonebookContactImport.post latin1 RowOrder.asStored Encoding.plain Server.plain
        onePhonebook.db ["t"] "p" oneContact = (.ok answer, db') ∧
      DeprecatedPhonebookContactImport.post latin1 RowOrder.asStored Encoding.plain Server.plain
        onePhonebook.db ["t"] "acme" 1 oneContact = (.ok (answer, []), db') := by
  obtain ⟨answer, db', hpost⟩ := post_oneContact
  refine ⟨answer, db', hpost, ?_⟩
  rw [deprecated_agrees [] "acme" getPhonebook_onePhonebook (by decide), hpost]
  rfl

end Examples

end WazoDird
