import WazoDird.Common.Like
import WazoDird.Database.Directory

/-!
# Displays

`database/queries/display.py`: the displays of a tenant, each with its
columns. The columns of a display come in no particular order.
-/

namespace WazoDird

/-- What a request says of a display. -/
structure DisplayBody where
  name : String
  columns : List DisplayColumnBody
  deriving DecidableEq, Repr

/-- `DisplaySchema`: a display as the services see it. -/
structure DisplayInfo where
  uuid : Uuid
  tenantUuid : Uuid
  name : String
  columns : List DisplayColumnBody
  deriving DecidableEq, Repr

/-- The parameters of a listing of displays, or of profiles. -/
structure DirectoryListParams where
  uuid : Option Uuid := none
  name : Option String := none
  search : Option String := none
  offset : Option ℕ := none
  limit : Option ℕ := none
  deriving DecidableEq, Repr

/-- The page of rows a listing asks for. -/
def DirectoryListParams.page {α : Type} (params : DirectoryListParams) (rows : List α) : List α :=
  let rows := rows.drop (params.offset.getD 0)
  params.limit.elim rows rows.take

/-- The texts of a listing's filter. -/
def DirectoryListParams.texts (params : DirectoryListParams) : List String :=
  params.uuid.toList ++ params.name.toList ++ params.search.toList

namespace DisplayCRUD

/-- `DisplaySchema.dump`. -/
def dump (o : RowOrder DisplayColumnRow) (d : Directory) (display : Display) : DisplayInfo where
  uuid := display.uuid
  tenantUuid := display.tenantUuid
  name := display.name
  columns := (o.order (d.displayColumns.filter (·.displayUuid = display.uuid))).map
    DisplayColumnRow.toDisplayColumnBody

/-- `_build_filter`. An empty tenant list finds no display. -/
def buildFilter (visibleTenants : Option (List Uuid)) (displayUuid : Uuid) :
    Except DirdError (Display → Bool) :=
  match visibleTenants with
  | some [] => .error (.noSuchDisplay displayUuid)
  | some tenants => .ok fun b => b.uuid = displayUuid && b.tenantUuid ∈ tenants
  | none => .ok fun b => b.uuid = displayUuid

/-- `_list_filter`. -/
def listFilter (lower : String → String) (visibleTenants : Option (List Uuid))
    (params : DirectoryListParams) (b : Display) : Bool :=
  visibleTenants.elim true (b.tenantUuid ∈ ·) &&
    params.uuid.elim true (b.uuid = ·) &&
    params.name.elim true (b.name = ·) &&
    params.search.elim true fun search => ilike lower ("%" ++ search ++ "%") b.name

/-- `count`. -/
def count (lower : String → String) (d : Directory) (visibleTenants : Option (List Uuid))
    (params : DirectoryListParams) : Except DirdError ℕ := do
  takeTexts params.texts
  return (d.displays.filter (listFilter lower visibleTenants params)).length

/-- `list_`. -/
def list (lower : String → String) (o : RowOrder Display) (oc : RowOrder DisplayColumnRow)
    (d : Directory) (visibleTenants : Option (List Uuid)) (params : DirectoryListParams) :
    Except DirdError (List DisplayInfo) := do
  takeTexts params.texts
  return (params.page (o.order (d.displays.filter (listFilter lower visibleTenants params)))).map
    (dump oc d)

/-- `_add_column`, for each column of a body. -/
def addColumns (d : Directory) (displayUuid : Uuid) (columns : List DisplayColumnBody) :
    Directory :=
  { d with
    displayColumns := d.displayColumns ++
      columns.map fun c => { c with displayUuid := displayUuid } }

/-- `create`. The uuid is the caller's, or the server's. -/
def create (server : UuidServer) (oc : RowOrder DisplayColumnRow) (d : Directory)
    (tenantUuid : Uuid) (body : DisplayBody) (uuid : Option Uuid := none) :
    Except DirdError DisplayInfo × Directory :=
  d.newSession <|
    let d := d.createTenant tenantUuid
    let display : Display :=
      { uuid := uuid.getD (server.generate (d.displays.map Display.uuid))
        tenantUuid := tenantUuid, name := body.name }
    if d.displays.any (·.uuid = display.uuid) then .error .integrity
    else
      let d := addColumns { d with displays := d.displays ++ [display] } display.uuid body.columns
      .ok (d, dump oc d display)

/-- `delete`. Deleting no row raises, once the session is over. -/
def delete (d : Directory) (visibleTenants : Option (List Uuid)) (displayUuid : Uuid) :
    Except DirdError Unit × Directory :=
  match buildFilter visibleTenants displayUuid with
  | .error e => (.error e, d)
  | .ok p =>
    (if d.displays.any p then .ok () else .error (.noSuchDisplay displayUuid), d.dropDisplays p)

/-- `edit`. -/
def edit (o : RowOrder Display) (d : Directory) (visibleTenants : Option (List Uuid))
    (displayUuid : Uuid) (body : DisplayBody) : Except DirdError Unit × Directory :=
  match buildFilter visibleTenants displayUuid with
  | .error e => (.error e, d)
  | .ok p => d.newSession <|
    match o.first (d.displays.filter p) with
    | none => .error (.noSuchDisplay displayUuid)
    | some display =>
      let d := { d with
        displayColumns := d.displayColumns.filter (·.displayUuid ≠ displayUuid)
        displays := d.displays.map fun b =>
          if b.uuid = display.uuid then { b with name := body.name } else b }
      .ok (addColumns d displayUuid body.columns, ())

/-- `get`. -/
def get (o : RowOrder Display) (oc : RowOrder DisplayColumnRow) (d : Directory)
    (visibleTenants : Option (List Uuid)) (displayUuid : Uuid) : Except DirdError DisplayInfo := do
  let p ← buildFilter visibleTenants displayUuid
  match o.first (d.displays.filter p) with
  | none => .error (.noSuchDisplay displayUuid)
  | some display => .ok (dump oc d display)

end DisplayCRUD

end WazoDird
