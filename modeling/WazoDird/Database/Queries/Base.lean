import Mathlib.Data.List.Dedup
import WazoDird.Database.Model

/-!
# Contacts from their rows

What `database/queries/base.py` makes of the name/value rows of contacts:
`list_contacts_by_uuid` and `build_exten_contact_map`. Both go over the
rows once, in the order of the answer, and a later row of a name replaces
an earlier one.
-/

namespace WazoDird

/-- `ContactInfo`: a contact as its names and values, `id` first. -/
abbrev ContactInfo := Dict String (Option String)

/-- A contact no row of which has been read. -/
def newContact (uuid : Uuid) : ContactInfo := (∅ : ContactInfo).set "id" (some uuid)

/-- Read one row into the contacts. -/
def addField (contacts : Dict Uuid ContactInfo) (row : ContactFields) : Dict Uuid ContactInfo :=
  contacts.set row.contactUuid
    (((contacts.get? row.contactUuid).getD (newContact row.contactUuid)).set row.name row.value)

/-- `list_contacts_by_uuid`. -/
def listContactsByUuid (o : RowOrder ContactFields) (db : Database) (uuids : List Uuid) :
    List ContactInfo :=
  if uuids.isEmpty then []
  else ((o.order (db.contactFields.filter (·.contactUuid ∈ uuids))).foldl addField ∅).values

/-- Note the contact of one row under its value, when the row is of a
first-matched column, its value is asked for, and no row before had it. -/
def noteExten (extens firstMatchColumns : List String) (extenToUuid : Dict String Uuid)
    (row : ContactFields) : Dict String Uuid :=
  match row.value with
  | none => extenToUuid
  | some value =>
    if row.name ∈ firstMatchColumns ∧ value ∈ extens ∧ (extenToUuid.get? value).isNone then
      extenToUuid.set value row.contactUuid
    else extenToUuid

/-- `build_exten_contact_map`. -/
def buildExtenContactMap (rows : List ContactFields) (extens firstMatchColumns : List String) :
    Dict String ContactInfo :=
  let contacts := rows.foldl addField ∅
  let extenToUuid := rows.foldl (noteExten extens firstMatchColumns) ∅
  extenToUuid.map fun uuid => (contacts.get? uuid).getD (newContact uuid)

/-- A filter on the rows of contacts, with the texts it is sent with. -/
structure RowFilter where
  holds : ContactFields → Bool
  texts : List String := []

/-- The filter `False`. -/
def RowFilter.never : RowFilter where
  holds _ := false

/-! ## What the rows make -/

/-- The names and values of a contact's rows. -/
def fieldsOf (rows : List ContactFields) (uuid : Uuid) : List (String × Option String) :=
  (rows.filter (·.contactUuid = uuid)).map fun row => (row.name, row.value)

/-- The contact its rows make. -/
def contactOf (rows : List ContactFields) (uuid : Uuid) : ContactInfo :=
  (newContact uuid).setAll (fieldsOf rows uuid)

theorem fieldsOf_cons (row : ContactFields) (rows : List ContactFields) (uuid : Uuid) :
    fieldsOf (row :: rows) uuid =
      if row.contactUuid = uuid then (row.name, row.value) :: fieldsOf rows uuid
      else fieldsOf rows uuid := by
  by_cases h : row.contactUuid = uuid
  · simp [fieldsOf, h]
  · simp [fieldsOf, h]

/-- Read one row into the contacts, each of which starts as `init` has it. -/
def readRow (init : Uuid → ContactInfo) (contacts : Dict Uuid ContactInfo) (row : ContactFields) :
    Dict Uuid ContactInfo :=
  contacts.set row.contactUuid
    (((contacts.get? row.contactUuid).getD (init row.contactUuid)).set row.name row.value)

/-- What reading rows adds to a contact. -/
theorem get?_foldl_readRow (init : Uuid → ContactInfo) (contacts : Dict Uuid ContactInfo)
    (rows : List ContactFields) (uuid : Uuid) :
    (rows.foldl (readRow init) contacts).get? uuid =
      if rows.any (·.contactUuid = uuid) then
        some (((contacts.get? uuid).getD (init uuid)).setAll (fieldsOf rows uuid))
      else contacts.get? uuid := by
  induction rows generalizing contacts with
  | nil => rfl
  | cons row rows ih =>
    rw [List.foldl_cons, ih, List.any_cons, fieldsOf_cons, readRow, Dict.get?_set]
    by_cases h : row.contactUuid = uuid
    · subst h
      by_cases hany : rows.any (·.contactUuid = row.contactUuid) = true
      · simp [hany]
      · -- no more rows of the contact: nothing is written after this one
        have hnil : fieldsOf rows row.contactUuid = [] := by
          rw [fieldsOf, List.map_eq_nil_iff, List.filter_eq_nil_iff]
          intro x hx hxu
          exact hany (List.any_eq_true.2 ⟨x, hx, hxu⟩)
        simp [hany, hnil]
    · simp [h]

/-- **The contact of a uuid is what its rows make.** -/
theorem get?_contacts (rows : List ContactFields) (uuid : Uuid) :
    (rows.foldl addField ∅).get? uuid =
      if rows.any (·.contactUuid = uuid) then some (contactOf rows uuid) else none := by
  exact get?_foldl_readRow newContact ∅ rows uuid

/-- A column of a contact is the last of its rows, or `id`. -/
theorem get?_contactOf {rows : List ContactFields} {uuid : Uuid} {col : String} :
    (contactOf rows uuid).get? col =
      (((rows.filter fun row => row.contactUuid = uuid ∧ row.name = col).getLast?).map
        ContactFields.value).or ((newContact uuid).get? col) := by
  have hfilter : (fieldsOf rows uuid).filter (fun x => x.1 = col) =
      (rows.filter fun row => row.contactUuid = uuid ∧ row.name = col).map
        fun row => (row.name, row.value) := by
    rw [fieldsOf, List.filter_map, List.filter_filter]
    congr 1
    refine List.filter_congr fun row _ => ?_
    simp [Bool.and_comm]
  rw [contactOf, Dict.get?_setAll, hfilter, List.getLast?_map, Option.map_map]
  rfl

/-- Listing one contact that has rows gives what they make. -/
theorem listContactsByUuid_singleton {o : RowOrder ContactFields} {db : Database} {uuid : Uuid}
    (h : ∃ row ∈ db.contactFields, row.contactUuid = uuid) :
    listContactsByUuid o db [uuid] =
      [contactOf (o.order (db.contactFields.filter (·.contactUuid ∈ [uuid]))) uuid] := by
  rw [listContactsByUuid, if_neg (by simp)]
  refine Dict.values_eq_singleton (k := uuid) (fun k hk => ?_) ?_
  · rw [Dict.mem_keys_iff, get?_contacts] at hk
    split at hk
    · next hany =>
      obtain ⟨row, hmem, hrow⟩ := List.any_eq_true.1 hany
      have hin := (List.mem_filter.1 (o.mem_order.1 hmem)).2
      have hk : row.contactUuid = k := by simpa using hrow
      rw [← hk]
      simpa using hin
    · cases hk
  · obtain ⟨row, hmem, hu⟩ := h
    rw [get?_contacts, if_pos]
    refine List.any_eq_true.2 ⟨row, o.mem_order.2 (List.mem_filter.2 ⟨hmem, ?_⟩), ?_⟩
    · simp [hu]
    · simp [hu]

/-! ## The contacts a query selects -/

section Scope

variable {rows : List ContactFields} {scope : Uuid → Bool} {uuid : Uuid}

/-- The contacts of the rows that meet a filter and are of a contact in
scope. -/
theorem mem_scopedUuids {filter : ContactFields → Bool} :
    uuid ∈ ((rows.filter fun row => filter row && scope row.contactUuid).map
        ContactFields.contactUuid).dedup ↔
      scope uuid = true ∧ ∃ row ∈ rows, row.contactUuid = uuid ∧ filter row = true := by
  rw [List.mem_dedup, List.mem_map]
  constructor
  · rintro ⟨row, hmem, rfl⟩
    obtain ⟨hrow, hboth⟩ := List.mem_filter.1 hmem
    obtain ⟨hfilter, hscope⟩ := Bool.and_eq_true_iff.1 hboth
    exact ⟨hscope, row, hrow, rfl, hfilter⟩
  · rintro ⟨hscope, row, hrow, rfl, hfilter⟩
    refine ⟨row, List.mem_filter.2 ⟨hrow, ?_⟩, rfl⟩
    rw [Bool.and_eq_true]
    exact ⟨hfilter, hscope⟩

/-- A contact in scope has a value in one of some columns. -/
def ShowsIn (rows : List ContactFields) (scope : Uuid → Bool) (columns : List String)
    (uuid : Uuid) (v : String) : Prop :=
  scope uuid = true ∧ ∃ row ∈ rows, row.contactUuid = uuid ∧ row.name ∈ columns ∧
    row.value = some v

/-- A contact in scope is read in a batch when it shows one of the
extensions. -/
theorem exists_showsIn_iff {extens columns : List String} :
    (scope uuid = true ∧ ∃ row ∈ rows, row.contactUuid = uuid ∧
      (row.value.elim false (· ∈ extens) && row.name ∈ columns) = true) ↔
    ∃ v ∈ extens, ShowsIn rows scope columns uuid v := by
  constructor
  · rintro ⟨hscope, row, hrow, hu, hboth⟩
    obtain ⟨hval, hname⟩ := Bool.and_eq_true_iff.1 hboth
    cases hv : row.value with
    | none => simp [hv] at hval
    | some v =>
      rw [hv] at hval
      exact ⟨v, by simpa using hval, hscope, row, hrow, hu, by simpa using hname, hv⟩
  · rintro ⟨v, hmem, hscope, row, hrow, hu, hname, hv⟩
    exact ⟨hscope, row, hrow, hu, by simp [hv, hmem, hname]⟩

/-- Of no contact no row is read. -/
theorem order_rows_eq_nil {o : RowOrder ContactFields} {uuids : List Uuid}
    (h : ∀ uuid, uuid ∉ uuids) : o.order (rows.filter (·.contactUuid ∈ uuids)) = [] := by
  rw [List.eq_nil_iff_forall_not_mem]
  intro row hrow
  have hmem := (List.mem_filter.1 (o.mem_order.1 hrow)).2
  exact h _ (of_decide_eq_true hmem)

end Scope

/-- A row that carries an extension in a first-matched column. -/
def carriesExten (extens firstMatchColumns : List String) (e : String) (row : ContactFields) :
    Bool :=
  row.value = some e && row.name ∈ firstMatchColumns && e ∈ extens

/-- **The first row that carries an extension names its contact.** -/
theorem get?_foldl_noteExten {extens firstMatchColumns : List String} (noted : Dict String Uuid)
    (rows : List ContactFields) (e : String) :
    (rows.foldl (noteExten extens firstMatchColumns) noted).get? e =
      (noted.get? e).or
        ((rows.find? (carriesExten extens firstMatchColumns e)).map ContactFields.contactUuid) := by
  induction rows generalizing noted with
  | nil => simp
  | cons row rows ih =>
    rw [List.foldl_cons, ih, List.find?_cons]
    cases hv : row.value with
    | none => simp [noteExten, carriesExten, hv]
    | some value =>
      simp only [noteExten, carriesExten, hv]
      by_cases he : value = e
      · subst he
        by_cases hcols : row.name ∈ firstMatchColumns ∧ value ∈ extens
        · cases hn : noted.get? value with
          | none => simp [hcols.1, hcols.2]
          | some uuid => simp [hcols.1, hcols.2, hn]
        · have hcarries : (decide (row.name ∈ firstMatchColumns) && decide (value ∈ extens)) =
              false := by
            rw [Bool.eq_false_iff]
            simpa using hcols
          have hnot : ¬ (row.name ∈ firstMatchColumns ∧ value ∈ extens ∧
              (noted.get? value).isNone = true) := fun h => hcols ⟨h.1, h.2.1⟩
          rw [if_neg hnot]
          simp [hcarries]
      · split
        · rw [Dict.get?_set_of_ne _ _ he]
          simp [he]
        · simp [he]

/-- **What the batch answers for an extension**: the contact of the first
row that carries it. -/
theorem get?_buildExtenContactMap {rows : List ContactFields}
    {extens firstMatchColumns : List String} {e : String} :
    (buildExtenContactMap rows extens firstMatchColumns).get? e =
      (rows.find? (carriesExten extens firstMatchColumns e)).map
        fun row => contactOf rows row.contactUuid := by
  rw [buildExtenContactMap, Dict.get?_map, get?_foldl_noteExten, Dict.get?_empty, Option.none_or,
    Option.map_map]
  cases hfind : rows.find? (carriesExten extens firstMatchColumns e) with
  | none => rfl
  | some row =>
    have hmem := List.mem_of_find?_eq_some hfind
    have hany : (rows.any fun x => decide (x.contactUuid = row.contactUuid)) = true :=
      List.any_eq_true.2 ⟨row, hmem, by simp⟩
    simp only [Option.map_some, Function.comp_apply, get?_contacts, hany, if_true,
      Option.getD_some]

/-- **A batch finds the contacts that show an extension**: it has one as a
key exactly when a contact in scope shows it, and what it answers is such
a contact, as the rows it read make it. -/
theorem buildExtenContactMap_spec {o : RowOrder ContactFields} {rows : List ContactFields}
    {scope : Uuid → Bool} {extens columns : List String} {uuids : List Uuid} {e : String}
    (huuids : ∀ uuid, uuid ∈ uuids ↔ ∃ v ∈ extens, ShowsIn rows scope columns uuid v)
    (he : e ∈ extens) :
    (e ∈ (buildExtenContactMap (o.order (rows.filter (·.contactUuid ∈ uuids))) extens
        columns).keys ↔ ∃ uuid, ShowsIn rows scope columns uuid e) ∧
    ∀ c, (buildExtenContactMap (o.order (rows.filter (·.contactUuid ∈ uuids))) extens
        columns).get? e = some c → ∃ uuid, ShowsIn rows scope columns uuid e ∧
      c = contactOf (o.order (rows.filter (·.contactUuid ∈ uuids))) uuid := by
  -- a row found is of a contact in scope
  have hfound : ∀ row, (o.order (rows.filter (·.contactUuid ∈ uuids))).find?
      (carriesExten extens columns e) = some row →
      ShowsIn rows scope columns row.contactUuid e := by
    intro row hrow
    have hcarries := List.find?_some hrow
    obtain ⟨hmem, hin⟩ := List.mem_filter.1 (o.mem_order.1 (List.mem_of_find?_eq_some hrow))
    obtain ⟨v, -, hscope, -⟩ := (huuids _).1 (of_decide_eq_true hin)
    simp only [carriesExten, Bool.and_eq_true, decide_eq_true_eq] at hcarries
    exact ⟨hscope, row, hmem, rfl, hcarries.1.2, hcarries.1.1⟩
  rw [Dict.mem_keys_iff, get?_buildExtenContactMap, Option.isSome_map]
  refine ⟨⟨fun h => ?_, ?_⟩, fun c hc => ?_⟩
  · obtain ⟨row, hrow⟩ := Option.isSome_iff_exists.1 h
    exact ⟨row.contactUuid, hfound row hrow⟩
  · rintro ⟨uuid, hshows⟩
    have hin := (huuids uuid).2 ⟨e, he, hshows⟩
    obtain ⟨-, row, hmem, hu, hname, hval⟩ := hshows
    rw [List.find?_isSome]
    refine ⟨row, o.mem_order.2 (List.mem_filter.2 ⟨hmem, ?_⟩), ?_⟩
    · simpa [hu] using hin
    · simp [carriesExten, hval, hname, he]
  · obtain ⟨row, hrow, rfl⟩ := Option.map_eq_some_iff.1 hc
    exact ⟨row.contactUuid, hfound row hrow, rfl⟩

end WazoDird
