import WazoDird.Database.Queries.ContactRows

/-!
# The columns of a contact

A contact is kept as rows of names and values, which a query returns in no
order and mixed with those of other contacts. Where no name of a contact
has two values there is one reading of them (`HasColumns`), and a reader
that regroups the rows returns that reading of each contact it has a row
of, once (`returns_readRows`). Both engines, and the listing of a
phonebook, regroup so.
-/

namespace WazoDird

/-- No name has two values. -/
def OneValued (fields : List (String × Option String)) : Prop :=
  ∀ name v v', (name, v) ∈ fields → (name, v') ∈ fields → v = v'

/-- **The columns of a contact** are those its rows name, and of what it
was read into those that no row names. -/
def HasColumns (start : ContactInfo) (fields : List (String × Option String))
    (contact : ContactInfo) : Prop :=
  ∀ name value, contact.get? name = some value ↔
    (name, value) ∈ fields ∨ name ∉ fields.map Prod.fst ∧ start.get? name = some value

/-- **A store of contacts**: a uuid names one contact, and no contact of
an owner has two values for a name. The rows of the contacts stand in any
order. -/
structure ContactStore (owner : Contact → Option Uuid) where
  db : Database
  uuids : (db.contacts.map Contact.uuid).Nodup
  oneValued : ∀ c ∈ db.contacts, (owner c).isSome →
    OneValued (fieldsOf db.contactFields c.uuid)

/-- **A store of the contacts of phonebooks**: of a contact that has a row,
some row is its id. -/
structure PhonebookStore extends ContactStore Contact.phonebookUuid where
  ids : ∀ c ∈ db.contacts, c.phonebookUuid.isSome → fieldsOf db.contactFields c.uuid ≠ [] →
    ∃ id, ("id", some id) ∈ fieldsOf db.contactFields c.uuid

/-- **The contacts of a condition were returned**, each once, with its
columns. -/
def Returns (start : Uuid → ContactInfo) (db : Database) (p : Uuid → Prop)
    (contacts : List ContactInfo) : Prop :=
  ∃ uuids : List Uuid, uuids.Nodup ∧ (∀ uuid, uuid ∈ uuids ↔ p uuid) ∧
    List.Forall₂ (fun uuid => HasColumns (start uuid) (fieldsOf db.contactFields uuid))
      uuids contacts

variable {start : ContactInfo} {init : Uuid → ContactInfo} {db : Database}
  {fields fields' : List (String × Option String)} {contact : ContactInfo}
  {contacts : List ContactInfo} {uuid : Uuid} {p q : Uuid → Prop}

/-- Names that differ have one value each. -/
theorem oneValued_of_nodup (h : (fields.map Prod.fst).Nodup) : OneValued fields :=
  fun _ _ _ hv hv' => Dict.eq_of_nodup_keys h hv hv'

/-- **Read in any order, the rows make their columns.** -/
theorem hasColumns_setAll (h : OneValued fields) (hperm : fields'.Perm fields) :
    HasColumns start fields (start.setAll fields') := by
  intro name value
  have h' : OneValued fields' := fun name v v' hv hv' =>
    h name v v' (hperm.mem_iff.1 hv) (hperm.mem_iff.1 hv')
  rw [Dict.get?_setAll_eq_some_iff h', hperm.mem_iff, (hperm.map Prod.fst).mem_iff]

/-- A column that a row names. -/
theorem HasColumns.get? (h : HasColumns start fields contact) {name : String}
    {value : Option String} (hmem : (name, value) ∈ fields) : contact.get? name = some value :=
  (h name value).2 (Or.inl hmem)

/-- What was returned is what meets any condition that is the same. -/
theorem Returns.congr (h : Returns init db p contacts) (hpq : ∀ uuid, p uuid ↔ q uuid) :
    Returns init db q contacts := by
  obtain ⟨uuids, hnodup, hmem, hall⟩ := h
  exact ⟨uuids, hnodup, fun uuid => (hmem uuid).trans (hpq uuid), hall⟩

/-- Some contact was returned exactly when some meets the condition. -/
theorem Returns.ne_nil_iff (h : Returns init db p contacts) : contacts ≠ [] ↔ ∃ uuid, p uuid := by
  obtain ⟨uuids, -, hmem, hall⟩ := h
  cases hall with
  | nil =>
    refine ⟨fun h => absurd rfl h, fun ⟨uuid, hp⟩ => ?_⟩
    exact absurd ((hmem uuid).2 hp) List.not_mem_nil
  | cons _ _ => exact ⟨fun _ => ⟨_, (hmem _).1 List.mem_cons_self⟩, fun _ => List.cons_ne_nil _ _⟩

/-- **Rows regrouped are the contacts they are of**, each once, with its
columns, when all rows of each were read. -/
theorem returns_readRows {o : RowOrder ContactFields} {read : ContactFields → Bool}
    (hread : ∀ f ∈ db.contactFields, read f = true ↔ p f.contactUuid)
    (hone : ∀ uuid, p uuid → OneValued (fieldsOf db.contactFields uuid)) :
    Returns init db (fun uuid => p uuid ∧ ∃ f ∈ db.contactFields, f.contactUuid = uuid)
      ((o.order (db.contactFields.filter read)).foldl (readRow init) ∅).values := by
  let rows := o.order (db.contactFields.filter read)
  have hget : ∀ uuid, (rows.foldl (readRow init) ∅).get? uuid =
      if rows.any (·.contactUuid = uuid) then
        some ((init uuid).setAll (fieldsOf rows uuid)) else none :=
    fun uuid => get?_foldl_readRow init ∅ rows uuid
  have hany : ∀ uuid, rows.any (·.contactUuid = uuid) = true ↔
      p uuid ∧ ∃ f ∈ db.contactFields, f.contactUuid = uuid := by
    intro uuid
    simp only [List.any_eq_true, decide_eq_true_eq, rows, RowOrder.mem_order, List.mem_filter]
    constructor
    · rintro ⟨f, ⟨hf, hsel⟩, rfl⟩
      exact ⟨(hread f hf).1 hsel, f, hf, rfl⟩
    · rintro ⟨hp, f, hf, rfl⟩
      exact ⟨f, ⟨hf, (hread f hf).2 hp⟩, rfl⟩
  refine ⟨(rows.foldl (readRow init) ∅).keys, (rows.foldl (readRow init) ∅).nodup,
    fun uuid => ?_, Dict.forall₂_keys_values ?_⟩
  · refine Iff.trans ?_ (hany uuid)
    rw [Dict.mem_keys_iff, hget]
    split
    · next hrows => simp [hrows]
    · next hrows => simp [hrows]
  · intro uuid contact hcontact
    rw [hget] at hcontact
    split at hcontact
    · next hrows =>
      obtain ⟨hp, -⟩ := (hany uuid).1 hrows
      cases hcontact
      exact hasColumns_setAll (hone uuid hp)
        (fieldsOf_selected fun f hf hu => (hread f hf).2 (hu ▸ hp))
    · cases hcontact

/-- **Listed by uuid, the contacts are those that have a row**, each once,
with its columns. -/
theorem returns_listContactsByUuid {o : RowOrder ContactFields} {uuids : List Uuid}
    (hone : ∀ uuid ∈ uuids, OneValued (fieldsOf db.contactFields uuid)) :
    Returns newContact db (fun uuid => uuid ∈ uuids ∧ ∃ f ∈ db.contactFields, f.contactUuid = uuid)
      (listContactsByUuid o db uuids) := by
  unfold listContactsByUuid
  split
  · next hnil =>
    rw [List.isEmpty_iff] at hnil
    subst hnil
    refine ⟨[], List.nodup_nil, fun uuid => ?_, List.Forall₂.nil⟩
    simp
  · exact returns_readRows (fun f _ => decide_eq_true_iff) hone

end WazoDird
