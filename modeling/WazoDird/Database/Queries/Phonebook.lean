import WazoDird.Database.Queries.Source

/-!
# Phonebooks

`PhonebookCRUD` of `database/queries/phonebook.py`: the phonebooks
themselves, and what the database does to the rows that hang on a
phonebook when it goes.
-/

namespace WazoDird

/-- The body of a phonebook, as its schema loads it. An absent
description is not the same as one set to none. -/
structure PhonebookBody where
  name : String
  description : Option (Option String) := none
  deriving DecidableEq, Repr

/-- What the server fills in for an inserted phonebook: its uuid, and the
next number of its sequence. -/
structure PhonebookDefaults where
  uuid : Uuid
  id : ℕ
  deriving DecidableEq, Repr

/-- `phonebook_key_to_filter`. -/
def phonebookKeyToFilter : PhonebookKey → Phonebook → Bool
  | .uuid uuid, p => p.uuid = uuid
  | .id id, p => p.id = id

/-- `phonebook_selector`. No tenant list means no tenant filter, an empty
one means nothing is in scope. -/
def phonebookSelector (visibleTenants : Option (List Uuid)) (key : PhonebookKey)
    (p : Phonebook) : Bool :=
  match visibleTenants with
  | none => phonebookKeyToFilter key p
  | some [] => false
  | some tenants => phonebookKeyToFilter key p && p.tenantUuid ∈ tenants

/-- `phonebook_search_filter`. A search needs a tenant list: the query
cannot be built from an `IN` on none. -/
def phonebookSearchFilter (lower : String → String) (visibleTenants : Option (List Uuid))
    (search : Option String) : Except DirdError (Phonebook → Bool) :=
  match search.filter (· ≠ ""), visibleTenants with
  | none, none => .ok fun _ => true
  | none, some tenants => .ok fun p => p.tenantUuid ∈ tenants
  | some _, none => .error .argument
  | some search, some tenants =>
    let pattern := "%" ++ search ++ "%"
    .ok fun p => p.tenantUuid ∈ tenants &&
      (ilike lower pattern p.name || p.description.elim false (ilike lower pattern))

namespace PhonebookCRUD

/-- `_get_by_tenant_and_id`. -/
def getByTenantAndId (db : Database) (visibleTenants : Option (List Uuid)) (key : PhonebookKey) :
    Except DirdError Phonebook :=
  match db.phonebooks.find? (phonebookSelector visibleTenants key) with
  | none => .error (.noSuchPhonebook key none)
  | some phonebook => .ok phonebook

/-- The unique constraints of `dird_phonebook` on a pair of rows. -/
def clash (p q : Phonebook) : Bool :=
  p.uuid = q.uuid || p.id = q.id || (p.name = q.name && p.tenantUuid = q.tenantUuid)

/-- The flush of a phonebook row. A name that is empty fails the check
constraint, which is not a unique violation: the operation is refused. -/
def flushOrRaise (refused : DirdError) (others : List Phonebook) (p : Phonebook) :
    Except DirdError Unit := do
  takeTexts (p.name :: p.description.toList)
  raiseIf (p.name = "") refused
  raiseIf (others.any (clash p)) .duplicatedPhonebook

/-- `create`. -/
def create (db : Database) (defaults : PhonebookDefaults) (tenantUuid : Uuid)
    (body : PhonebookBody) : Except DirdError Phonebook × Database :=
  newSession db <| do
    let db := db.createTenant tenantUuid
    let phonebook : Phonebook :=
      { id := defaults.id, uuid := defaults.uuid, name := body.name
        description := body.description.getD none, tenantUuid := tenantUuid }
    flushOrRaise (.phonebookCreation tenantUuid) db.phonebooks phonebook
    return ({ db with phonebooks := db.phonebooks ++ [phonebook] }, phonebook)

/-- The database without the phonebooks of a predicate, nor what the
foreign keys delete with them: their sources, the favorites of these, and
their contacts with the fields. -/
def dropPhonebooks (db : Database) (p : Phonebook → Bool) : Database :=
  let gone (uuid : Uuid) : Bool := db.phonebooks.any fun b => p b && b.uuid = uuid
  let orphan (c : Contact) : Bool := c.phonebookUuid.elim false gone
  let db' := SourceCRUD.dropSources db (fun s => s.phonebookUuid.elim false gone)
  { db' with
    phonebooks := db.phonebooks.filter (fun b => !p b)
    contacts := db.contacts.filter (fun c => !orphan c)
    contactFields := db.contactFields.filter fun f =>
      !(db.contacts.any fun c => orphan c && c.uuid = f.contactUuid) }

/-- `delete`. -/
def delete (db : Database) (visibleTenants : Option (List Uuid)) (key : PhonebookKey) :
    Except DirdError Unit × Database :=
  newSession db <| do
    let phonebook ← getByTenantAndId db visibleTenants key
    return (dropPhonebooks db (·.uuid = phonebook.uuid), ())

/-- `edit`: the attributes the body names, the others left as they are. -/
def edit (db : Database) (visibleTenants : Option (List Uuid)) (key : PhonebookKey)
    (body : PhonebookBody) : Except DirdError Phonebook × Database :=
  newSession db <| do
    let phonebook ← getByTenantAndId db visibleTenants key
    let phonebook' :=
      { phonebook with
        name := body.name, description := body.description.getD phonebook.description }
    flushOrRaise .phonebookUpdate (db.phonebooks.filter (·.uuid ≠ phonebook.uuid)) phonebook'
    return ({ db with
      phonebooks := db.phonebooks.map fun b =>
        if b.uuid = phonebook.uuid then phonebook' else b }, phonebook')

/-- `list`. -/
def list (lower : String → String) (o : RowOrder Phonebook) (db : Database)
    (visibleTenants : Option (List Uuid)) (search : Option String) :
    Except DirdError (List Phonebook) := do
  let p ← phonebookSearchFilter lower visibleTenants search
  takeTexts search.toList
  return o.order (db.phonebooks.filter p)

/-- `count`. -/
def count (lower : String → String) (db : Database) (visibleTenants : Option (List Uuid))
    (search : Option String) : Except DirdError ℕ := do
  let p ← phonebookSearchFilter lower visibleTenants search
  takeTexts search.toList
  return (db.phonebooks.filter p).length

/-- `get`. -/
def get (db : Database) (visibleTenants : Option (List Uuid)) (key : PhonebookKey) :
    Except DirdError Phonebook :=
  getByTenantAndId db visibleTenants key

/-- The flush of a phonebook that is given another tenant: its sources hang
on the tenant too, and are not moved with it. -/
def moveTenant (phonebook : Phonebook) (newUuid : Uuid) (db : Database) :
    Except DirdError (Database × Unit) := do
  let phonebook' := { phonebook with tenantUuid := newUuid }
  raiseIf ((db.phonebooks.filter (·.uuid ≠ phonebook.uuid)).any (clash phonebook')) .integrity
  raiseIf (phonebook.tenantUuid ≠ newUuid ∧
    db.sources.any (·.phonebookUuid = some phonebook.uuid)) .integrity
  return ({ db with
    phonebooks := db.phonebooks.map fun b => if b.uuid = phonebook.uuid then phonebook' else b },
    ())

/-- `update_tenant`. A phonebook that is not found is none, of which no
attribute can be set. -/
def updateTenant (db : Database) (visibleTenants : Option (List Uuid)) (key : PhonebookKey)
    (newUuid : Uuid) : Except DirdError Unit × Database :=
  newSession db <|
    let db := db.createTenant newUuid
    match visibleTenants with
    | none => .error .argument
    | some tenants =>
      match db.phonebooks.find? fun p => phonebookKeyToFilter key p && p.tenantUuid ∈ tenants with
      | none => .error .attribute
      | some phonebook => moveTenant phonebook newUuid db

/-! ## What an operation does -/

section Spec

variable {db db' : Database} {defaults : PhonebookDefaults} {tenantUuid : Uuid}
  {visibleTenants : Option (List Uuid)} {key : PhonebookKey} {body : PhonebookBody}
  {p : Phonebook}

/-- The phonebook a key names within some tenants is one of theirs. -/
theorem getByTenantAndId_ok {tenants : List Uuid}
    (h : getByTenantAndId db (some tenants) key = .ok p) :
    p ∈ db.phonebooks ∧ p.tenantUuid ∈ tenants := by
  unfold getByTenantAndId at h
  split at h
  · cases h
  · next q hq =>
    cases h
    refine ⟨List.mem_of_find?_eq_some hq, ?_⟩
    have hsel := List.find?_some hq
    cases tenants with
    | nil => simp [phonebookSelector] at hsel
    | cons t ts =>
      simp only [phonebookSelector, Bool.and_eq_true, decide_eq_true_eq] at hsel
      exact hsel.2

theorem flushOrRaise_ok {refused : DirdError} {others : List Phonebook}
    (h : flushOrRaise refused others p = .ok ()) : ∀ q ∈ others, q.uuid ≠ p.uuid := by
  intro q hq hu
  obtain ⟨⟨⟩, -, h⟩ := bind_eq_ok.1 h
  obtain ⟨⟨⟩, -, h⟩ := bind_eq_ok.1 h
  refine raiseIf_ok.1 h (List.any_eq_true.2 ⟨q, hq, ?_⟩)
  simp [clash, hu]

/-- **What a creation does**: nothing, and it raises; or it adds one
phonebook, of a new uuid, to what `_create_tenant` left. -/
theorem create_cases {r : Except DirdError Phonebook}
    (h : create db defaults tenantUuid body = (r, db')) :
    (∃ e, r = .error e ∧ db' = db) ∨
    ∃ p, r = .ok p ∧
      db' = { db.createTenant tenantUuid with phonebooks := db.phonebooks ++ [p] } ∧
      p.uuid = defaults.uuid ∧ p.tenantUuid = tenantUuid ∧
      ∀ q ∈ db.phonebooks, q.uuid ≠ p.uuid := by
  rcases newSession_snd h with herr | ⟨p, rfl, hbody⟩
  · exact Or.inl herr
  · obtain ⟨⟨⟩, hflush, hbody⟩ := bind_eq_ok.1 hbody
    cases hbody
    refine Or.inr ⟨_, rfl, by rw [Database.createTenant_phonebooks], rfl, rfl, ?_⟩
    rw [← db.createTenant_phonebooks tenantUuid]
    exact flushOrRaise_ok hflush

/-- **What a deletion does**: nothing, and it raises; or it drops one
phonebook in scope with all that hangs on it. -/
theorem delete_cases {r : Except DirdError Unit} {tenants : List Uuid}
    (h : delete db (some tenants) key = (r, db')) :
    (∃ e, r = .error e ∧ db' = db) ∨
    ∃ p ∈ db.phonebooks, r = .ok () ∧ p.tenantUuid ∈ tenants ∧
      getByTenantAndId db (some tenants) key = .ok p ∧
      db' = dropPhonebooks db (·.uuid = p.uuid) := by
  rcases newSession_snd h with herr | ⟨⟨⟩, rfl, hbody⟩
  · exact Or.inl herr
  · obtain ⟨p, hp, hbody⟩ := bind_eq_ok.1 hbody
    cases hbody
    obtain ⟨hmem, hten⟩ := getByTenantAndId_ok hp
    exact Or.inr ⟨p, hmem, rfl, hten, hp, rfl⟩

/-- **What an edit does**: nothing, and it raises; or it renames or
describes anew one phonebook in scope. -/
theorem edit_cases {r : Except DirdError Phonebook} {tenants : List Uuid}
    (h : edit db (some tenants) key body = (r, db')) :
    (∃ e, r = .error e ∧ db' = db) ∨
    ∃ p ∈ db.phonebooks, ∃ p', r = .ok p' ∧ p.tenantUuid ∈ tenants ∧
      getByTenantAndId db (some tenants) key = .ok p ∧
      p' = { p with name := body.name, description := body.description.getD p.description } ∧
      db' = { db with phonebooks := db.phonebooks.map fun b => if b.uuid = p.uuid then p' else b }
      := by
  rcases newSession_snd h with herr | ⟨p', rfl, hbody⟩
  · exact Or.inl herr
  · obtain ⟨p, hp, hbody⟩ := bind_eq_ok.1 hbody
    obtain ⟨⟨⟩, -, hbody⟩ := bind_eq_ok.1 hbody
    cases hbody
    obtain ⟨hmem, hten⟩ := getByTenantAndId_ok hp
    exact Or.inr ⟨p, hmem, _, rfl, hten, hp, rfl, rfl⟩

/-! ## What a source is called afterwards -/

/-- The phonebook a uuid names, once one phonebook is edited. -/
theorem getPhonebook_edited {p' : Phonebook} (hu : p'.uuid = p.uuid) (uuid : Uuid) :
    Database.getPhonebook { db with
      phonebooks := db.phonebooks.map fun b => if b.uuid = p.uuid then p' else b } uuid =
      (db.getPhonebook uuid).map fun b : Phonebook => if b.uuid = p.uuid then p' else b := by
  simp only [Database.getPhonebook, List.find?_map]
  congr 2
  funext b
  simp only [Function.comp_apply, key_replace hu]

/-- The phonebook a uuid names stays, when one of another uuid is added. -/
theorem getPhonebook_added {q : Phonebook} {uuid : Uuid} (h : db.getPhonebook uuid = some q) :
    Database.getPhonebook { db with phonebooks := db.phonebooks ++ [p] } uuid = some q := by
  unfold Database.getPhonebook at h ⊢
  rw [List.find?_append, h]
  rfl

/-- The phonebook a uuid names stays, when others are dropped. -/
theorem getPhonebook_dropped {uuid : Uuid} (hne : uuid ≠ p.uuid) :
    (dropPhonebooks db (·.uuid = p.uuid)).getPhonebook uuid = db.getPhonebook uuid := by
  simp only [Database.getPhonebook, dropPhonebooks, List.find?_filter]
  congr 1
  funext b
  by_cases hb : b.uuid = uuid
  · simp [hb, hne]
  · simp [hb]

/-- Dropping a phonebook drops the sources that hang on it, and no
other. -/
theorem mem_sources_dropPhonebooks (hp : p ∈ db.phonebooks) {x : Source} :
    x ∈ (dropPhonebooks db (·.uuid = p.uuid)).sources ↔
      x ∈ db.sources ∧ x.phonebookUuid ≠ some p.uuid := by
  simp only [dropPhonebooks, SourceCRUD.dropSources, List.mem_filter]
  refine and_congr_right fun _ => ?_
  cases x.phonebookUuid with
  | none => simp
  | some uuid =>
    have hgone : (db.phonebooks.any fun b => decide (b.uuid = p.uuid) && decide (b.uuid = uuid)) =
        true ↔ uuid = p.uuid := by
      rw [List.any_eq_true]
      constructor
      · rintro ⟨b, -, hb⟩
        simp only [Bool.and_eq_true, decide_eq_true_eq] at hb
        exact hb.2.symm.trans hb.1
      · rintro rfl
        exact ⟨p, hp, by simp⟩
    simp only [Option.elim_some, Bool.not_eq_true', Bool.eq_false_iff, ne_eq, hgone,
      Option.some.injEq]

end Spec

end PhonebookCRUD

end WazoDird
