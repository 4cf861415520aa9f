import WazoDird.Common.Json
import WazoDird.Common.Table
import WazoDird.Database.Queries.Base

/-!
# The rows of a contact

A contact is a row with a hash and one row for each of its names and
values. Here is what phonebooks and users share of writing them:
`compute_contact_hash` of `database/queries/base.py`, the constraints of
`dird_contact`, and what the text column keeps of a value.
-/

namespace WazoDird

/-- A contact as a request carries it: names and values of any kind. -/
abbrev ContactBody := Dict String Value

/-- The value a column's text is read as. -/
def Value.ofText (t : Option String) : Value := t.elim .none .str

/-- How the values of contacts are hashed and kept: the digest, the texts
the language and the server give a number with a fractional part, and the
text of an array in a text column, where there is one. -/
structure Encoding where
  sha1 : String → String
  floats : Json.FloatText
  floatText : ℚ → String
  arrayText : List Value → Option String

/-- An encoding without a digest, of numbers without a fractional part,
where no array has a text. -/
def Encoding.plain : Encoding where
  sha1 := id
  floats := ⟨fun q => q.num.repr.toList, fun q => Json.head_repr q.num⟩
  floatText q := q.num.repr
  arrayText _ := none

namespace Encoding

variable (enc : Encoding)

/-- **`compute_contact_hash`**: the digest of the body, its id left out. -/
def computeContactHash (body : ContactBody) : String :=
  enc.sha1 (Json.dumps enc.floats (.dict (body.erase "id").entries))

/-- **What a text column keeps of a value.** Numbers and booleans are cast
to text on assignment. The driver refuses a text with a null character,
and knows no parameter for a dictionary. -/
def columnText : Value → Except DirdError (Option String)
  | .none => .ok none
  | .bool b => .ok (some (if b then "true" else "false"))
  | .int n => .ok (some n.repr)
  | .float q => .ok (some (enc.floatText q))
  | .str s => if s.toList.contains '\x00' then .error (.python .valueError) else .ok (some s)
  | .list l => (enc.arrayText l).elim (.error (.python .typeError)) fun s => .ok (some s)
  | .dict _ => .error (.python .typeError)

/-- A name and its value, as the columns keep them. -/
def columnEntry (e : String × Value) : Except DirdError (String × Option String) := do
  let _ ← enc.columnText (.str e.1)
  let text ← enc.columnText e.2
  return (e.1, text)

/-- The names and values of a body, as the columns keep them. -/
def columnTexts (body : ContactBody) : Except DirdError (List (String × Option String)) :=
  body.entries.mapM enc.columnEntry

variable {enc} {body : ContactBody} {texts : List (String × Option String)} {k : String}

/-- What is kept of a text is the text. -/
theorem columnText_str_ok {s : String} {t : Option String}
    (h : enc.columnText (.str s) = .ok t) : t = some s := by
  rw [columnText] at h
  split at h
  · cases h
  · exact (Except.ok.inj h).symm

/-- A name is kept as it is, beside the text of its value. -/
theorem columnEntry_ok {e : String × Value} {t : String × Option String}
    (h : enc.columnEntry e = .ok t) : t.1 = e.1 ∧ enc.columnText e.2 = .ok t.2 := by
  obtain ⟨_, -, h⟩ := bind_eq_ok.1 h
  obtain ⟨text, htext, h⟩ := bind_eq_ok.1 h
  cases h
  exact ⟨rfl, htext⟩

/-- The texts of a body are under its own names. -/
theorem map_fst_columnTexts (h : enc.columnTexts body = .ok texts) :
    texts.map Prod.fst = body.keys :=
  map_eq_of_mapM_eq_ok (fun he => (columnEntry_ok he).1) h

/-- **The text under a name** is that of the body's value there. -/
theorem mem_columnTexts (h : enc.columnTexts body = .ok texts) {t : Option String}
    (ht : (k, t) ∈ texts) : ∃ v, body.get? k = some v ∧ enc.columnText v = .ok t := by
  obtain ⟨⟨k', v⟩, hmem, he⟩ := mem_of_mapM_eq_ok h ht
  obtain ⟨hk, hv⟩ := columnEntry_ok he
  cases hk
  exact ⟨v, Dict.get?_eq_some_iff.2 hmem, hv⟩

/-- And every value has one. -/
theorem exists_mem_columnTexts (h : enc.columnTexts body = .ok texts) {v : Value}
    (hv : body.get? k = some v) : ∃ t, (k, t) ∈ texts ∧ enc.columnText v = .ok t := by
  have hkey : k ∈ texts.map Prod.fst := by
    rw [map_fst_columnTexts h, Dict.mem_keys_iff, hv]
    rfl
  obtain ⟨⟨k', t⟩, hmem, hk⟩ := List.mem_map.1 hkey
  cases hk
  obtain ⟨v', hv', htext⟩ := mem_columnTexts h hmem
  rw [hv] at hv'
  cases hv'
  exact ⟨t, hmem, htext⟩

/-- The texts of a body of texts are its own. -/
theorem columnTexts_of_texts {l : List (String × String)}
    (h : (l.map fun e => (e.1, Value.str e.2)).mapM enc.columnEntry = .ok texts) :
    texts = l.map fun e => (e.1, some e.2) := by
  induction l generalizing texts with
  | nil =>
      cases h
      rfl
  | cons e l ih =>
      rw [List.map_cons, List.mapM_cons] at h
      obtain ⟨t, ht, h⟩ := bind_eq_ok.1 h
      obtain ⟨ts, hts, h⟩ := bind_eq_ok.1 h
      cases h
      obtain ⟨hk, hv⟩ := columnEntry_ok ht
      have htext : t = (e.1, some e.2) := Prod.ext hk (columnText_str_ok hv)
      rw [List.map_cons, htext, ih hts]

/-- What the driver raises for a value is its own. -/
theorem columnTexts_error {e : DirdError} (h : enc.columnTexts body = .error e) :
    ∃ err, e = .python err := by
  obtain ⟨⟨k, v⟩, -, h⟩ := mem_of_mapM_eq_error h
  have htext : ∀ v, enc.columnText v = .error e → ∃ err, e = .python err := by
    intro v hv
    cases v with
    | none | bool | int | float => cases hv
    | str s =>
        rw [columnText] at hv
        split at hv
        · cases hv
          exact ⟨_, rfl⟩
        · cases hv
    | list l =>
        rw [columnText] at hv
        cases hl : enc.arrayText l with
        | none =>
            rw [hl] at hv
            cases hv
            exact ⟨_, rfl⟩
        | some s =>
            rw [hl] at hv
            cases hv
    | dict l =>
        cases hv
        exact ⟨_, rfl⟩
  rcases bind_eq_error.1 h with h | ⟨_, -, h⟩
  · exact htext _ h
  · rcases bind_eq_error.1 h with h | ⟨_, -, h⟩
    · exact htext _ h
    · cases h

/-- **A contact's hash depends on what its values but the id are written
as**, and not on their order. -/
theorem computeContactHash_congr {body' : ContactBody}
    (h : ∀ k, k ≠ "id" → (body.get? k).map (Json.dumps enc.floats) =
      (body'.get? k).map (Json.dumps enc.floats)) :
    enc.computeContactHash body = enc.computeContactHash body' := by
  have herase : ∀ k, ((body.erase "id").map (Json.dumps enc.floats)).get? k =
      ((body'.erase "id").map (Json.dumps enc.floats)).get? k := by
    intro k
    rw [Dict.get?_map, Dict.get?_map, Dict.get?_erase, Dict.get?_erase]
    split
    · rfl
    · next hk => exact h k (Ne.symm hk)
  exact congrArg enc.sha1 (Json.dumps_dict_congr (body.erase "id").nodup (Dict.same_iff.2 herase))

end Encoding

/-- What a flush raises, other than for a value that is already there. -/
inductive FlushFault where
  /-- An integrity error that is not a unique violation, with its text. -/
  | integrity (pgerror : String)
  /-- An operational error. -/
  | operational
  /-- Any other exception. -/
  | other (error : PyError)
  deriving DecidableEq, Repr

/-- What the server does during one operation: the uuids
`uuid_generate_v4()` gives to new rows, none of which is in use, and what
the two flushes of each contact raise. -/
structure Server where
  newUuid : List Uuid → Uuid
  newUuid_not_mem : ∀ uuids, newUuid uuids ∉ uuids
  contactFault : ℕ → Option FlushFault := fun _ => none
  fieldsFault : ℕ → Option FlushFault := fun _ => none

/-- A server that flushes every row. -/
def Server.plain : Server where
  newUuid := longerUuid
  newUuid_not_mem := longerUuid_not_mem

/-- A flush, and what the operation makes of an integrity error. -/
def raiseFault (fault : Option FlushFault) (handler : String → DirdError) :
    Except DirdError Unit :=
  match fault with
  | none => .ok ()
  | some (.integrity pgerror) => .error (handler pgerror)
  | some .operational => .error .databaseServiceUnavailable
  | some (.other e) => .error (.python e)

/-- A flush without a fault. -/
theorem raiseFault_ok {fault : Option FlushFault} {handler : String → DirdError} :
    raiseFault fault handler = .ok () ↔ fault = none := by
  cases fault with
  | none => exact ⟨fun _ => rfl, fun _ => rfl⟩
  | some f => cases f <;> simp [raiseFault]

/-- What a flush raises is a fault of its own, or what the operation makes
of an integrity error. -/
theorem raiseFault_error {fault : Option FlushFault} {handler : String → DirdError} {e : DirdError}
    (h : raiseFault fault handler = .error e) :
    (∃ pgerror, e = handler pgerror) ∨ e = .databaseServiceUnavailable ∨ ∃ err, e = .python err := by
  match fault with
  | none => cases h
  | some (.integrity pgerror) => exact Or.inl ⟨pgerror, (Except.error.inj h).symm⟩
  | some .operational => exact Or.inr (Or.inl (Except.error.inj h).symm)
  | some (.other err) => exact Or.inr (Or.inr ⟨err, (Except.error.inj h).symm⟩)

/-- **What a `String(n)` column keeps of a text**: blanks past its length
are dropped, and a text with anything else past it is refused. -/
def stringColumn (n : ℕ) (a : String) : Except DirdError String :=
  if (a.toList.drop n).all (· = ' ') then .ok (String.ofList (a.toList.take n)) else .error .data

/-- A text within the length is kept as it is. -/
theorem stringColumn_of_length_le {n : ℕ} {a : String} (h : a.toList.length ≤ n) :
    stringColumn n a = .ok a := by
  rw [stringColumn, List.drop_eq_nil_of_le h, List.take_of_length_le h, String.ofList_toList]
  rfl

/-- What is kept is within the length. -/
theorem length_of_stringColumn {n : ℕ} {a b : String} (h : stringColumn n a = .ok b) :
    b.toList.length ≤ n := by
  rw [stringColumn] at h
  split at h
  · cases h
    rw [String.toList_ofList]
    exact List.length_take_le n a.toList
  · cases h

/-- **A text a column shortens**: there is something past its length, and
nothing but blanks. -/
def Shortened (n : ℕ) (a : String) : Prop :=
  n < a.toList.length ∧ ∀ c ∈ a.toList.drop n, c = ' '

instance (n : ℕ) (a : String) : Decidable (Shortened n a) :=
  inferInstanceAs (Decidable (_ ∧ _))

theorem not_shortened_of_length_le {n : ℕ} {a : String} (h : a.toList.length ≤ n) :
    ¬ Shortened n a :=
  fun hs => absurd hs.1 (not_lt.2 h)

/-- Any other text is kept as it is, or refused. -/
theorem eq_of_stringColumn {n : ℕ} {a b : String} (hs : ¬ Shortened n a)
    (h : stringColumn n a = .ok b) : b = a := by
  by_cases hlen : a.toList.length ≤ n
  · exact (Except.ok.inj ((stringColumn_of_length_le hlen).symm.trans h)).symm
  · rw [stringColumn] at h
    split at h
    · next hblank => exact absurd ⟨not_le.1 hlen, by simpa using hblank⟩ hs
    · cases h

/-- The unique constraints of `dird_contact` on a pair of rows: the uuid,
and the hash within a user or within a phonebook. -/
def Contact.clash (c d : Contact) : Bool :=
  c.uuid = d.uuid ||
    (c.hash = d.hash &&
      ((c.userUuid.isSome && c.userUuid = d.userUuid) ||
        (c.phonebookUuid.isSome && c.phonebookUuid = d.phonebookUuid)))

/-- Contacts that clash in nothing have different uuids. -/
theorem Contact.uuid_ne_of_clash {c d : Contact} (h : c.clash d = false) : d.uuid ≠ c.uuid := by
  rintro hu
  simp [clash, hu] at h

namespace Database

/-- The database without the contacts of a predicate, nor their rows. -/
def dropContacts (db : Database) (p : Contact → Bool) : Database :=
  { db with
    contacts := db.contacts.filter fun c => !p c
    contactFields := db.contactFields.filter fun f =>
      !(db.contacts.any fun c => p c && c.uuid = f.contactUuid) }

/-- To drop the contact of a uuid is to drop what has the uuid. -/
theorem dropContacts_of_uuid {db : Database} {p : Contact → Bool} {c : Contact}
    (hc : c ∈ db.contacts) (hp : ∀ d ∈ db.contacts, p d = true ↔ d.uuid = c.uuid) :
    db.dropContacts p = { db with
      contacts := db.contacts.filter (·.uuid ≠ c.uuid)
      contactFields := db.contactFields.filter (·.contactUuid ≠ c.uuid) } := by
  have hcontacts : (db.contacts.filter fun d => !p d) = db.contacts.filter (·.uuid ≠ c.uuid) := by
    refine List.filter_congr fun d hd => ?_
    rw [Bool.eq_iff_iff, Bool.not_eq_true', ← Bool.not_eq_true, hp d hd, decide_eq_true_eq]
  have hfields : (db.contactFields.filter fun f =>
      !(db.contacts.any fun d => p d && d.uuid = f.contactUuid)) =
        db.contactFields.filter (·.contactUuid ≠ c.uuid) := by
    refine List.filter_congr fun f _ => ?_
    rw [Bool.eq_iff_iff, Bool.not_eq_true', ← Bool.not_eq_true, decide_eq_true_eq, not_iff_not,
      List.any_eq_true]
    constructor
    · rintro ⟨d, hd, hboth⟩
      rw [Bool.and_eq_true, decide_eq_true_eq, hp d hd] at hboth
      exact hboth.2.symm.trans hboth.1
    · intro hf
      refine ⟨c, hc, ?_⟩
      rw [Bool.and_eq_true, decide_eq_true_eq, hp c hc]
      exact ⟨rfl, hf.symm⟩
  rw [dropContacts, hcontacts, hfields]

end Database

/-! ## The fields of a contact, as rows come and go -/

section Fields

variable {rows rows' : List ContactFields} {uuid : Uuid}

theorem fieldsOf_append :
    fieldsOf (rows ++ rows') uuid = fieldsOf rows uuid ++ fieldsOf rows' uuid := by
  simp [fieldsOf]

/-- Rows that are all of one contact are its fields. -/
theorem fieldsOf_of_forall (h : ∀ f ∈ rows, f.contactUuid = uuid) :
    fieldsOf rows uuid = rows.map fun f => (f.name, f.value) := by
  rw [fieldsOf, List.filter_eq_self.2 fun f hf => by simpa using h f hf]

/-- A contact none of whose rows is there has no field. -/
theorem fieldsOf_eq_nil (h : ∀ f ∈ rows, f.contactUuid ≠ uuid) : fieldsOf rows uuid = [] := by
  rw [fieldsOf, List.map_eq_nil_iff, List.filter_eq_nil_iff]
  intro f hf
  simpa using h f hf

/-- The fields of a contact stay when rows of others go. -/
theorem fieldsOf_filter {p : ContactFields → Bool}
    (h : ∀ f ∈ rows, f.contactUuid = uuid → p f = true) :
    fieldsOf (rows.filter p) uuid = fieldsOf rows uuid := by
  rw [fieldsOf, fieldsOf, List.filter_filter]
  congr 1
  refine List.filter_congr fun f hf => ?_
  by_cases hu : f.contactUuid = uuid
  · simp [hu, h f hf hu]
  · simp [hu]

/-- A contact of which some row is there has fields. -/
theorem fieldsOf_ne_nil : fieldsOf rows uuid ≠ [] ↔ ∃ f ∈ rows, f.contactUuid = uuid := by
  rw [fieldsOf, ne_eq, List.map_eq_nil_iff, List.filter_eq_nil_iff]
  simp

/-- A name and value of a contact are those of one of its rows. -/
theorem mem_fieldsOf {name : String} {value : Option String} :
    (name, value) ∈ fieldsOf rows uuid ↔
      ∃ f ∈ rows, f.contactUuid = uuid ∧ f.name = name ∧ f.value = value := by
  simp [fieldsOf, List.mem_map, List.mem_filter, and_assoc]

/-- The fields of a contact, in whatever order its rows are. -/
theorem fieldsOf_perm (h : rows.Perm rows') (uuid : Uuid) :
    (fieldsOf rows uuid).Perm (fieldsOf rows' uuid) :=
  (h.filter _).map _

/-- The rows of a contact among those a reader selects, when it selects
all of the contact's. -/
theorem fieldsOf_selected {o : RowOrder ContactFields} {p : ContactFields → Bool}
    (h : ∀ f ∈ rows, f.contactUuid = uuid → p f = true) :
    (fieldsOf (o.order (rows.filter p)) uuid).Perm (fieldsOf rows uuid) := by
  have hperm := fieldsOf_perm (o.perm (rows.filter p)) uuid
  rwa [fieldsOf_filter h] at hperm

/-- A contact that is kept keeps its fields, when others are dropped with
their rows. -/
theorem fieldsOf_dropContacts {db : Database} (huuids : (db.contacts.map Contact.uuid).Nodup)
    {p : Contact → Bool} {c : Contact} (hc : c ∈ db.contacts) (hp : p c = false) :
    fieldsOf (db.dropContacts p).contactFields c.uuid = fieldsOf db.contactFields c.uuid := by
  refine fieldsOf_filter fun f _ hfc => ?_
  rw [Bool.not_eq_true', List.any_eq_false]
  intro d hd hdf
  rw [Bool.and_eq_true, decide_eq_true_eq] at hdf
  -- the one contact of that uuid is kept
  have hdc : d = c := eq_of_key huuids hd hc (hdf.2.trans hfc)
  rw [hdc, hp] at hdf
  cases hdf.1

end Fields

end WazoDird
