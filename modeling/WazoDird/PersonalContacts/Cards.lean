import WazoDird.Database.Queries.ContactCards
import WazoDird.Database.Queries.ContactHash
import WazoDird.PersonalContacts.Edit

/-!
# The personal contacts, as a book of cards

Under the invariant the cards of the users are a book (`book`), and the
hashes that the writers go by tell the contents of a user's cards apart
(`hash_eq_iff`).
-/

namespace WazoDird

open PersonalContactCRUD PersonalImport

namespace PersonalContacts

/-- The contents of a contact as a request carries it. -/
def contentsOf (info : TextInfo) : Contents := (info.erase "id").get?

/-- The card under a uuid: the contact's, if it is a user's. -/
def cardOf (db : Database) : Uuid → Option (Uuid × Contents) := db.cardOf Contact.userUuid

variable {enc : Encoding} {ids : String → Prop} {db db' : Database} {c : Contact}
  {userUuid uuid : Uuid} {info info' : TextInfo} {x : Uuid × Contents}

/-! ## Contents -/

/-- Contents are those of the same contact, but for its id. -/
theorem contentsOf_eq_iff :
    contentsOf info = contentsOf info' ↔ (info.erase "id").Same (info'.erase "id") := by
  rw [Dict.same_iff, contentsOf, contentsOf, funext_iff]

/-- The id is not in the contents. -/
theorem contentsOf_set_id (info : TextInfo) (id : String) :
    contentsOf (info.set "id" id) = contentsOf info := by
  rw [contentsOf_eq_iff, Dict.same_iff]
  intro k
  rw [Dict.get?_erase, Dict.get?_erase, Dict.get?_set]
  split
  · rfl
  · rfl

/-- A contact is read as it was written. -/
theorem readContents_eq {contact : ContactInfo} (h : contact.Same (info.map some)) :
    readContents contact = contentsOf info := by
  funext k
  rw [readContents, contentsOf, Dict.get?_erase, Dict.get?_erase]
  split
  · rfl
  · rw [Dict.same_iff.1 h, Dict.get?_map]
    cases info.get? k with
    | none | some => rfl

/-- **A hash is that of the contents.** -/
theorem hashOf_eq_iff (hsha : Function.Injective enc.sha1) :
    hashOf enc info = hashOf enc info' ↔ contentsOf info = contentsOf info' := by
  rw [contentsOf_eq_iff, ← Encoding.stringRepresentation_eq_iff enc]
  exact hsha.eq_iff

/-! ## The book -/

/-- A card is that of a contact of a user. -/
theorem cardOf_eq_some_iff (h : (db.contacts.map Contact.uuid).Nodup) :
    cardOf db uuid = some x ↔ ∃ c ∈ db.contacts, c.uuid = uuid ∧ c.userUuid = some x.1 ∧
      readContents (shown db uuid) = x.2 :=
  Database.cardOf_eq_some_iff h

/-- The card of a contact of a user. -/
theorem Kept.exists_card (h : Kept enc ids db) (hc : c ∈ db.contacts)
    (hu : c.userUuid = some userUuid) :
    ∃ info, cardOf db c.uuid = some (userUuid, contentsOf info) ∧ c.hash = hashOf enc info := by
  obtain ⟨info, hshown, hhash, -⟩ := exists_shown h hc (by rw [hu]; rfl)
  exact ⟨info, (cardOf_eq_some_iff h.uuids).2 ⟨c, hc, rfl, hu, readContents_eq hshown⟩, hhash⟩

/-- **The hashes tell a user's cards apart.** -/
theorem Kept.hash_eq_iff (hsha : Function.Injective enc.sha1) (h : Kept enc ids db)
    (hc : c ∈ db.contacts) (hu : c.userUuid = some userUuid) :
    c.hash = hashOf enc info ↔ cardOf db c.uuid = some (userUuid, contentsOf info) := by
  obtain ⟨own, hcard, hhash⟩ := h.exists_card hc hu
  rw [hcard, hhash, hashOf_eq_iff hsha]
  simp

/-- **The personal contacts are a book.** -/
def book (db : Database) (hsha : Function.Injective enc.sha1) (h : Kept enc ids db) :
    Book Uuid Uuid Contents where
  card := cardOf db
  distinct i j x hi hj := by
    obtain ⟨c, hc, rfl, hcu, hci⟩ := (cardOf_eq_some_iff h.uuids).1 hi
    obtain ⟨d, hd, rfl, hdu, hdi⟩ := (cardOf_eq_some_iff h.uuids).1 hj
    obtain ⟨info, hcard, hhash⟩ := h.exists_card hd hdu
    have hx : x = (x.1, contentsOf info) := Option.some.inj (hj.symm.trans hcard)
    have hchash := (h.hash_eq_iff hsha hc hcu).2 (hi.trans (congrArg some hx))
    rw [h.hashes c hc d hd (by rw [hcu]; rfl) (hcu.trans hdu.symm) (hchash.trans hhash.symm)]

/-- A user has a card of some contents when a contact of the user has their
hash. -/
theorem exists_card_iff (hsha : Function.Injective enc.sha1) (h : Kept enc ids db) :
    (∃ i, cardOf db i = some (userUuid, contentsOf info)) ↔
      ∃ c, StoredUnder db userUuid (hashOf enc info) c := by
  constructor
  · rintro ⟨i, hi⟩
    obtain ⟨c, hc, rfl, hu, -⟩ := (cardOf_eq_some_iff h.uuids).1 hi
    exact ⟨c, hc, hu, (h.hash_eq_iff hsha hc hu).2 hi⟩
  · rintro ⟨c, hc⟩
    exact ⟨c.uuid, (h.hash_eq_iff hsha hc.mem hc.user).1 hc.hash⟩

/-! ## Cards added and dropped -/

/-- **A contact added is one more card**, and no other changes. -/
theorem cardOf_added {fields : List ContactFields}
    (hnew : ∀ d ∈ db.contacts, d.uuid ≠ c.uuid) (hu : c.userUuid = some userUuid)
    (hown : ∀ f ∈ fields, f.contactUuid = c.uuid)
    (hclean : fieldsOf db.contactFields c.uuid = [])
    (hfields : fieldsOf fields c.uuid = info.entries.map fun e => (e.1, some e.2)) :
    cardOf db c.uuid = none ∧
      cardOf (db.addContact c fields) c.uuid = some (userUuid, contentsOf info) ∧
      ∀ i, i ≠ c.uuid → cardOf (db.addContact c fields) i = cardOf db i := by
  have hshown : readContents (Dict.ofList (fieldsOf fields c.uuid)) = contentsOf info :=
    readContents_eq (@shown_same { contactFields := fields } info c.uuid hfields)
  rw [← hshown]
  exact Database.cardOf_addContact hnew hu hown hclean

/-- **A contact dropped is its card gone**, and no other changes. -/
theorem cardOf_dropContacts (h : Kept enc ids db) {p : Contact → Bool} :
    cardOf (db.dropContacts p) uuid = some x ↔
      cardOf db uuid = some x ∧ ∀ c ∈ db.contacts, c.uuid = uuid → p c = false :=
  Database.cardOf_dropContacts h.uuids

end PersonalContacts

end WazoDird
