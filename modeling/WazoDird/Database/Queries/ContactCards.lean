import WazoDird.Common.Book
import WazoDird.Database.Queries.ContactRows

/-!
# The contacts of an owner, as cards

A contact is of a user or of a phonebook. For either kind of owner each
contact is a card of its owner's: its id is the uuid, and its contents are
the names and texts of its rows but the id. Here is what the cards are
after a contact is added, and after contacts are dropped.
-/

namespace WazoDird

/-- **What a card says**: the text under each name but the id. -/
abbrev Contents := String → Option String

/-- The contents of a contact as it is read. -/
def readContents (contact : ContactInfo) : Contents := fun k => ((contact.erase "id").get? k).join

/-- Contacts read alike have the same contents. -/
theorem readContents_congr {contact other : ContactInfo} (h : contact.Same other) :
    readContents contact = readContents other := by
  funext k
  rw [readContents, readContents, Dict.get?_erase, Dict.get?_erase, Dict.same_iff.1 h]

/-- What the caller of a writer is told. -/
def answerOf {α : Type} : Except DirdError α → Book.Answer
  | .ok _ => .done
  | .error .duplicatedContact => .duplicated
  | .error (.noSuchContact _) => .missing
  | .error _ => .refused

/-- What a flush raises is a refusal, when what is made of an integrity
error is. -/
theorem answerOf_raiseFault {α : Type} {fault : Option FlushFault} {handler : String → DirdError}
    {e : DirdError} (hh : ∀ a, answerOf (.error (handler a) : Except DirdError α) = .refused)
    (h : raiseFault fault handler = .error e) :
    answerOf (.error e : Except DirdError α) = .refused := by
  rcases raiseFault_error h with ⟨a, rfl⟩ | rfl | ⟨_, rfl⟩
  · exact hh a
  · rfl
  · rfl

namespace Database

/-- What the rows of a contact say. -/
def contents (db : Database) (uuid : Uuid) : Contents :=
  readContents (Dict.ofList (fieldsOf db.contactFields uuid))

/-- The card under a uuid: the contact's, if it has an owner. -/
def cardOf (owner : Contact → Option Uuid) (db : Database) (uuid : Uuid) :
    Option (Uuid × Contents) :=
  ((db.contacts.find? (·.uuid = uuid)).bind owner).map fun w => (w, db.contents uuid)

/-- The database with one more contact, and its rows. -/
def addContact (db : Database) (c : Contact) (fields : List ContactFields) : Database :=
  { db with
    contacts := db.contacts ++ [c]
    contactFields := db.contactFields ++ fields }

variable {owner : Contact → Option Uuid} {db db' : Database} {c : Contact} {w uuid : Uuid}
  {x : Uuid × Contents}

/-- A card is that of a contact with an owner. -/
theorem cardOf_eq_some_iff (h : (db.contacts.map Contact.uuid).Nodup) :
    db.cardOf owner uuid = some x ↔
      ∃ c ∈ db.contacts, c.uuid = uuid ∧ owner c = some x.1 ∧ db.contents uuid = x.2 := by
  constructor
  · intro hcard
    obtain ⟨w, hw, rfl⟩ := Option.map_eq_some_iff.1 hcard
    obtain ⟨c, hfind, hw⟩ := Option.bind_eq_some_iff.1 hw
    exact ⟨c, List.mem_of_find?_eq_some hfind, by simpa using List.find?_some hfind, hw, rfl⟩
  · rintro ⟨c, hc, rfl, hw, hcontents⟩
    rw [cardOf, find?_key h hc, Option.bind_some, hw, Option.map_some, hcontents]

/-- A card is an owner's when a contact of that uuid is. -/
theorem exists_cardOf_iff (h : (db.contacts.map Contact.uuid).Nodup) :
    (∃ k, db.cardOf owner uuid = some (w, k)) ↔
      ∃ c ∈ db.contacts, c.uuid = uuid ∧ owner c = some w := by
  constructor
  · rintro ⟨k, hk⟩
    obtain ⟨c, hc, huuid, hw, -⟩ := (cardOf_eq_some_iff h).1 hk
    exact ⟨c, hc, huuid, hw⟩
  · rintro ⟨c, hc, huuid, hw⟩
    exact ⟨_, (cardOf_eq_some_iff h).2 ⟨c, hc, huuid, hw, rfl⟩⟩

/-- The cards are those of two tables. -/
theorem cardOf_congr (hcontacts : db'.contacts = db.contacts)
    (hfields : db'.contactFields = db.contactFields) : db'.cardOf owner = db.cardOf owner := by
  funext uuid
  rw [cardOf, cardOf, hcontacts, contents, contents, hfields]

/-- **A contact added is one more card**, and no other changes. -/
theorem cardOf_addContact {fields : List ContactFields}
    (hnew : ∀ d ∈ db.contacts, d.uuid ≠ c.uuid) (hw : owner c = some w)
    (hown : ∀ f ∈ fields, f.contactUuid = c.uuid)
    (hclean : fieldsOf db.contactFields c.uuid = []) :
    db.cardOf owner c.uuid = none ∧
      (db.addContact c fields).cardOf owner c.uuid =
        some (w, readContents (Dict.ofList (fieldsOf fields c.uuid))) ∧
      ∀ i, i ≠ c.uuid → (db.addContact c fields).cardOf owner i = db.cardOf owner i := by
  have hnone : db.contacts.find? (·.uuid = c.uuid) = none :=
    List.find?_eq_none.2 fun d hd => by simpa using hnew d hd
  refine ⟨?_, ?_, fun i hi => ?_⟩
  · rw [cardOf, hnone]
    rfl
  · rw [cardOf, contents, addContact, fieldsOf_append, hclean, List.nil_append, List.find?_append,
      hnone, Option.none_or, List.find?_cons_of_pos (by simp), Option.bind_some, hw,
      Option.map_some]
  · have hnil : fieldsOf fields i = [] :=
      fieldsOf_eq_nil fun f hf hfi => hi (hfi.symm.trans (hown f hf))
    rw [cardOf, cardOf, contents, contents, addContact, List.find?_append,
      List.find?_cons_of_neg (by simpa using Ne.symm hi), List.find?_nil, Option.or_none,
      fieldsOf_append, hnil, List.append_nil]

/-- **A contact dropped is its card gone**, and no other changes. -/
theorem cardOf_dropContacts (h : (db.contacts.map Contact.uuid).Nodup) {p : Contact → Bool} :
    (db.dropContacts p).cardOf owner uuid = some x ↔
      db.cardOf owner uuid = some x ∧ ∀ c ∈ db.contacts, c.uuid = uuid → p c = false := by
  have h' : ((db.dropContacts p).contacts.map Contact.uuid).Nodup := keys_filter h _
  rw [cardOf_eq_some_iff h', cardOf_eq_some_iff h]
  constructor
  · rintro ⟨c, hc, rfl, hw, hcontents⟩
    obtain ⟨hc, hp⟩ := List.mem_filter.1 hc
    have hp : p c = false := by simpa using hp
    rw [contents, fieldsOf_dropContacts h hc hp] at hcontents
    refine ⟨⟨c, hc, rfl, hw, hcontents⟩, fun d hd hdc => ?_⟩
    rwa [eq_of_key h hd hc hdc]
  · rintro ⟨⟨c, hc, rfl, hw, hcontents⟩, hp⟩
    refine ⟨c, List.mem_filter.2 ⟨hc, by simpa using hp c hc rfl⟩, rfl, hw, ?_⟩
    rw [contents, fieldsOf_dropContacts h hc (hp c hc rfl)]
    exact hcontents

end Database

end WazoDird
