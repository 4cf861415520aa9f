import WazoDird.Database.Queries.ContactCards
import WazoDird.PhonebookContacts.Import
import WazoDird.PhonebookContacts.Reads

/-!
# The contacts of the phonebooks, as a book of cards

Each contact of a phonebook is a card of that phonebook's. Where the bodies
are of texts and none has an id, which is what the service hands on, a card
says what the contact was last written with (`Kept.exists_card`), the
hashes that the writers go by tell the cards of a phonebook apart
(`Kept.hash_eq_iff`), and so the cards are a book (`book`).
-/

namespace WazoDird

open PhonebookContactCRUD

namespace PhonebookContacts

/-- **A body that is a card**: of texts, and without an id. -/
structure CardBody (body : ContactBody) : Prop where
  no_id : body.get? "id" = none
  texts : Within (fun v => ∃ a, v = .str a) body

/-- The contents of a contact as a writer is given it. -/
def contentsOf (body : ContactBody) : Contents := fun k => (body.get? k).bind Value.asStr?

/-- **No contact of a phonebook is a user's too.** -/
def Sole (db : Database) : Prop :=
  ∀ c ∈ db.contacts, c.phonebookUuid.isSome → c.userUuid = none

variable {enc : Encoding} {s : Store} {c : Contact} {body body' : ContactBody} {p : Uuid}

/-! ## Contents -/

/-- A body of texts is its contents. -/
theorem CardBody.get?_eq (h : CardBody body) (k : String) :
    body.get? k = (contentsOf body k).map Value.str := by
  rw [contentsOf]
  cases hv : body.get? k with
  | none => rfl
  | some v =>
      obtain ⟨a, rfl⟩ := h.texts k v hv
      rfl

/-- Contents are those of the same body. -/
theorem contentsOf_eq_iff (h : CardBody body) (h' : CardBody body') :
    contentsOf body = contentsOf body' ↔ body.Same body' := by
  rw [Dict.same_iff]
  constructor
  · intro heq k
    rw [h.get?_eq, h'.get?_eq, heq]
  · intro hsame
    funext k
    rw [contentsOf, contentsOf, hsame]

/-- A body with an item says something. -/
theorem CardBody.says_iff (h : CardBody body) :
    (∃ k a, contentsOf body k = some a) ↔ body.entries ≠ [] := by
  constructor
  · rintro ⟨k, a, hk⟩ hnil
    have hget : body.get? k = some (.str a) := by rw [h.get?_eq, hk, Option.map_some]
    rw [Dict.get?_eq_some_iff, hnil] at hget
    cases hget
  · intro hne
    obtain ⟨⟨k, v⟩, hmem⟩ := List.exists_mem_of_ne_nil _ hne
    have hget : body.get? k = some v := Dict.get?_eq_some_iff.2 hmem
    obtain ⟨a, rfl⟩ := h.texts k v hget
    exact ⟨k, a, by rw [contentsOf, hget]; rfl⟩

/-- **A contact is read as it was last written**, in whatever order its
rows come. -/
theorem Represents.readContents_eq (h : Represents enc s c body) (hbody : CardBody body)
    {fields : List (String × Option String)}
    (hperm : fields.Perm (fieldsOf s.db.contactFields c.uuid)) :
    readContents (Dict.ofList fields) = contentsOf body := by
  funext k
  rw [readContents, Dict.get?_erase]
  split
  · next hk =>
    rw [← hk, contentsOf, hbody.no_id]
    rfl
  · next hk =>
    refine Option.ext fun a => ?_
    rw [Option.join_eq_some_iff, h.get?_read hbody.no_id hperm]
    constructor
    · rintro (⟨rfl, -, -⟩ | ⟨v, hv, hvt⟩)
      · exact absurd rfl hk
      · obtain ⟨a', rfl⟩ := hbody.texts k v hv
        cases Encoding.columnText_str_ok hvt
        rw [contentsOf, hv]
        rfl
    · intro ha
      have hv : body.get? k = some (.str a) := by rw [hbody.get?_eq, ha, Option.map_some]
      obtain ⟨t, ht⟩ := h.exists_text hv
      cases Encoding.columnText_str_ok ht
      exact Or.inr ⟨_, hv, ht⟩

/-! ## The book -/

/-- **The card of a contact** says what it was last written with. -/
theorem Kept.exists_card (h : Kept enc s) (hbodies : s.BodiesAre CardBody)
    (hc : c ∈ s.db.contacts) (hp : c.phonebookUuid = some p) :
    ∃ body, Represents enc s c body ∧ CardBody body ∧
      s.db.cardOf Contact.phonebookUuid c.uuid = some (p, contentsOf body) := by
  obtain ⟨body, hrep⟩ := h.stored c hc (by rw [hp]; rfl)
  have hbody := hbodies _ _ hrep.written
  refine ⟨body, hrep, hbody, (Database.cardOf_eq_some_iff h.uuids).2 ⟨c, hc, rfl, hp, ?_⟩⟩
  exact hrep.readContents_eq hbody (List.Perm.refl _)

/-- **The hashes tell the cards of a phonebook apart.** -/
theorem Kept.hash_eq_iff (hsha : Function.Injective enc.sha1) (h : Kept enc s)
    (hbodies : s.BodiesAre CardBody) (hc : c ∈ s.db.contacts) (hp : c.phonebookUuid = some p)
    (hbody : CardBody body) :
    c.hash = enc.computeContactHash body ↔
      s.db.cardOf Contact.phonebookUuid c.uuid = some (p, contentsOf body) := by
  obtain ⟨own, hrep, hown, hcard⟩ := h.exists_card hbodies hc hp
  rw [hcard, hrep.hash, Option.some.injEq, Prod.mk.injEq, contentsOf_eq_iff hown hbody]
  constructor
  · intro hhash
    exact ⟨rfl, same_of_hash hsha hbody.no_id hown.no_id hbody.texts hhash⟩
  · rintro ⟨-, hsame⟩
    exact hash_of_same hsame

/-- **The contacts of the phonebooks are a book.** -/
def book (s : Store) (h : Kept enc s) (hbodies : s.BodiesAre CardBody) :
    Book Uuid Uuid Contents where
  card := s.db.cardOf Contact.phonebookUuid
  distinct i j x hi hj := by
    obtain ⟨c, hc, rfl, hcp, -⟩ := (Database.cardOf_eq_some_iff h.uuids).1 hi
    obtain ⟨d, hd, rfl, hdp, -⟩ := (Database.cardOf_eq_some_iff h.uuids).1 hj
    obtain ⟨own, hrep, hown, hcard⟩ := h.exists_card hbodies hc hcp
    obtain ⟨own', hrep', hown', hcard'⟩ := h.exists_card hbodies hd hdp
    have hsame : own.Same own' := by
      rw [← contentsOf_eq_iff hown hown']
      have heq := (hcard.symm.trans hi).trans (hj.symm.trans hcard')
      exact (Prod.mk.inj (Option.some.inj heq)).2
    have hhash : c.hash = d.hash := by rw [hrep.hash, hrep'.hash, hash_of_same hsame]
    rw [h.hashes c hc d hd (by rw [hcp]; rfl) (hcp.trans hdp.symm) hhash]

/-- **The store shows a book**: it meets the invariants, and the cards of
the book are its. -/
structure ShowsBook (enc : Encoding) (s : Store) (b : Book Uuid Uuid Contents) : Prop where
  kept : Kept enc s
  bodies : s.BodiesAre CardBody
  sole : Sole s.db
  card : b.card = s.db.cardOf Contact.phonebookUuid

section ShowsBook

variable {b b' : Book Uuid Uuid Contents} {uuid : Uuid}

/-- One store shows one book. -/
theorem ShowsBook.unique (h : ShowsBook enc s b) (h' : ShowsBook enc s b') : b' = b :=
  Book.ext (h'.card.trans h.card.symm)

/-- The book has what the writers find by its hash. -/
theorem ShowsBook.has_iff (hsha : Function.Injective enc.sha1) (h : ShowsBook enc s b)
    (hbody : CardBody body) : b.Has p (contentsOf body) ↔
      ∃ c ∈ s.db.contacts, c.phonebookUuid = some p ∧ c.hash = enc.computeContactHash body := by
  rw [Book.Has, h.card]
  constructor
  · rintro ⟨i, hi⟩
    obtain ⟨c, hc, rfl, hp, -⟩ := (Database.cardOf_eq_some_iff h.kept.uuids).1 hi
    exact ⟨c, hc, hp, (h.kept.hash_eq_iff hsha h.bodies hc hp hbody).2 hi⟩
  · rintro ⟨c, hc, hp, hhash⟩
    exact ⟨c.uuid, (h.kept.hash_eq_iff hsha h.bodies hc hp hbody).1 hhash⟩

/-- The book has the cards of a phonebook's contacts. -/
theorem ShowsBook.owns_iff (h : ShowsBook enc s b) :
    b.Owns p uuid ↔ ∃ c ∈ s.db.contacts, c.uuid = uuid ∧ c.phonebookUuid = some p := by
  rw [Book.Owns, h.card]
  exact Database.exists_cardOf_iff h.kept.uuids

end ShowsBook

end PhonebookContacts

end WazoDird
