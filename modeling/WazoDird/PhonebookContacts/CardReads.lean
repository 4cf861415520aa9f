import WazoDird.Database.Queries.ContactSearch
import WazoDird.PhonebookContacts.Cards

/-!
# The readers of the phonebooks, by the cards

A contact is read when it has a row, and so when its card says something.
What the readers return of a phonebook are then its cards, each once: `get`
the card under a uuid, `list` and the search of a lookup the cards that have
a text the search finds. `count` counts the cards that say nothing too. A
search for a null character is refused by all three.
-/

namespace WazoDird

open PhonebookContactCRUD

namespace PhonebookContacts

/-- **What the rows of a card are**: its names and texts and, when it says
something, its id. -/
def CardRow (uuid : Uuid) (k : Contents) (name a : String) : Prop :=
  k name = some a ∨ name = "id" ∧ a = uuid ∧ ∃ name a, k name = some a

/-- A search of a phonebook's listing finds a card: there is none, or it is
in a text of the card. -/
def Finds (lower : String → String) (search : Option String) (uuid : Uuid) (k : Contents) : Prop :=
  ∀ term, search.filter (· ≠ "") = some term →
    ∃ name a, CardRow uuid k name a ∧ ilike lower ("%" ++ term ++ "%") a = true

/-- **The readers of the phonebooks show a book.** Of a phonebook that is
seen, `get` returns the card under a uuid that says something; `list`
returns each of them that the search finds, and `count` counts those that
say nothing too; and what a lookup returns of the phonebooks it sees is each
card with the term in a searched column. What the driver does not take is
refused. -/
structure ReadsBook (lower : String → String) (db : Database) (b : Book Uuid Uuid Contents) :
    Prop where
  get : ∀ (o : RowOrder ContactFields) visibleTenants key p,
    getPhonebook db visibleTenants key = .ok p → ∀ contactUuid k,
      (∃ contact, PhonebookContactCRUD.get o db visibleTenants key contactUuid = .ok contact ∧
        readContents contact = k) ↔
      b.card contactUuid = some (p.uuid, k) ∧ ∃ name a, k name = some a
  list : ∀ (o : RowOrder ContactFields) visibleTenants key p search,
    getPhonebook db visibleTenants key = .ok p → NullFree search.toList →
      ∃ uuids contacts,
        PhonebookContactCRUD.list lower o db visibleTenants key search = .ok contacts ∧
        uuids.Nodup ∧
        (∀ i, i ∈ uuids ↔ ∃ k, b.card i = some (p.uuid, k) ∧ (∃ name a, k name = some a) ∧
          Finds lower search i k) ∧
        List.Forall₂ (fun i contact => b.card i = some (p.uuid, readContents contact))
          uuids contacts
  count : ∀ visibleTenants key p search, getPhonebook db visibleTenants key = .ok p →
    NullFree search.toList → ∃ uuids : List Uuid,
      PhonebookContactCRUD.count lower db visibleTenants key search = .ok uuids.length ∧
      uuids.Nodup ∧
      ∀ i, i ∈ uuids ↔ ∃ k, b.card i = some (p.uuid, k) ∧ Finds lower search i k
  refused : ∀ (o : RowOrder ContactFields) visibleTenants key p search,
    getPhonebook db visibleTenants key = .ok p → ¬ NullFree search.toList →
      PhonebookContactCRUD.list lower o db visibleTenants key search =
          .error (.python .valueError) ∧
        PhonebookContactCRUD.count lower db visibleTenants key search =
          .error (.python .valueError)
  lookup : ∀ (engine : PhonebookContactSearchEngine) (ou : RowOrder Uuid)
      (o : RowOrder ContactFields) term, engine.Takes engine.searchedColumns term →
    ∃ (uuids : List Uuid) (contacts : List ContactInfo),
      engine.findContacts lower ou o db term = .ok contacts ∧ uuids.Nodup ∧
      (∀ i, i ∈ uuids ↔ ∃ p ∈ db.phonebooks,
        phonebookSelector engine.visibleTenants engine.phonebookKey p = true ∧
        ∃ k, b.card i = some (p.uuid, k) ∧ ∃ name ∈ engine.searchedColumns.getD [], ∃ a,
          CardRow i k name a ∧ ilike lower ("%" ++ term ++ "%") a = true) ∧
      List.Forall₂ (fun i contact => ∃ p, b.card i = some (p, readContents contact))
        uuids contacts
  lookup_refused : ∀ (engine : PhonebookContactSearchEngine) (ou : RowOrder Uuid)
      (o : RowOrder ContactFields) term, ¬ engine.Takes engine.searchedColumns term →
    engine.findContacts lower ou o db term = .error (.python .valueError)

variable {enc : Encoding} {lower : String → String} {s : Store} {b : Book Uuid Uuid Contents}
  {c : Contact} {body : ContactBody} {p : Phonebook} {visibleTenants : Option (List Uuid)}
  {key : PhonebookKey} {contactUuid : String} {search : Option String} {k : Contents}
  {o : RowOrder ContactFields}

/-! ## The rows of a card -/

/-- **The rows of a contact are those of its card.** -/
theorem Represents.mem_fields_iff (h : Represents enc s c body) (hbody : CardBody body)
    {name a : String} : (name, some a) ∈ fieldsOf s.db.contactFields c.uuid ↔
      CardRow c.uuid (contentsOf body) name a := by
  rw [h.mem_fields, CardRow, hbody.says_iff, Option.some.injEq, or_comm]
  refine or_congr ?_ Iff.rfl
  constructor
  · rintro ⟨v, hv, ht⟩
    obtain ⟨a', rfl⟩ := hbody.texts name v hv
    cases Encoding.columnText_str_ok ht
    rw [contentsOf, hv]
    rfl
  · intro ha
    have hv : body.get? name = some (.str a) := by rw [hbody.get?_eq, ha, Option.map_some]
    obtain ⟨t, ht⟩ := h.exists_text hv
    cases Encoding.columnText_str_ok ht
    exact ⟨_, hv, ht⟩

/-- A row of a contact that has a property, by its card. -/
theorem Represents.exists_row_iff (h : Represents enc s c body) (hbody : CardBody body)
    {P Q : String → Prop} :
    (∃ row ∈ s.db.contactFields, row.contactUuid = c.uuid ∧ P row.name ∧
      ∃ v, row.value = some v ∧ Q v) ↔
    ∃ name, P name ∧ ∃ a, CardRow c.uuid (contentsOf body) name a ∧ Q a := by
  simp only [← h.mem_fields_iff hbody, mem_fieldsOf]
  constructor
  · rintro ⟨row, hrow, hc, hP, v, hv, hQ⟩
    exact ⟨row.name, hP, v, ⟨row, hrow, hc, rfl, hv⟩, hQ⟩
  · rintro ⟨name, hP, a, ⟨row, hrow, hc, rfl, hv⟩, hQ⟩
    exact ⟨row, hrow, hc, hP, a, hv, hQ⟩

/-- The search of a listing lets a contact through when it finds its card. -/
theorem Represents.contactSearchFilter_iff (h : Represents enc s c body) (hbody : CardBody body) :
    contactSearchFilter lower s.db search c.uuid = true ↔
      Finds lower search c.uuid (contentsOf body) := by
  rw [contactSearchFilter, Finds]
  cases search.filter (· ≠ "") with
  | none => simp
  | some term =>
      have hrow := h.exists_row_iff hbody (P := fun _ => True)
        (Q := fun a => ilike lower ("%" ++ term ++ "%") a = true)
      simp only [true_and] at hrow
      simp only [Option.some.injEq, forall_eq', ← hrow, List.any_eq_true, Bool.and_eq_true,
        decide_eq_true_eq]
      refine exists_congr fun row => and_congr_right fun _ => and_congr_right fun _ => ?_
      cases row.value with
      | none => simp
      | some v => simp

/-- **A card of the book is a contact**, and says what that was last
written with. -/
theorem ShowsBook.card_iff (h : ShowsBook enc s b) {i phonebookUuid : Uuid} :
    b.card i = some (phonebookUuid, k) ↔
      ∃ c ∈ s.db.contacts, c.uuid = i ∧ c.phonebookUuid = some phonebookUuid ∧
        ∃ body, Represents enc s c body ∧ CardBody body ∧ contentsOf body = k := by
  rw [h.card]
  constructor
  · intro hcard
    obtain ⟨c, hc, rfl, hcp, -⟩ := (Database.cardOf_eq_some_iff h.kept.uuids).1 hcard
    obtain ⟨body, hrep, hbody, hown⟩ := h.kept.exists_card h.bodies hc hcp
    have hk := (Prod.mk.inj (Option.some.inj (hown.symm.trans hcard))).2
    exact ⟨c, hc, rfl, hcp, body, hrep, hbody, hk⟩
  · rintro ⟨c, hc, rfl, hcp, body, hrep, hbody, rfl⟩
    refine (Database.cardOf_eq_some_iff h.kept.uuids).2 ⟨c, hc, rfl, hcp, ?_⟩
    exact hrep.readContents_eq hbody (List.Perm.refl _)

/-- The card of a contact that has its rows says what they do. -/
theorem ShowsBook.card_of_rows (h : ShowsBook enc s b) (hc : c ∈ s.db.contacts)
    {phonebookUuid : Uuid} (hcp : c.phonebookUuid = some phonebookUuid)
    {fields : List (String × Option String)}
    (hperm : fields.Perm (fieldsOf s.db.contactFields c.uuid)) :
    b.card c.uuid = some (phonebookUuid, readContents (Dict.ofList fields)) := by
  obtain ⟨body, hrep, hbody, -⟩ := h.kept.exists_card h.bodies hc hcp
  exact h.card_iff.2 ⟨c, hc, rfl, hcp, body, hrep, hbody, (hrep.readContents_eq hbody hperm).symm⟩

/-! ## The three readers of the CRUD -/

/-- A contact that `get` reads is one of the phonebook that has a row. -/
theorem exists_of_get {contact : ContactInfo}
    (hp : getPhonebook s.db visibleTenants key = .ok p)
    (hget : PhonebookContactCRUD.get o s.db visibleTenants key contactUuid = .ok contact) :
    ∃ c ∈ s.db.contacts, c.uuid = contactUuid ∧ c.phonebookUuid = some p.uuid ∧
      fieldsOf s.db.contactFields c.uuid ≠ [] := by
  obtain ⟨q, hq, hget⟩ := bind_eq_ok.1 hget
  rw [hp] at hq
  cases hq
  obtain ⟨⟨⟩, hrows, -⟩ := bind_eq_ok.1 hget
  obtain ⟨f, hf⟩ := List.exists_mem_of_ne_nil _ (raiseIf_ok.1 hrows)
  obtain ⟨hf, hany⟩ := List.mem_filter.1 (o.mem_order.1 hf)
  obtain ⟨c, hc, hsel⟩ := List.any_eq_true.1 hany
  simp only [newContactFilter, Bool.and_eq_true, decide_eq_true_eq] at hsel
  obtain ⟨hcf, ⟨huuid, hcp⟩, -⟩ := hsel
  exact ⟨c, hc, huuid, hcp, fieldsOf_ne_nil.2 ⟨f, hf, hcf.symm⟩⟩

/-- **One contact read** is one card of the phonebook's. -/
theorem ShowsBook.get_iff (h : ShowsBook enc s b)
    (hp : getPhonebook s.db visibleTenants key = .ok p) :
    (∃ contact, PhonebookContactCRUD.get o s.db visibleTenants key contactUuid = .ok contact ∧
      readContents contact = k) ↔
    b.card contactUuid = some (p.uuid, k) ∧ ∃ name a, k name = some a := by
  have hread : ∀ {c body}, c ∈ s.db.contacts → c.phonebookUuid = some p.uuid →
      Represents enc s c body → CardBody body → body.entries ≠ [] → ∃ contact,
        PhonebookContactCRUD.get o s.db visibleTenants key c.uuid = .ok contact ∧
        readContents contact = contentsOf body := by
    intro c body hc hcp hrep hbody hne
    obtain ⟨fields, hperm, hget⟩ := get_eq_ok (o := o) hc hcp hp hrep hbody.no_id hne
    exact ⟨_, hget, hrep.readContents_eq hbody hperm⟩
  rw [h.card_iff]
  constructor
  · rintro ⟨contact, hget, rfl⟩
    obtain ⟨c, hc, rfl, hcp, hrow⟩ := exists_of_get hp hget
    obtain ⟨body, hrep, hbody, -⟩ := h.kept.exists_card h.bodies hc hcp
    have hne := hrep.fields_ne_nil.1 hrow
    obtain ⟨contact', hget', hcontents⟩ := hread hc hcp hrep hbody hne
    rw [hget] at hget'
    cases hget'
    rw [hcontents]
    exact ⟨⟨c, hc, rfl, hcp, body, hrep, hbody, rfl⟩, hbody.says_iff.2 hne⟩
  · rintro ⟨⟨c, hc, rfl, hcp, body, hrep, hbody, rfl⟩, hsays⟩
    exact hread hc hcp hrep hbody (hbody.says_iff.1 hsays)

/-- **The list of a phonebook** has each of its cards that says something,
and that the search finds, once. -/
theorem ShowsBook.list (h : ShowsBook enc s b)
    (hp : getPhonebook s.db visibleTenants key = .ok p) (htexts : NullFree search.toList) :
    ∃ uuids contacts,
      PhonebookContactCRUD.list lower o s.db visibleTenants key search = .ok contacts ∧
      uuids.Nodup ∧
      (∀ i, i ∈ uuids ↔ ∃ k, b.card i = some (p.uuid, k) ∧ (∃ name a, k name = some a) ∧
        Finds lower search i k) ∧
      List.Forall₂ (fun i contact => b.card i = some (p.uuid, readContents contact))
        uuids contacts := by
  have hpmem := (getPhonebook_ok hp).1
  obtain ⟨contacts, hlist, hkeys, hget⟩ := list_eq_ok lower o search htexts hp
  refine ⟨contacts.keys, contacts.values, hlist, contacts.nodup, fun i => ?_,
    Dict.forall₂_keys_values fun i info hinfo => ?_⟩
  · rw [hkeys]
    simp only [h.card_iff, queryContacts_iff hpmem]
    constructor
    · rintro ⟨c, hc, rfl, ⟨hcp, hsearch⟩, hrow⟩
      obtain ⟨body, hrep, hbody, -⟩ := h.kept.exists_card h.bodies hc hcp
      exact ⟨_, ⟨c, hc, rfl, hcp, body, hrep, hbody, rfl⟩,
        hbody.says_iff.2 (hrep.fields_ne_nil.1 hrow),
        (hrep.contactSearchFilter_iff hbody).1 hsearch⟩
    · rintro ⟨_, ⟨c, hc, rfl, hcp, body, hrep, hbody, rfl⟩, hsays, hfinds⟩
      exact ⟨c, hc, rfl, ⟨hcp, (hrep.contactSearchFilter_iff hbody).2 hfinds⟩,
        hrep.fields_ne_nil.2 (hbody.says_iff.1 hsays)⟩
  · obtain ⟨fields, hperm, rfl⟩ := hget i info hinfo
    obtain ⟨c, hc, rfl, hquery, -⟩ := (hkeys i).1 (Dict.mem_keys_iff.2 (by rw [hinfo]; rfl))
    exact h.card_of_rows hc ((queryContacts_iff hpmem).1 hquery).1 hperm

/-- **The count of a phonebook** is that of its cards that the search
finds. -/
theorem ShowsBook.count (h : ShowsBook enc s b)
    (hp : getPhonebook s.db visibleTenants key = .ok p) (htexts : NullFree search.toList) :
    ∃ uuids : List Uuid,
      PhonebookContactCRUD.count lower s.db visibleTenants key search = .ok uuids.length ∧
      uuids.Nodup ∧
      ∀ i, i ∈ uuids ↔ ∃ k, b.card i = some (p.uuid, k) ∧ Finds lower search i k := by
  have hpmem := (getPhonebook_ok hp).1
  refine ⟨(s.db.contacts.filter (queryContacts lower s.db p.uuid search)).map Contact.uuid, ?_,
    keys_filter h.kept.uuids _, fun i => ?_⟩
  · rw [List.length_map]
    exact count_eq_ok h.kept htexts hp
  · simp only [h.card_iff, List.mem_map, List.mem_filter, queryContacts_iff hpmem]
    constructor
    · rintro ⟨c, ⟨hc, hcp, hsearch⟩, rfl⟩
      obtain ⟨body, hrep, hbody, -⟩ := h.kept.exists_card h.bodies hc hcp
      exact ⟨_, ⟨c, hc, rfl, hcp, body, hrep, hbody, rfl⟩,
        (hrep.contactSearchFilter_iff hbody).1 hsearch⟩
    · rintro ⟨_, ⟨c, hc, rfl, hcp, body, hrep, hbody, rfl⟩, hfinds⟩
      exact ⟨c, ⟨hc, hcp, (hrep.contactSearchFilter_iff hbody).2 hfinds⟩, rfl⟩

/-! ## The search of a lookup -/

/-- A contact listed with its id has the contents of its rows. -/
theorem readContents_of_hasColumns {uuid : Uuid} {fields : List (String × Option String)}
    {contact : ContactInfo} (hone : OneValued fields)
    (h : HasColumns (newContact uuid) fields contact) :
    readContents contact = readContents (Dict.ofList fields) := by
  funext name
  rw [readContents, readContents, Dict.get?_erase, Dict.get?_erase]
  split
  · rfl
  · next hname =>
    refine congrArg Option.join (Option.ext fun t => ?_)
    rw [h name t, Dict.get?_ofList_eq_some_iff hone]
    refine or_iff_left ?_
    rintro ⟨-, hid⟩
    rw [newContact, Dict.get?_set, if_neg hname] at hid
    cases hid

/-- **A lookup finds cards**: those of the phonebooks that it sees that have
the term in a searched column, each once. -/
theorem ShowsBook.lookup (h : ShowsBook enc s b) (engine : PhonebookContactSearchEngine)
    (ou : RowOrder Uuid) (o : RowOrder ContactFields) (term : String)
    (htakes : engine.Takes engine.searchedColumns term) :
    ∃ (uuids : List Uuid) (contacts : List ContactInfo),
      engine.findContacts lower ou o s.db term = .ok contacts ∧ uuids.Nodup ∧
      (∀ i, i ∈ uuids ↔ ∃ p ∈ s.db.phonebooks,
        phonebookSelector engine.visibleTenants engine.phonebookKey p = true ∧
        ∃ k, b.card i = some (p.uuid, k) ∧ ∃ name ∈ engine.searchedColumns.getD [], ∃ a,
          CardRow i k name a ∧ ilike lower ("%" ++ term ++ "%") a = true) ∧
      List.Forall₂ (fun i contact => ∃ p, b.card i = some (p, readContents contact))
        uuids contacts := by
  let store := (h.kept.phonebookStore fun uuid body hbody =>
    (h.bodies uuid body hbody).no_id).toContactStore
  obtain ⟨contacts, hfind, uuids, hnodup, hmem, hall⟩ :=
    ContactSearch.findContacts_returns lower ou o engine store htakes
  have hmatches : ∀ i, ContactSearch.Matches s.db (ContactSearch.OfPhonebook engine s.db)
      (· ∈ engine.searchedColumns.getD []) (fun v => ilike lower ("%" ++ term ++ "%") v = true) i ↔
      ∃ p ∈ s.db.phonebooks,
        phonebookSelector engine.visibleTenants engine.phonebookKey p = true ∧
        ∃ k, b.card i = some (p.uuid, k) ∧ ∃ name ∈ engine.searchedColumns.getD [], ∃ a,
          CardRow i k name a ∧ ilike lower ("%" ++ term ++ "%") a = true := by
    intro i
    simp only [h.card_iff]
    constructor
    · rintro ⟨⟨c, hc, rfl, p, hp, hcp, hsel⟩, hrow⟩
      obtain ⟨body, hrep, hbody, -⟩ := h.kept.exists_card h.bodies hc hcp
      obtain ⟨name, hname, a, ha⟩ := (hrep.exists_row_iff hbody).1 hrow
      exact ⟨p, hp, hsel, _, ⟨c, hc, rfl, hcp, body, hrep, hbody, rfl⟩, name, hname, a, ha⟩
    · rintro ⟨p, hp, hsel, _, ⟨c, hc, rfl, hcp, body, hrep, hbody, rfl⟩, name, hname, a, ha⟩
      exact ⟨⟨c, hc, rfl, p, hp, hcp, hsel⟩, (hrep.exists_row_iff hbody).2 ⟨name, hname, a, ha⟩⟩
  refine ⟨uuids, contacts, hfind, hnodup, fun i => (hmem i).trans (hmatches i), ?_⟩
  rw [List.forall₂_iff_zip] at hall ⊢
  refine ⟨hall.1, fun {i contact} hzip => ?_⟩
  obtain ⟨⟨c, hc, rfl, p, -, hcp, -⟩, -⟩ := (hmem i).1 (List.of_mem_zip hzip).1
  have hone : OneValued (fieldsOf s.db.contactFields c.uuid) :=
    store.oneValued c hc (by rw [hcp]; rfl)
  rw [readContents_of_hasColumns hone (hall.2 hzip)]
  exact ⟨p.uuid, h.card_of_rows hc hcp (List.Perm.refl _)⟩

/-- **The readers show the book.** -/
theorem ShowsBook.reads (h : ShowsBook enc s b) (lower : String → String) :
    ReadsBook lower s.db b where
  get _ _ _ _ hp _ _ := h.get_iff hp
  list _ _ _ _ _ hp htexts := h.list hp htexts
  count _ _ _ _ hp htexts := h.count hp htexts
  refused _ _ _ _ _ hp htexts := list_of_not_nullFree _ _ _ htexts hp
  lookup := h.lookup
  lookup_refused _ _ _ _ htakes := ContactSearch.findContacts_of_not_takes htakes

end PhonebookContacts

end WazoDird
