import WazoDird.Database.Queries.Columns
import WazoDird.Database.Queries.PersonalContact
import WazoDird.Database.Queries.PhonebookContact
import WazoDird.Database.Queries.PhonebookContactCRUD

/-!
# What a search for contacts finds

A term is put between two `%` and handed to the server as a pattern, as it
is. So each of the three searches returns, once and with its columns, every
contact that has a value the pattern matches, when the driver takes the
texts; these are the contacts that have the term in a value when no
character of the term has a meaning in patterns, and for any other term
they are not (`searchIsLiteral_iff`).
-/

namespace WazoDird

/-- **What is done to the texts of a search**: the server lowers them and
takes accents off, and `unidecode` makes ASCII of a term. ASCII has no
accents. -/
structure SearchText where
  lowering : Lowering
  unaccent : String → String
  unidecode : String → String
  ascii : ∀ s, ∀ c ∈ (unidecode s).toList, c.toNat < 128
  unaccent_ascii : ∀ s, (∀ c ∈ s.toList, c.toNat < 128) → unaccent s = s

/-- How the engines fold texts. -/
def SearchText.fold (text : SearchText) : FoldText :=
  ⟨text.lowering.lower, text.unaccent, text.unidecode⟩

namespace ContactSearch

/-- **A contact matches**: it is one of a kind, and has a value that passes
a test in a column of some. -/
def Matches (db : Database) (mine : Contact → Prop) (columns test : String → Prop) (uuid : Uuid) :
    Prop :=
  (∃ c ∈ db.contacts, c.uuid = uuid ∧ mine c) ∧
    ∃ row ∈ db.contactFields, row.contactUuid = uuid ∧ columns row.name ∧
      ∃ v, row.value = some v ∧ test v

/-- The contact is of the phonebook of an engine. -/
def OfPhonebook (engine : PhonebookContactSearchEngine) (db : Database) (c : Contact) : Prop :=
  ∃ p ∈ db.phonebooks, c.phonebookUuid = some p.uuid ∧
    phonebookSelector engine.visibleTenants engine.phonebookKey p = true

/-- The contact is of a user there is. -/
def OfUser (db : Database) (userUuid : Uuid) (c : Contact) : Prop :=
  ∃ u ∈ db.users, c.userUuid = some u.userUuid ∧ u.userUuid = userUuid

variable (text : SearchText) (columns : List String) (term : String)

/-- **`find_contacts` is literal containment**: an engine that searches the
columns returns the contacts of its phonebook that have the term in one. -/
def FindsContacts : Prop :=
  ∀ (engine : PhonebookContactSearchEngine) (store : ContactStore Contact.phonebookUuid)
    (ou : RowOrder Uuid) (o : RowOrder ContactFields), engine.searchedColumns.getD [] = columns →
    ∃ contacts, engine.findContacts text.lowering.lower ou o store.db term = .ok contacts ∧
      Returns newContact store.db
        (Matches store.db (OfPhonebook engine store.db) (· ∈ columns)
          (text.lowering.Contains term)) contacts

/-- **`find_personal_contacts` is literal containment**: an engine that
searches the columns returns the contacts of the user that have the
unidecoded term in one, unaccented. -/
def FindsPersonalContacts : Prop :=
  ∀ (engine : PersonalContactSearchEngine) (store : ContactStore Contact.userUuid)
    (userUuid : Uuid) (ou : RowOrder Uuid) (o : RowOrder ContactFields),
    engine.searchedColumns = columns →
    ∃ contacts, engine.findPersonalContacts text.fold ou o store.db userUuid term = .ok contacts ∧
      Returns newContact store.db
        (Matches store.db (OfUser store.db userUuid) (· ∈ columns)
          fun v => text.lowering.Contains (text.unidecode term) (text.unaccent v)) contacts

/-- **The search of a phonebook's listing is literal containment**: it
returns the contacts of the phonebook that have the term in some column. -/
def ListsContacts : Prop :=
  ∀ (store : PhonebookStore) (o : RowOrder ContactFields) visibleTenants key p,
    PhonebookContactCRUD.getPhonebook store.db visibleTenants key = .ok p →
    ∃ contacts, PhonebookContactCRUD.list text.lowering.lower o store.db visibleTenants key
        (some term) = .ok contacts ∧
      Returns (fun _ => ∅) store.db
        (Matches store.db (fun c => c.phonebookUuid = some p.uuid) (fun _ => True)
          (text.lowering.Contains term)) contacts

/-- **Contact search is literal containment**, in all three searches. -/
structure SearchIsLiteral : Prop where
  findContacts : FindsContacts text columns term
  findPersonalContacts : FindsPersonalContacts text columns term
  list : ListsContacts text term

variable {text columns term}

/-! ## What the pattern finds -/

section Found

variable {db : Database} {mine mine' : Contact → Prop} {columns test test' : String → Prop}
  {lower : String → String} {uuid : Uuid} {ou : RowOrder Uuid} {o : RowOrder ContactFields}

/-- A test that comes to the same makes the same contacts match. -/
theorem matches_congr (h : ∀ v, test v ↔ test' v) :
    Matches db mine columns test uuid ↔ Matches db mine columns test' uuid := by
  simp only [Matches, h]

/-- The contacts in scope are those of the engine's phonebook. -/
theorem phonebook_inScope_iff {engine : PhonebookContactSearchEngine} :
    engine.inScope db uuid = true ↔ ∃ c ∈ db.contacts, c.uuid = uuid ∧ OfPhonebook engine db c := by
  simp [PhonebookContactSearchEngine.inScope, OfPhonebook]

/-- The contacts in scope are those of the user. -/
theorem personal_inScope_iff {userUuid : Uuid} :
    PersonalContactSearchEngine.inScope db userUuid uuid = true ↔
      ∃ c ∈ db.contacts, c.uuid = uuid ∧ OfUser db userUuid c := by
  simp [PersonalContactSearchEngine.inScope, OfUser]

/-- The contacts that match, listed by uuid in any order. -/
theorem returns_selected {uuids : List Uuid}
    (hmem : ∀ uuid, uuid ∈ uuids ↔ Matches db mine columns test uuid)
    (hone : ∀ c ∈ db.contacts, mine c → OneValued (fieldsOf db.contactFields c.uuid)) :
    Returns newContact db (Matches db mine columns test)
      (listContactsByUuid o db (ou.order uuids)) := by
  refine (returns_listContactsByUuid fun uuid huuid => ?_).congr fun uuid => ?_
  · obtain ⟨⟨c, hc, rfl, hmine⟩, -⟩ := (hmem uuid).1 (ou.mem_order.1 huuid)
    exact hone c hc hmine
  · rw [RowOrder.mem_order, hmem]
    exact ⟨fun h => h.1, fun h => ⟨h, h.2.imp fun row hrow => ⟨hrow.1, hrow.2.1⟩⟩⟩

/-- **What `find_contacts` returns** are the contacts of the phonebook that
have a value the pattern matches in a searched column. -/
theorem findContacts_returns (lower : String → String) (ou : RowOrder Uuid)
    (o : RowOrder ContactFields) (engine : PhonebookContactSearchEngine)
    (store : ContactStore Contact.phonebookUuid)
    (htakes : engine.Takes engine.searchedColumns term) :
    ∃ contacts, engine.findContacts lower ou o store.db term = .ok contacts ∧
      Returns newContact store.db
        (Matches store.db (OfPhonebook engine store.db) (· ∈ engine.searchedColumns.getD [])
          fun v => ilike lower ("%" ++ term ++ "%") v = true) contacts := by
  have hmem : ∀ uuid, uuid ∈ engine.contactUuids store.db
      (PhonebookContactSearchEngine.newSearchFilter lower ("%" ++ term ++ "%")
        engine.searchedColumns).holds ↔
      Matches store.db (OfPhonebook engine store.db) (· ∈ engine.searchedColumns.getD [])
        (fun v => ilike lower ("%" ++ term ++ "%") v = true) uuid := by
    intro uuid
    rw [PhonebookContactSearchEngine.mem_contactUuids, phonebook_inScope_iff]
    simp only [PhonebookContactSearchEngine.newSearchFilter_iff]
    rfl
  rw [PhonebookContactSearchEngine.findContacts,
    PhonebookContactSearchEngine.findContactsWithFilter_search,
    if_pos (PhonebookContactSearchEngine.takes_pattern.2 htakes)]
  refine ⟨_, rfl, returns_selected hmem fun c hc hmine => ?_⟩
  obtain ⟨p, -, hcp, -⟩ := hmine
  exact store.oneValued c hc (by rw [hcp]; rfl)

/-- A search that the driver does not take is not answered. -/
theorem findContacts_of_not_takes {engine : PhonebookContactSearchEngine}
    (h : ¬ engine.Takes engine.searchedColumns term) :
    engine.findContacts lower ou o db term = .error (.python .valueError) := by
  rw [PhonebookContactSearchEngine.findContacts,
    PhonebookContactSearchEngine.findContactsWithFilter_search, if_neg]
  exact fun htakes => h (PhonebookContactSearchEngine.takes_pattern.1 htakes)

/-- **What `find_personal_contacts` returns** are the contacts of the user
that have a value the pattern matches, unaccented, in a searched column. -/
theorem findPersonalContacts_returns (fold : FoldText) (ou : RowOrder Uuid)
    (o : RowOrder ContactFields) (engine : PersonalContactSearchEngine)
    (store : ContactStore Contact.userUuid) (userUuid : Uuid)
    (htakes : PersonalContactSearchEngine.Takes engine.searchedColumns (fold.unidecode term)) :
    ∃ contacts, engine.findPersonalContacts fold ou o store.db userUuid term = .ok contacts ∧
      Returns newContact store.db
        (Matches store.db (OfUser store.db userUuid) (· ∈ engine.searchedColumns)
          fun v => ilike fold.lower ("%" ++ fold.unidecode term ++ "%") (fold.unaccent v) = true)
        contacts := by
  have hmem : ∀ uuid, uuid ∈ PersonalContactSearchEngine.contactUuids store.db userUuid
      (PersonalContactSearchEngine.newSearchFilter fold term engine.searchedColumns).holds ↔
      Matches store.db (OfUser store.db userUuid) (· ∈ engine.searchedColumns)
        (fun v => ilike fold.lower ("%" ++ fold.unidecode term ++ "%") (fold.unaccent v) = true)
        uuid := by
    intro uuid
    rw [PersonalContactSearchEngine.mem_contactUuids, personal_inScope_iff]
    simp only [PersonalContactSearchEngine.newSearchFilter_iff]
    rfl
  rw [PersonalContactSearchEngine.findPersonalContacts,
    PersonalContactSearchEngine.findPersonalContactsWithFilter_search, if_pos htakes]
  refine ⟨_, rfl, returns_selected hmem fun c hc hmine => ?_⟩
  obtain ⟨u, -, hcu, -⟩ := hmine
  exact store.oneValued c hc (by rw [hcu]; rfl)

/-- What a search lets through: every contact when the term is empty, and
else those that have a value the pattern matches. -/
theorem contactSearchFilter_iff :
    contactSearchFilter lower db (some term) uuid = true ↔ term = "" ∨
      ∃ row ∈ db.contactFields, row.contactUuid = uuid ∧
        ∃ v, row.value = some v ∧ ilike lower ("%" ++ term ++ "%") v = true := by
  by_cases hterm : term = ""
  · subst hterm
    exact iff_of_true rfl (Or.inl rfl)
  · have hfilter : (some term).filter (· ≠ "") = some term := by simp [Option.filter, hterm]
    rw [contactSearchFilter, hfilter, or_iff_right hterm]
    simp only [List.any_eq_true, Bool.and_eq_true, decide_eq_true_eq]
    refine exists_congr fun row => and_congr_right fun _ => and_congr_right fun _ => ?_
    cases row.value with
    | none => simp
    | some v => simp

/-- **What a phonebook's listing returns** are the contacts of the
phonebook that have a value the pattern matches in some column. -/
theorem list_returns (l : Lowering) (store : PhonebookStore) (term : String)
    {visibleTenants : Option (List Uuid)} {key : PhonebookKey} {p : Phonebook}
    (hterm : NullFree [term])
    (hp : PhonebookContactCRUD.getPhonebook store.db visibleTenants key = .ok p) :
    ∃ contacts, PhonebookContactCRUD.list l.lower o store.db visibleTenants key (some term) =
        .ok contacts ∧
      Returns (fun _ => ∅) store.db
        (Matches store.db (fun c => c.phonebookUuid = some p.uuid) (fun _ => True)
          fun v => ilike l.lower ("%" ++ term ++ "%") v = true) contacts := by
  have hpmem := (PhonebookContactCRUD.getPhonebook_ok hp).1
  refine ⟨_, bind_eq_ok.2 ⟨p, hp, bind_eq_ok.2 ⟨(), takeTexts_ok.2 hterm, rfl⟩⟩, (returns_readRows
    (p := fun uuid => ∃ c ∈ store.db.contacts, c.uuid = uuid ∧ c.phonebookUuid = some p.uuid ∧
      contactSearchFilter l.lower store.db (some term) uuid = true)
    (fun f _ => ?_) fun uuid huuid => ?_).congr fun uuid => ?_⟩
  · simp only [List.any_eq_true, Bool.and_eq_true, decide_eq_true_eq,
      PhonebookContactCRUD.queryContacts_iff hpmem]
    refine exists_congr fun c => and_congr_right fun _ => and_congr_right fun hcf => ?_
    rw [hcf]
  · obtain ⟨c, hc, rfl, hcp, -⟩ := huuid
    exact store.oneValued c hc (by rw [hcp]; rfl)
  · simp only [contactSearchFilter_iff]
    constructor
    · rintro ⟨⟨c, hc, rfl, hcp, hsearch⟩, hrow⟩
      refine ⟨⟨c, hc, rfl, hcp⟩, ?_⟩
      rcases hsearch with rfl | ⟨row, hmem, hu, hv⟩
      · -- an empty term is in the id every contact has
        obtain ⟨id, hid⟩ := store.ids c hc (by rw [hcp]; rfl) (fieldsOf_ne_nil.2 hrow)
        obtain ⟨row, hmem, hu, -, hv⟩ := mem_fieldsOf.1 hid
        refine ⟨row, hmem, hu, trivial, id, hv, (l.ilike_contains (by decide)).2 ?_⟩
        exact List.nil_infix
      · exact ⟨row, hmem, hu, trivial, hv⟩
    · rintro ⟨⟨c, hc, rfl, hcp⟩, row, hmem, hu, -, hv⟩
      exact ⟨⟨c, hc, rfl, hcp, Or.inr ⟨row, hmem, hu, hv⟩⟩, row, hmem, hu⟩

/-- What is returned whether it passes one test or another: where nothing
passes the one, nothing passes the other. -/
theorem not_matches_of_returns (uuid : Uuid) {init init' : Uuid → ContactInfo}
    {contacts : List ContactInfo}
    (h : Returns init db (Matches db mine columns test) contacts)
    (h' : Returns init' db (Matches db mine' columns test') contacts)
    (hnone : ∀ row ∈ db.contactFields, columns row.name → ∀ v, row.value = some v → ¬ test v) :
    ¬ Matches db mine' columns test' uuid := by
  intro hmatch
  obtain ⟨_, -, row, hrow, -, hcol, v, hv, htest⟩ := h.ne_nil_iff.1 (h'.ne_nil_iff.2 ⟨_, hmatch⟩)
  exact hnone row hrow hcol v hv htest

end Found

/-! ## Where that is literal -/

section Literal

/-- A phonebook of one contact, of one name. -/
def phonebookOf (name : String) : PhonebookStore where
  db :=
    { phonebooks := [{ id := 1, uuid := "pb", name := "main", tenantUuid := "t" }]
      contacts := [{ uuid := "c", phonebookUuid := some "pb" }]
      contactFields := [⟨"c", "name", some name⟩, ⟨"c", "id", some "c"⟩] }
  uuids := List.nodup_singleton _
  oneValued c hc _ := by
    rw [List.mem_singleton.1 hc]
    exact oneValued_of_nodup (by simp [fieldsOf])
  ids c hc _ _ := by
    rw [List.mem_singleton.1 hc]
    exact ⟨"c", by simp [fieldsOf]⟩

/-- An owner of one contact, of one value in one column: a phonebook or a
user. -/
def ownerOf (owner : Contact → Option Uuid) (contact : Contact) (column value : String) :
    ContactStore owner where
  db :=
    { users := [{ userUuid := "u", tenantUuid := "t" }]
      phonebooks := [{ id := 1, uuid := "pb", name := "main", tenantUuid := "t" }]
      contacts := [contact]
      contactFields := [⟨contact.uuid, column, some value⟩] }
  uuids := List.nodup_singleton _
  oneValued c hc _ := by
    rw [List.mem_singleton.1 hc]
    exact oneValued_of_nodup (by simp [fieldsOf])

/-- What is found of an owner of one value is told by the value. -/
theorem not_matches_ownerOf {owner : Contact → Option Uuid} {contact : Contact}
    {column value : String} {init init' : Uuid → ContactInfo} {contacts : List ContactInfo}
    {mine mine' : Contact → Prop} {columns test test' : String → Prop}
    (h : Returns init (ownerOf owner contact column value).db
      (Matches (ownerOf owner contact column value).db mine columns test) contacts)
    (h' : Returns init' (ownerOf owner contact column value).db
      (Matches (ownerOf owner contact column value).db mine' columns test') contacts)
    (hmine : mine' contact) (hcolumn : columns column) (htest : test' value) :
    test value := by
  by_contra hnot
  refine not_matches_of_returns contact.uuid h h' ?_ ⟨⟨_, List.mem_singleton_self _, rfl, hmine⟩,
    ⟨contact.uuid, column, some value⟩, List.mem_singleton_self _, rfl, hcolumn, value, rfl, htest⟩
  intro row hrow _ v hv hv'
  obtain rfl := List.mem_singleton.1 hrow
  obtain rfl := Option.some.inj hv
  exact hnot hv'

/-- The engine that searches some columns of that phonebook. -/
def mainEngine (columns : List String) : PhonebookContactSearchEngine where
  visibleTenants := some ["t"]
  phonebookKey := .uuid "pb"
  searchedColumns := some columns

/-- It asks for its columns whenever it has any. -/
theorem mainEngine_takes {columns : List String} {term : String} :
    (mainEngine columns).Takes (some columns) term ↔ columns = [] ∨ NullFree (term :: columns) := by
  simp [PhonebookContactSearchEngine.Takes, mainEngine]

/-- **`find_contacts` is literal containment exactly for plain terms**,
where a column is searched and the driver takes the texts. -/
theorem findsContacts_iff : FindsContacts text columns term ↔
    columns = [] ∨ PlainText term ∧ NullFree (term :: columns) := by
  constructor
  · intro h
    have htakes : (mainEngine columns).Takes (some columns) term := by
      by_contra hnot
      obtain ⟨_, hfind, -⟩ := h (mainEngine columns) (ownerOf _ ⟨"c", none, none, ""⟩ "" "")
        .asStored .asStored rfl
      rw [findContacts_of_not_takes hnot] at hfind
      cases hfind
    cases columns with
    | nil => exact Or.inl rfl
    | cons column rest =>
      refine Or.inr ⟨?_, (mainEngine_takes.1 htakes).resolve_left (List.cons_ne_nil _ _)⟩
      by_contra hne
      obtain ⟨value, hlike, hnot, -⟩ := text.lowering.exists_ilike_not_contains hne
      let store : ContactStore Contact.phonebookUuid :=
        ownerOf _ { uuid := "c", phonebookUuid := some "pb" } column value
      obtain ⟨contacts, hfind, hreturns⟩ :=
        h (mainEngine (column :: rest)) store .asStored .asStored rfl
      obtain ⟨contacts', hfind', hreturns'⟩ := findContacts_returns
        text.lowering.lower .asStored .asStored (mainEngine (column :: rest)) store htakes
      obtain rfl := Except.ok.inj (hfind.symm.trans hfind')
      exact hnot (not_matches_ownerOf hreturns hreturns'
        ⟨_, List.mem_singleton_self _, rfl, by simp [mainEngine, phonebookSelector,
          phonebookKeyToFilter]⟩ List.mem_cons_self hlike)
  · rintro h engine store ou o rfl
    have htakes : engine.Takes engine.searchedColumns term := Or.inr (h.imp_right And.right)
    obtain ⟨contacts, hfind, hreturns⟩ := findContacts_returns text.lowering.lower ou o engine
      store htakes
    refine ⟨contacts, hfind, hreturns.congr fun uuid => ?_⟩
    rcases h with hnil | ⟨hplain, -⟩
    · simp [Matches, hnil]
    · exact matches_congr fun v => text.lowering.ilike_contains hplain

/-- **`find_personal_contacts` is literal containment exactly for terms
that are plain unidecoded**, where a column is searched and the driver
takes the texts. -/
theorem findsPersonalContacts_iff : FindsPersonalContacts text columns term ↔
    columns = [] ∨ PlainText (text.unidecode term) ∧ NullFree (text.unidecode term :: columns) := by
  constructor
  · intro h
    have htakes : PersonalContactSearchEngine.Takes columns (text.fold.unidecode term) := by
      by_contra hnot
      obtain ⟨_, hfind, -⟩ := h (.mk columns []) (ownerOf _ ⟨"c", none, none, ""⟩ "" "") "u"
        .asStored .asStored rfl
      rw [PersonalContactSearchEngine.findPersonalContacts,
        PersonalContactSearchEngine.findPersonalContactsWithFilter_search, if_neg hnot] at hfind
      cases hfind
    cases columns with
    | nil => exact Or.inl rfl
    | cons column rest =>
      refine Or.inr ⟨?_, htakes.resolve_left (List.cons_ne_nil _ _)⟩
      by_contra hne
      obtain ⟨value, hlike, hnot, hchars⟩ := text.lowering.exists_ilike_not_contains hne
      have hascii : text.unaccent value = value := by
        refine text.unaccent_ascii value fun c hc => ?_
        rcases hchars c hc with hc | rfl | rfl
        · exact text.ascii term c hc
        · decide
        · decide
      let store : ContactStore Contact.userUuid :=
        ownerOf _ { uuid := "c", userUuid := some "u" } column value
      obtain ⟨contacts, hfind, hreturns⟩ :=
        h (.mk (column :: rest) []) store "u" .asStored .asStored rfl
      obtain ⟨contacts', hfind', hreturns'⟩ := findPersonalContacts_returns text.fold
        .asStored .asStored (.mk (column :: rest) []) store "u" htakes
      obtain rfl := Except.ok.inj (hfind.symm.trans hfind')
      have hcontains := not_matches_ownerOf hreturns hreturns'
        ⟨_, List.mem_singleton_self _, rfl, rfl⟩ List.mem_cons_self (by
          show ilike text.lowering.lower _ (text.unaccent value) = true
          rwa [hascii])
      rw [hascii] at hcontains
      exact hnot hcontains
  · rintro h engine store userUuid ou o rfl
    have htakes : PersonalContactSearchEngine.Takes engine.searchedColumns
        (text.fold.unidecode term) := h.imp_right And.right
    obtain ⟨contacts, hfind, hreturns⟩ := findPersonalContacts_returns text.fold ou o engine
      store userUuid htakes
    refine ⟨contacts, hfind, hreturns.congr fun uuid => ?_⟩
    rcases h with hnil | ⟨hplain, -⟩
    · simp [Matches, hnil]
    · exact matches_congr fun v => text.lowering.ilike_contains hplain

/-- **The search of a listing is literal containment exactly for plain
terms** that the driver takes. -/
theorem listsContacts_iff : ListsContacts text term ↔ PlainText term ∧ NullFree [term] := by
  have hp : ∀ name, PhonebookContactCRUD.getPhonebook (phonebookOf name).db (some ["t"])
      (.uuid "pb") = .ok { id := 1, uuid := "pb", name := "main", tenantUuid := "t" } :=
    fun name => rfl
  constructor
  · intro h
    have hterm : NullFree [term] := by
      obtain ⟨_, hlist, -⟩ := h (phonebookOf "") .asStored _ _ _ (hp "")
      obtain ⟨_, -, hlist⟩ := bind_eq_ok.1 hlist
      obtain ⟨⟨⟩, hterm, -⟩ := bind_eq_ok.1 hlist
      exact takeTexts_ok.1 hterm
    refine ⟨?_, hterm⟩
    by_contra hne
    obtain ⟨name, hlike, hnot, -⟩ := text.lowering.exists_ilike_not_contains hne
    obtain ⟨contacts, hlist, hreturns⟩ := h (phonebookOf name) .asStored _ _ _ (hp name)
    obtain ⟨contacts', hlist', hreturns'⟩ := list_returns text.lowering (phonebookOf name) term
      (o := .asStored) hterm (hp name)
    obtain rfl := Except.ok.inj (hlist.symm.trans hlist')
    refine not_matches_of_returns "c" hreturns hreturns' ?_ ?_
    · intro row hrow _ v hv hcontains
      rcases List.mem_pair.1 hrow with rfl | rfl
      · obtain rfl := Option.some.inj hv
        exact hnot hcontains
      · -- the id is plain, and so is what stands in it
        obtain rfl := Option.some.inj hv
        exact hne (hcontains.plainText (by decide))
    · exact ⟨⟨_, List.mem_singleton_self _, rfl, rfl⟩, ⟨"c", "name", some name⟩,
        List.mem_cons_self, rfl, trivial, name, rfl, hlike⟩
  · rintro ⟨hplain, hterm⟩ store o visibleTenants key p hp
    obtain ⟨contacts, hlist, hreturns⟩ := list_returns text.lowering store term (o := o) hterm hp
    exact ⟨contacts, hlist, hreturns.congr fun uuid =>
      matches_congr fun v => text.lowering.ilike_contains hplain⟩

/-- **Contact search is literal containment exactly for terms without a
character that has a meaning in patterns**, as they are and, where a
column is searched, unidecoded; and without a null character there or in a
searched column. -/
theorem searchIsLiteral_iff (text : SearchText) (columns : List String) (term : String) :
    SearchIsLiteral text columns term ↔ PlainText term ∧ NullFree [term] ∧
      (columns = [] ∨ NullFree columns ∧ PlainText (text.unidecode term) ∧
        NullFree [text.unidecode term]) := by
  have hcons : ∀ t : String, NullFree (t :: columns) ↔ NullFree [t] ∧ NullFree columns := fun t =>
    @nullFree_append [t] columns
  constructor
  · rintro ⟨-, hpersonal, hlist⟩
    obtain ⟨hplain, hterm⟩ := listsContacts_iff.1 hlist
    refine ⟨hplain, hterm, (findsPersonalContacts_iff.1 hpersonal).imp_right ?_⟩
    rintro ⟨hunidecoded, htexts⟩
    exact ⟨((hcons _).1 htexts).2, hunidecoded, ((hcons _).1 htexts).1⟩
  · rintro ⟨hplain, hterm, hcolumns⟩
    refine ⟨findsContacts_iff.2 ?_, findsPersonalContacts_iff.2 ?_,
      listsContacts_iff.2 ⟨hplain, hterm⟩⟩
    · exact hcolumns.imp_right fun h => ⟨hplain, (hcons _).2 ⟨hterm, h.1⟩⟩
    · exact hcolumns.imp_right fun h => ⟨h.2.1, (hcons _).2 ⟨h.2.2, h.1⟩⟩

/-- A server that lowers ASCII and knows of no accents. -/
def asciiText : SearchText where
  lowering := .ascii
  unaccent := id
  unidecode s := String.ofList (s.toList.filter (·.toNat < 128))
  ascii s c hc := by
    rw [String.toList_ofList] at hc
    exact of_decide_eq_true (List.mem_filter.1 hc).2
  unaccent_ascii _ _ := rfl

/-- **A search for `50%` finds `50 rue`**, which has no `%`. -/
theorem not_searchIsLiteral : ¬ ∀ text columns term, SearchIsLiteral text columns term := by
  intro h
  let store : ContactStore Contact.phonebookUuid :=
    ownerOf _ { uuid := "c", phonebookUuid := some "pb" } "name" "50 rue"
  obtain ⟨contacts, hfind, hreturns⟩ := (h asciiText ["name"] "50%").findContacts
    (mainEngine ["name"]) store .asStored .asStored rfl
  have hfound : contacts ≠ [] := by
    rintro rfl
    exact absurd hfind (by decide)
  obtain ⟨_, -, row, hrow, -, -, v, hv, hcontains⟩ := hreturns.ne_nil_iff.1 hfound
  obtain rfl := List.mem_singleton.1 hrow
  obtain rfl := Option.some.inj hv
  exact absurd hcontains (by decide)

end Literal

end ContactSearch

end WazoDird
