import WazoDird.PersonalContacts.Cards

/-!
# The writers, by the cards

What each writer of `PersonalContactCRUD` makes of the cards: the loop of a
batch adds a card for each contact that stands for a hash, and what it
raises is a refusal; one contact is created as in a batch, unless the user
has it; a contact deleted is a card gone, and one edited a card written
anew.
-/

namespace WazoDird

open PersonalContactCRUD PersonalImport

namespace PersonalContacts

/-- The uuid that a contact with an id of its own is to be under. -/
def ownRow (info : TextInfo) : Option Uuid :=
  (ownId info).bind fun id => (stringColumn 38 id).toOption

/-- What a batch asks for, contact by contact. -/
def entriesOf (infos : List TextInfo) : List (Contents × Option Uuid) :=
  infos.map fun info => (contentsOf info, ownRow info)

/-- **The database shows a book**: its contacts meet the invariants, and
the cards of the book are theirs. -/
structure ShowsBook (enc : Encoding) (db : Database) (b : Book Uuid Uuid Contents) : Prop where
  kept : Kept enc (fun _ => True) db
  sound : Sound db
  card : b.card = cardOf db

variable {enc : Encoding} {server : PersonalServer} {db db' : Database} {b : Book Uuid Uuid Contents}
  {tenantUuid userUuid : Uuid} {contactId : String} {info : TextInfo}
  {infos created : List TextInfo} {s s' : Added} {hash : String} {i : ℕ}

/-! ## Contacts created -/

/-- **A turn of the loop adds one card**, under the contact's own id if it
has one. -/
theorem cardOf_addContact (h : Kept enc (fun _ => True) s.db) (hhash : hash = hashOf enc info)
    (hadd : addContact enc server userUuid s ((hash, info), i) = .ok s') :
    Kept enc (fun _ => True) s'.db ∧ ∃ row, (∀ j, ownRow info = some j → row = j) ∧
      cardOf s.db row = none ∧ cardOf s'.db row = some (userUuid, contentsOf info) ∧
      ∀ j, j ≠ row → cardOf s'.db j = cardOf s.db j := by
  have hkept : Kept enc (fun _ => True) s'.db :=
    h.write (addContact_ok (fun _ _ => trivial) (fun _ _ => trivial) hhash hadd)
  obtain ⟨row, hrow, hadd⟩ := bind_eq_ok.1 hadd
  obtain ⟨⟨⟩, hclash, hadd⟩ := bind_eq_ok.1 hadd
  obtain ⟨⟨⟩, -, hadd⟩ := bind_eq_ok.1 hadd
  obtain ⟨fields, hfields, hadd⟩ := bind_eq_ok.1 hadd
  obtain ⟨⟨⟩, -, hadd⟩ := bind_eq_ok.1 hadd
  cases hadd
  -- the id written is kept as the uuid of the row
  have hkeeps : stringColumn 38 ((ownId info).getD row) = .ok row := by
    cases hown : ownId info with
    | none => exact stringColumn_of_length_le (length_of_stringColumn hrow)
    | some id =>
      have hgiven : (info.get? "id").filter (· ≠ "") = some id := hown
      rw [hgiven] at hrow
      exact hrow
  have hnew : ∀ d ∈ s.db.contacts, d.uuid ≠ row := by
    intro d hd
    have hnone := raiseIf_ok.1 hclash
    rw [Bool.not_eq_true, List.any_eq_false] at hnone
    exact Contact.uuid_ne_of_clash (Bool.eq_false_iff.2 (hnone d hd))
  obtain ⟨hof, hrows⟩ := contactFields_ok hkeeps hfields
  have hcards := @cardOf_added s.db { uuid := row, userUuid := some userUuid, hash := hash } _ _ _
    hnew rfl hof (h.fieldsOf_new hnew) hrows
  rw [contentsOf_set_id] at hcards
  refine ⟨hkept, row, fun j hj => ?_, hcards⟩
  obtain ⟨id, hid, hcolumn⟩ := Option.bind_eq_some_iff.1 hj
  rw [hid, Option.getD_some] at hkeeps
  rw [hkeeps] at hcolumn
  exact Option.some.inj hcolumn

/-- **The loop adds a card for each contact**, and no other. -/
theorem cardOf_loop {entries : List ((String × TextInfo) × ℕ)} (h : Kept enc (fun _ => True) s.db)
    (hhash : ∀ e ∈ entries, e.1.1 = hashOf enc e.1.2)
    (hloop : entries.foldlM (addContact enc server userUuid) s = .ok s') :
    Kept enc (fun _ => True) s'.db ∧
      (∀ j x, cardOf s.db j = some x → cardOf s'.db j = some x) ∧
      (∀ e ∈ entries, ∃ j, cardOf s'.db j = some (userUuid, contentsOf e.1.2)) ∧
      ∀ j x, cardOf s.db j = none → cardOf s'.db j = some x → ∃ e ∈ entries,
        x = (userUuid, contentsOf e.1.2) ∧ ∀ own, ownRow e.1.2 = some own → j = own := by
  induction entries generalizing s with
  | nil =>
    cases hloop
    refine ⟨h, fun _ _ => id, fun e he => ?_, fun j x hnone hsome => ?_⟩
    · cases he
    · rw [hnone] at hsome
      cases hsome
  | cons entry entries ih =>
    obtain ⟨⟨hash, info⟩, i⟩ := entry
    rw [List.foldlM_cons] at hloop
    obtain ⟨s₁, hadd, hrest⟩ := bind_eq_ok.1 hloop
    rw [List.forall_mem_cons] at hhash
    obtain ⟨hkept, row, hown, hnone, hcard, hother⟩ := cardOf_addContact h hhash.1 hadd
    obtain ⟨hkept', hstays, hhas, hnew⟩ := ih hkept hhash.2 hrest
    refine ⟨hkept', fun j x hj => hstays j x ?_, ?_, fun j x hj hx => ?_⟩
    · rw [hother j, hj]
      rintro rfl
      rw [hnone] at hj
      cases hj
    · rw [List.forall_mem_cons]
      exact ⟨⟨row, hstays row _ hcard⟩, hhas⟩
    · by_cases hrow : j = row
      · subst hrow
        have hfirst := (hstays j _ hcard).symm.trans hx
        exact ⟨((hash, info), i), List.mem_cons_self, (Option.some.inj hfirst).symm,
          fun own hj => hown own hj⟩
      · obtain ⟨e, he, hcontents⟩ := hnew j x ((hother j hrow).trans hj) hx
        exact ⟨e, List.mem_cons_of_mem _ he, hcontents⟩

/-- The contact that stands for a hash is the last of its contents. -/
theorem stands_of_mem_hashAndContact (hsha : Function.Injective enc.sha1)
    {e : String × TextInfo} (he : e ∈ (hashAndContact enc infos).entries) :
    Book.Stands (entriesOf infos) (contentsOf e.2) (ownRow e.2) := by
  obtain ⟨hash, info⟩ := e
  have hget : (hashAndContact enc infos).get? hash = some info := Dict.get?_eq_some_iff.2 he
  have hlast : (infos.filter (hashOf enc · = hash)).getLast? = some info := by
    rw [hashAndContact, Dict.ofList, Dict.get?_setAll, List.filter_map, List.getLast?_map,
      Option.map_map] at hget
    change Option.or _ none = _ at hget
    rw [Option.or_none] at hget
    obtain ⟨last, hlast, rfl⟩ := Option.map_eq_some_iff.1 hget
    exact hlast
  obtain ⟨others, hfilter⟩ := List.getLast?_eq_some_iff.1 hlast
  obtain ⟨before, rest, rfl, -, hrest⟩ := List.filter_eq_append_iff.1 hfilter
  obtain ⟨between, after, rfl, -, hinfo, hafter⟩ := List.filter_eq_cons_iff.1 hrest
  refine ⟨entriesOf (before ++ between), entriesOf after, by simp [entriesOf], fun x hx => ?_⟩
  obtain ⟨other, hother, rfl⟩ := List.mem_map.1 hx
  intro heq
  have hnot := List.filter_eq_nil_iff.1 hafter other hother
  have hsame : hashOf enc other = hash :=
    ((hashOf_eq_iff hsha).2 heq).trans (of_decide_eq_true hinfo)
  exact hnot (decide_eq_true hsame)

/-- **A batch that does not raise inserts its contacts.** -/
theorem inserted_of_createPersonalContacts (hsha : Function.Injective enc.sha1)
    (h : ShowsBook enc db b)
    (hcreate : createPersonalContacts enc server db tenantUuid userUuid infos =
      (.ok created, db')) {b' : Book Uuid Uuid Contents} (hb' : b'.card = cardOf db') :
    Book.Inserted b userUuid (entriesOf infos) b' := by
  obtain ⟨s, hloop, -, rfl⟩ := createPersonalContacts_eq_ok.1 hcreate
  obtain ⟨hcontacts, hfields⟩ := getDirdUser_contacts db tenantUuid userUuid
  have hkept : Kept enc (fun _ => True) (db.getDirdUser tenantUuid userUuid) :=
    h.kept.write (.user tenantUuid)
  have hcard : b.card = cardOf (db.getDirdUser tenantUuid userUuid) :=
    h.card.trans (Database.cardOf_congr hcontacts hfields).symm
  have hentries : ∀ e ∈ (server.hashes.order (toAdd enc server
      (db.getDirdUser tenantUuid userUuid) userUuid infos)).zipIdx,
        e.1 ∈ (hashAndContact enc infos).entries ∧ e.1.1 = hashOf enc e.1.2 := by
    intro e he
    obtain ⟨hentry, hhash, -⟩ := (mem_toAdd hkept).1 (mem_of_mem_zipIdx he)
    exact ⟨hentry, hhash⟩
  obtain ⟨hkept', hstays, hhas, hnew⟩ :=
    cardOf_loop hkept (fun e he => (hentries e he).2) hloop
  refine ⟨fun j x hj => ?_, fun entry hentry => ?_, fun j x hj hx => ?_⟩
  · rw [hb']
    rw [hcard] at hj
    exact hstays j x hj
  · obtain ⟨info, hinfo, rfl⟩ := List.mem_map.1 hentry
    rw [Book.Has, hb']
    by_cases hstored : ∃ c, StoredUnder (db.getDirdUser tenantUuid userUuid) userUuid
        (hashOf enc info) c
    · obtain ⟨j, hj⟩ := (exists_card_iff hsha hkept).2 hstored
      exact ⟨j, hstays j _ hj⟩
    · -- the last contact of these contents stands for them in the loop
      obtain ⟨last, hlast⟩ := Option.isSome_iff_exists.1
        (Dict.mem_keys_iff.1 (@hashOf_mem_keys enc info infos hinfo))
      have hentry := Dict.get?_eq_some_iff.1 hlast
      have hhash : hashOf enc info = hashOf enc last := (mem_hashAndContact hentry).2
      have hmem : (hashOf enc info, last) ∈ toAdd enc server
          (db.getDirdUser tenantUuid userUuid) userUuid infos :=
        (mem_toAdd hkept).2 ⟨hentry, hhash, fun c hc => hstored ⟨c, hhash ▸ hc⟩⟩
      obtain ⟨n, hn⟩ := List.getElem?_of_mem (server.hashes.mem_order.2 hmem)
      obtain ⟨j, hj⟩ := hhas _ (List.mk_mem_zipIdx_iff_getElem?.2 hn)
      exact ⟨j, hj.trans (by rw [(hashOf_eq_iff hsha).1 hhash])⟩
  · rw [hb'] at hx
    rw [hcard] at hj
    obtain ⟨e, he, rfl, hown⟩ := hnew j x hj hx
    exact ⟨rfl, _, stands_of_mem_hashAndContact hsha (hentries e he).1, hown⟩

/-- What a turn of the loop raises is a refusal. -/
theorem answerOf_addContact {α : Type} {e : DirdError} {entry : (String × TextInfo) × ℕ}
    (h : addContact enc server userUuid s entry = .error e) :
    answerOf (.error e : Except DirdError α) = .refused := by
  obtain ⟨⟨hash, info⟩, i⟩ := entry
  have hcolumn : ∀ {id : String}, stringColumn 38 id = .error e →
      answerOf (.error e : Except DirdError α) = .refused := by
    intro id hid
    rw [stringColumn] at hid
    split at hid
    · cases hid
    · cases hid
      rfl
  rcases bind_eq_error.1 h with h | ⟨row, -, h⟩
  · exact hcolumn h
  rcases bind_eq_error.1 h with h | ⟨⟨⟩, -, h⟩
  · obtain ⟨-, rfl⟩ := raiseIf_error.1 h
    rfl
  rcases bind_eq_error.1 h with h | ⟨⟨⟩, -, h⟩
  · exact answerOf_raiseFault (fun _ => rfl) h
  rcases bind_eq_error.1 h with h | ⟨fields, -, h⟩
  · rcases bind_eq_error.1 h with h | ⟨texts, -, h⟩
    · obtain ⟨_, rfl⟩ := Encoding.columnTexts_error h
      rfl
    · rcases bind_eq_error.1 h with h | ⟨row', -, h⟩
      · exact hcolumn h
      · cases h
  rcases bind_eq_error.1 h with h | ⟨⟨⟩, -, h⟩
  · exact answerOf_raiseFault (fun _ => rfl) h
  · cases h

/-- **A batch that raises is refused**, had something to write, and changes
nothing. -/
theorem refused_of_createPersonalContacts {α : Type} (h : Kept enc (fun _ => True) db)
    {e : DirdError} (hcreate : createPersonalContactsIn enc server db tenantUuid userUuid infos
      false = .error e) :
    answerOf (.error e : Except DirdError α) = .refused ∧
      ∃ info ∈ infos, New enc (db.getDirdUser tenantUuid userUuid) userUuid info := by
  have hkept : Kept enc (fun _ => True) (db.getDirdUser tenantUuid userUuid) :=
    h.write (.user tenantUuid)
  rcases bind_eq_error.1 hcreate with hraise | ⟨⟨⟩, -, hcreate⟩
  · cases (raiseIf_error.1 hraise).1.2
  rcases bind_eq_error.1 hcreate with hloop | ⟨s, -, hcreate⟩
  · obtain ⟨entry, hentry, s, hadd⟩ := mem_of_foldlM_eq_error hloop
    obtain ⟨hmem, -, hnew⟩ := (mem_toAdd hkept).1 (mem_of_mem_zipIdx hentry)
    exact ⟨answerOf_addContact hadd, entry.1.2, (mem_hashAndContact hmem).1, hnew⟩
  · cases hcreate

theorem keys_hashAndContact_singleton : (hashAndContact enc [info]).keys = [hashOf enc info] := rfl

/-- The hash is one that the user has exactly when the contact is not new. -/
theorem mem_keys_findExisting (server : PersonalServer) (h : Kept enc (fun _ => True) db) :
    hashOf enc info ∈ (findExistingContactByHash server db userUuid [hashOf enc info]).keys ↔
      ¬ New enc db userUuid info := by
  rw [Dict.mem_keys_iff, Option.isSome_iff_exists, New, not_forall]
  constructor
  · rintro ⟨uuid, hget⟩
    obtain ⟨c, hc, -⟩ := (get?_findExistingContactByHash h (List.mem_singleton_self _)).1 hget
    exact ⟨c, not_not.2 hc⟩
  · rintro ⟨c, hc⟩
    exact ⟨c.uuid, (get?_findExistingContactByHash h (List.mem_singleton_self _)).2
      ⟨c, not_not.1 hc, rfl⟩⟩

/-- **One contact that the user has** is not created again. -/
theorem createPersonalContactsIn_duplicated (h : Kept enc (fun _ => True) db)
    (hstored : ¬ New enc (db.getDirdUser tenantUuid userUuid) userUuid info) :
    createPersonalContactsIn enc server db tenantUuid userUuid [info] true =
      .error .duplicatedContact := by
  have hkept : Kept enc (fun _ => True) (db.getDirdUser tenantUuid userUuid) :=
    h.write (.user tenantUuid)
  have hkey := (mem_keys_findExisting server hkept).2 hstored
  refine bind_eq_error.2 (Or.inl (raiseIf_error.2 ⟨⟨?_, rfl⟩, rfl⟩))
  rw [keys_hashAndContact_singleton]
  exact List.any_eq_true.2 ⟨_, List.mem_singleton_self _, decide_eq_true hkey⟩

/-- **One contact that the user has not** is created as in a batch. -/
theorem createPersonalContactsIn_new (h : Kept enc (fun _ => True) db)
    (hnew : New enc (db.getDirdUser tenantUuid userUuid) userUuid info) :
    createPersonalContactsIn enc server db tenantUuid userUuid [info] true =
      createPersonalContactsIn enc server db tenantUuid userUuid [info] false := by
  have hkept : Kept enc (fun _ => True) (db.getDirdUser tenantUuid userUuid) :=
    h.write (.user tenantUuid)
  have hkey := fun hmem => (mem_keys_findExisting server hkept).1 hmem hnew
  change (raiseIf _ _ >>= _) = (raiseIf _ _ >>= _)
  rw [raiseIf, if_neg, raiseIf, if_neg]
  · rintro ⟨-, hfalse⟩
    cases hfalse
  · rw [keys_hashAndContact_singleton]
    rintro ⟨hany, -⟩
    obtain ⟨k, hk, hmem⟩ := List.any_eq_true.1 hany
    rw [List.mem_singleton.1 hk] at hmem
    exact hkey (of_decide_eq_true hmem)

/-! ## Contacts deleted and edited -/

/-- **The contact deleted is its card gone.** -/
theorem cardOf_deleted (h : Kept enc (fun _ => True) db) (hsound : Sound db)
    (hown : Owns db userUuid contactId)
    (hdelete : deletePersonalContactIn db userUuid contactId = .ok db') :
    cardOf db' contactId = none ∧ ∀ j, j ≠ contactId → cardOf db' j = cardOf db j := by
  obtain ⟨c, hc, rfl, hcu⟩ := hown
  have hselects := fun d (hd : d ∈ db.contacts) => deleteFilter_of_owns h hsound hc hcu hd
  have hdb : db' = db.dropContacts (deleteFilter db fun u f =>
      u.userUuid = userUuid && f.contactUuid = c.uuid) := by
    obtain ⟨⟨⟩, -, hdelete⟩ := bind_eq_ok.1 hdelete
    exact (Except.ok.inj hdelete).symm
  rw [hdb]
  refine ⟨Option.eq_none_iff_forall_ne_some.2 fun x hx => ?_, fun j hj => Option.ext fun x => ?_⟩
  · have hkept := ((cardOf_dropContacts h).1 hx).2 c hc rfl
    rw [(hselects c hc).2 rfl] at hkept
    cases hkept
  · rw [cardOf_dropContacts h]
    refine and_iff_left fun d hd hdj => ?_
    rw [Bool.eq_false_iff, ne_eq, hselects d hd, hdj]
    exact hj

/-- **The contact edited is its card written anew.** -/
theorem cardOf_edited (h : Kept enc (fun _ => True) db) (hsound : Sound db)
    (hown : Owns db userUuid contactId) :
    cardOf (edited enc db tenantUuid userUuid contactId info) contactId =
        some (userUuid, contentsOf info) ∧
      ∀ j, j ≠ contactId →
        cardOf (edited enc db tenantUuid userUuid contactId info) j = cardOf db j := by
  let rest : Database := { db with
    contacts := db.contacts.filter (·.uuid ≠ contactId)
    contactFields := db.contactFields.filter (·.contactUuid ≠ contactId) }
  let c : Contact :=
    { uuid := contactId, userUuid := some userUuid, hash := enc.computeContactHash info.body }
  let fields : List ContactFields :=
    (info.set "id" contactId).entries.map fun e => ⟨contactId, e.1, some e.2⟩
  have hfields : fieldsOf fields contactId =
      (info.set "id" contactId).entries.map fun e => (e.1, some e.2) := by
    rw [fieldsOf_of_forall (fun f hf => ?_), List.map_map]
    · rfl
    · obtain ⟨e, -, rfl⟩ := List.mem_map.1 hf
      rfl
  have hcards := @cardOf_added rest c userUuid (info.set "id" contactId) fields
    (fun d hd => by simpa using (List.mem_filter.1 hd).2) rfl
    (fun f hf => by obtain ⟨e, -, rfl⟩ := List.mem_map.1 hf; rfl)
    (fieldsOf_eq_nil fun f hf hfc => by simpa [hfc, c] using (List.mem_filter.1 hf).2) hfields
  rw [contentsOf_set_id] at hcards
  obtain ⟨-, hcard, hother⟩ := hcards
  have hedited : cardOf (edited enc db tenantUuid userUuid contactId info) =
      cardOf (rest.addContact c fields) := Database.cardOf_congr rfl rfl
  rw [hedited]
  exact ⟨hcard, fun j hj => (hother j hj).trans
    ((cardOf_deleted h hsound hown (delete_of_owns h hsound hown)).2 j hj)⟩

/-- All contacts of a user are selected: each has a row, that of its id. -/
theorem deleteFilter_all_iff (h : Kept enc (fun _ => True) db) (hsound : Sound db) {c : Contact}
    (hc : c ∈ db.contacts) :
    deleteFilter db (fun u _ => u.userUuid = userUuid) c = true ↔ c.userUuid = some userUuid := by
  constructor
  · intro hselected
    obtain ⟨-, -, -, u, -, hcu, hu⟩ := deleteFilter_iff.1 hselected
    rw [hcu, of_decide_eq_true hu]
  · intro hcu
    have hselected := (deleteFilter_of_owns h hsound hc hcu hc).2 rfl
    obtain ⟨f, hf, hfc, u, hu, hcu, hboth⟩ := deleteFilter_iff.1 hselected
    rw [Bool.and_eq_true] at hboth
    exact deleteFilter_iff.2 ⟨f, hf, hfc, u, hu, hcu, hboth.1⟩

end PersonalContacts

end WazoDird
