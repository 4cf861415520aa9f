import WazoDird.PersonalContacts.CardWrites

/-!
# The personal contacts refine a book

Every call of a writer is a step of the book of cards with the answer that
the call gives, whatever the server answers (`ShowsBook.step`), and so every
run of calls is a run of the book (`run_refines`). What a book says of its
runs then holds of the store, and reading the store is reading the book.
-/

namespace WazoDird

open PersonalContactCRUD PersonalImport

namespace PersonalContacts

/-! ## Calls with their answers -/

/-- The answer of a call. -/
def Call.answer (enc : Encoding) (server : PersonalServer) (db : Database) : Call → Book.Answer
  | create tenantUuid userUuid info =>
      answerOf (createPersonalContact enc server db tenantUuid userUuid info).1
  | createMany tenantUuid userUuid infos =>
      answerOf (createPersonalContacts enc server db tenantUuid userUuid infos).1
  | edit tenantUuid userUuid contactId info =>
      answerOf (editPersonalContact enc server db tenantUuid userUuid contactId info).1
  | delete userUuid contactUuid => answerOf (deletePersonalContact db userUuid contactUuid).1
  | deleteAll userUuid => answerOf (deleteAllPersonalContacts db userUuid).1

/-- The driver takes the id that a call is about, which has no null
character. -/
def Call.Sendable : Call → Prop
  | edit _ _ contactId _ | delete _ contactId => '\x00' ∉ contactId.toList
  | create .. | createMany .. | deleteAll _ => True

/-- **One call and its answer**, under a server none of whose uuids is
empty. -/
def Answered (enc : Encoding) (db : Database) (a : Call × Book.Answer) (db' : Database) : Prop :=
  ∃ server : PersonalServer, (∀ uuids, server.newUuid uuids ≠ "") ∧ a.1.Sendable ∧
    a.2 = a.1.answer enc server db ∧ db' = a.1.run enc server db

/-- What is asked of the book. -/
def Call.asked : Call → Book.Call Uuid Uuid Contents
  | create _ userUuid info => .insert userUuid (contentsOf info) (ownRow info)
  | createMany _ userUuid infos => .insertAll userUuid (entriesOf infos)
  | edit _ userUuid contactId info => .replace userUuid contactId (contentsOf info)
  | delete userUuid contactUuid => .remove userUuid contactUuid
  | deleteAll userUuid => .removeAll userUuid

/-! ## A call is a step of the book -/

variable {enc : Encoding} {server : PersonalServer} {db db' : Database}
  {b b' : Book Uuid Uuid Contents} {tenantUuid userUuid : Uuid} {contactId : String}
  {info : TextInfo} {infos : List TextInfo}

/-- One database shows one book. -/
theorem ShowsBook.unique (h : ShowsBook enc db b) (h' : ShowsBook enc db b') : b' = b :=
  Book.ext (h'.card.trans h.card.symm)

/-- The book has what the writers find by its hash. -/
theorem ShowsBook.has_iff (hsha : Function.Injective enc.sha1) (h : ShowsBook enc db b)
    (tenantUuid : Uuid) : b.Has userUuid (contentsOf info) ↔
      ¬ New enc (db.getDirdUser tenantUuid userUuid) userUuid info := by
  obtain ⟨hcontacts, hfields⟩ := getDirdUser_contacts db tenantUuid userUuid
  have hkept : Kept enc (fun _ => True) (db.getDirdUser tenantUuid userUuid) :=
    h.kept.write (.user tenantUuid)
  have hcards : cardOf (db.getDirdUser tenantUuid userUuid) = cardOf db :=
    Database.cardOf_congr hcontacts hfields
  rw [Book.Has, h.card, ← hcards, exists_card_iff hsha hkept, New, not_forall]
  exact exists_congr fun c => not_not.symm

/-- The book has the cards of a user's contacts. -/
theorem ShowsBook.owns_iff (h : ShowsBook enc db b) :
    b.Owns userUuid contactId ↔ Owns db userUuid contactId := by
  rw [Book.Owns, h.card]
  exact Database.exists_cardOf_iff h.kept.uuids

/-- **A contact created**: the step of the book. -/
theorem ShowsBook.create (hsha : Function.Injective enc.sha1) (h : ShowsBook enc db b)
    {r : Except DirdError (Option TextInfo)}
    (hcreate : createPersonalContact enc server db tenantUuid userUuid info = (r, db'))
    (h' : ShowsBook enc db' b') :
    Book.Step b (.insert userUuid (contentsOf info) (ownRow info), answerOf r) b' := by
  unfold createPersonalContact at hcreate
  by_cases hnew : New enc (db.getDirdUser tenantUuid userUuid) userUuid info
  · have hnot : ¬ b.Has userUuid (contentsOf info) := fun hhas => (h.has_iff hsha _).1 hhas hnew
    rw [createPersonalContactsIn_new h.kept hnew] at hcreate
    cases hin : createPersonalContactsIn enc server db tenantUuid userUuid [info] false with
    | error e =>
      rw [hin] at hcreate
      cases hcreate
      rw [(refused_of_createPersonalContacts h.kept hin).1, h.unique h']
      exact .insertRefused hnot
    | ok created =>
      rw [hin] at hcreate
      cases hcreate
      have hall : createPersonalContacts enc server db tenantUuid userUuid [info] =
          (.ok created.2, created.1) := by rw [createPersonalContacts, hin]; rfl
      exact .inserted hnot (inserted_of_createPersonalContacts hsha h hall h'.card)
  · rw [createPersonalContactsIn_duplicated h.kept hnew] at hcreate
    cases hcreate
    rw [h.unique h']
    exact .insertDuplicated ((h.has_iff hsha _).2 hnew)

/-- **Contacts created in a batch.** -/
theorem ShowsBook.createMany (hsha : Function.Injective enc.sha1) (h : ShowsBook enc db b)
    {r : Except DirdError (List TextInfo)}
    (hcreate : createPersonalContacts enc server db tenantUuid userUuid infos = (r, db'))
    (h' : ShowsBook enc db' b') :
    Book.Step b (.insertAll userUuid (entriesOf infos), answerOf r) b' := by
  cases hin : createPersonalContactsIn enc server db tenantUuid userUuid infos false with
  | error e =>
    have hraised := hcreate
    rw [createPersonalContacts, hin] at hraised
    obtain ⟨rfl, rfl⟩ := Prod.mk.inj hraised
    obtain ⟨hrefused, info, hinfo, hnew⟩ := refused_of_createPersonalContacts h.kept hin
    rw [hrefused, h.unique h']
    exact .insertAllRefused (List.mem_map_of_mem hinfo)
      fun hhas => (h.has_iff hsha _).1 hhas hnew
  | ok created =>
    have hmade := hcreate
    rw [createPersonalContacts, hin] at hmade
    obtain ⟨rfl, -⟩ := Prod.mk.inj hmade
    exact .insertedAll (inserted_of_createPersonalContacts hsha h hcreate h'.card)

/-- **A contact edited.** -/
theorem ShowsBook.edit (hsha : Function.Injective enc.sha1) (h : ShowsBook enc db b)
    {r : Except DirdError (Option TextInfo)}
    (hedit : editPersonalContact enc server db tenantUuid userUuid contactId info = (r, db'))
    (h' : ShowsBook enc db' b') :
    Book.Step b (.replace userUuid contactId (contentsOf info), answerOf r) b' := by
  by_cases hown : Owns db userUuid contactId
  · have hhas : ∀ {d : Contact}, d ∈ db.contacts → d.userUuid = some userUuid →
        (d.hash = enc.computeContactHash info.body ↔
          b.card d.uuid = some (userUuid, contentsOf info)) := by
      intro d hd hu
      rw [h.card]
      exact h.kept.hash_eq_iff hsha hd hu
    by_cases hdup : HasFields enc db userUuid contactId info
    · rw [(h.kept.editsAtomically h.sound).duplicated hown hdup] at hedit
      obtain ⟨rfl, rfl⟩ := Prod.mk.inj hedit
      rw [h.unique h']
      obtain ⟨d, hd, hne, hu, hhash⟩ := hdup
      exact .replaceDuplicated (h.owns_iff.2 hown) hne ((hhas hd hu).1 hhash)
    · have hnew : ∀ j, b.card j = some (userUuid, contentsOf info) → j = contactId := by
        intro j hj
        by_contra hne
        have hcard := hj
        rw [h.card] at hcard
        obtain ⟨d, hd, rfl, hu, -⟩ := (cardOf_eq_some_iff h.kept.uuids).1 hcard
        exact hdup ⟨d, hd, hne, hu, (hhas hd hu).2 hj⟩
      by_cases htakes : Takes server info
      · rw [(h.kept.editsAtomically h.sound).replaced hown hdup htakes] at hedit
        obtain ⟨rfl, rfl⟩ := Prod.mk.inj hedit
        obtain ⟨hcard, hother⟩ := cardOf_edited h.kept h.sound hown
        rw [← h'.card] at hcard hother
        rw [← h.card] at hother
        exact .replaced (h.owns_iff.2 hown) hnew hcard hother
      · rw [edit_of_owns h.kept h.sound hown rfl hdup] at hedit
        cases hadd : addContact enc server userUuid _ _ with
        | error e =>
          rw [hadd] at hedit
          obtain ⟨rfl, rfl⟩ := Prod.mk.inj hedit
          rw [answerOf_addContact hadd, h.unique h']
          exact .replaceRefused (h.owns_iff.2 hown) hnew
        | ok s => exact absurd (takes_of_addContact hadd) htakes
  · unfold editPersonalContact at hedit
    rw [delete_of_not_owns hown] at hedit
    cases hedit
    rw [h.unique h']
    exact .replaceMissing fun howns => hown (h.owns_iff.1 howns)

/-- **A contact deleted.** -/
theorem ShowsBook.delete (h : ShowsBook enc db b) {r : Except DirdError Unit}
    (hdelete : deletePersonalContact db userUuid contactId = (r, db'))
    (h' : ShowsBook enc db' b') :
    Book.Step b (.remove userUuid contactId, answerOf r) b' := by
  unfold deletePersonalContact at hdelete
  by_cases hown : Owns db userUuid contactId
  · have hin := delete_of_owns h.kept h.sound hown
    obtain ⟨hnone, hother⟩ := cardOf_deleted h.kept h.sound hown hin
    rw [hin] at hdelete
    cases hdelete
    rw [← h'.card] at hnone hother
    rw [← h.card] at hother
    exact .removed (h.owns_iff.2 hown) hnone hother
  · rw [delete_of_not_owns hown] at hdelete
    cases hdelete
    rw [h.unique h']
    exact .removeMissing fun howns => hown (h.owns_iff.1 howns)

/-- **All contacts of a user deleted.** -/
theorem ShowsBook.deleteAll (h : ShowsBook enc db b) {r : Except DirdError ℕ}
    (hdelete : deleteAllPersonalContacts db userUuid = (r, db')) (h' : ShowsBook enc db' b') :
    Book.Step b (.removeAll userUuid, answerOf r) b' := by
  change (Except.ok _, db.dropContacts _) = (r, db') at hdelete
  obtain ⟨rfl, rfl⟩ := Prod.mk.inj hdelete
  refine .removedAll fun i x => ?_
  rw [h'.card, h.card, cardOf_dropContacts h.kept]
  refine and_congr_right fun hcard => ?_
  obtain ⟨c, hc, rfl, hcu, -⟩ := (cardOf_eq_some_iff h.kept.uuids).1 hcard
  have hselects : deleteFilter db (fun u _ => u.userUuid = userUuid) c = false ↔ x.1 ≠ userUuid := by
    rw [Bool.eq_false_iff, ne_eq, deleteFilter_all_iff h.kept h.sound hc, hcu, Option.some.injEq]
  rw [← hselects]
  refine ⟨fun hall => hall c hc rfl, fun hnot d hd hdc => ?_⟩
  rwa [eq_of_key h.kept.uuids hd hc hdc]

/-- **A call is a step of the book**, with its answer. -/
theorem ShowsBook.step (hsha : Function.Injective enc.sha1) {a : Call × Book.Answer}
    (h : ShowsBook enc db b) (ha : Answered enc db a db') :
    ∃ b', Book.Step b (a.1.asked, a.2) b' ∧ ShowsBook enc db' b' := by
  obtain ⟨call, answer⟩ := a
  obtain ⟨server, hserver, -, hanswer, hdb⟩ := ha
  have hanswer : answer = call.answer enc server db := hanswer
  have hdb : db' = call.run enc server db := hdb
  subst hanswer hdb
  have hcall : Called enc db call (call.run enc server db) := ⟨server, hserver, rfl⟩
  have hkept : Kept enc (fun _ => True) (call.run enc server db) :=
    (h.kept.step (fun _ _ => trivial) (fun _ _ _ _ => trivial) ⟨server, rfl⟩).1
  have h' : ShowsBook enc (call.run enc server db) (book _ hsha hkept) :=
    ⟨hkept, h.sound.called hcall, rfl⟩
  refine ⟨_, ?_, h'⟩
  cases call with
  | create => exact h.create hsha rfl h'
  | createMany => exact h.createMany hsha rfl h'
  | edit => exact h.edit hsha rfl h'
  | delete => exact h.delete rfl h'
  | deleteAll => exact h.deleteAll rfl h'

/-! ## Reading the store -/

variable {o : RowOrder ContactFields} {ou : RowOrder Uuid} {text : SortText}

/-- A card read is the contact its rows make, whatever rows of others are
read with them. -/
theorem readContents_contactOf (h : Kept enc (fun _ => True) db) {c : Contact}
    (hc : c ∈ db.contacts) (hu : c.userUuid = some userUuid) {uuids : List Uuid}
    (huuid : c.uuid ∈ uuids) :
    cardOf db c.uuid = some (userUuid, readContents (contactOf
      (o.order (db.contactFields.filter (·.contactUuid ∈ uuids))) c.uuid)) := by
  obtain ⟨info, hinfo⟩ := h.stored c hc (by rw [hu]; rfl)
  obtain ⟨id, hid, -, -⟩ := hinfo.id
  let rows := o.order (db.contactFields.filter (·.contactUuid ∈ uuids))
  have hown : contactOf rows c.uuid = contactOf (rows.filter (·.contactUuid = c.uuid)) c.uuid := by
    rw [contactOf, contactOf, fieldsOf, fieldsOf, List.filter_filter]
    simp
  have hperm : (rows.filter (·.contactUuid = c.uuid)).Perm
      (db.contactFields.filter (·.contactUuid ∈ [c.uuid])) := by
    refine ((o.perm _).filter _).trans (List.Perm.of_eq ?_)
    rw [List.filter_filter]
    refine List.filter_congr fun f _ => ?_
    by_cases hf : f.contactUuid = c.uuid
    · simp [hf, huuid]
    · simp [hf]
  have hsame := contactOf_same hperm hinfo.fields (by rw [hid]; rfl)
  rw [cardOf_eq_some_iff h.uuids]
  exact ⟨c, hc, rfl, hu, by rw [← readContents_congr hsame, ← hown]⟩

/-- A contact of a user has a row, that of its id. -/
theorem Kept.exists_row (h : Kept enc (fun _ => True) db) {c : Contact} (hc : c ∈ db.contacts)
    (hu : c.userUuid.isSome) : ∃ f ∈ db.contactFields, f.contactUuid = c.uuid := by
  obtain ⟨info, hinfo⟩ := h.stored c hc hu
  obtain ⟨id, hid, -, -⟩ := hinfo.id_row
  have hmem : ("id", some id) ∈ (fieldsOf db.contactFields c.uuid).filter (·.1 = "id") := by
    rw [hid]
    exact List.mem_singleton_self _
  obtain ⟨f, hf, hfc, -⟩ := mem_fieldsOf.1 (List.mem_filter.1 hmem).1
  exact ⟨f, hf, hfc⟩

/-- Of no user nothing is read. -/
theorem getPersonalContact_of_not_hasUser (h : db.hasUser userUuid = false) :
    getPersonalContact o db userUuid contactId = .error (.noSuchContact contactId) := by
  have hnil : (db.contactFields.filter fun f => f.contactUuid = contactId &&
      db.contacts.any fun c => c.uuid = f.contactUuid && c.userUuid = some userUuid &&
        db.hasUser userUuid) = [] := by
    refine List.filter_eq_nil_iff.2 fun f _ => ?_
    simp [h]
  rw [getPersonalContact, hnil]
  rfl

/-- **One contact read** is one card of the user's. -/
theorem ShowsBook.get_iff (h : ShowsBook enc db b) {k : Contents} :
    (∃ contact, getPersonalContact o db userUuid contactId = .ok contact ∧
      readContents contact = k) ↔ b.card contactId = some (userUuid, k) := by
  rw [h.card, cardOf_eq_some_iff h.kept.uuids]
  cases huser : db.hasUser userUuid with
  | false =>
    rw [getPersonalContact_of_not_hasUser huser]
    constructor
    · rintro ⟨contact, hcontact, -⟩
      cases hcontact
    · rintro ⟨c, hc, -, hu, -⟩
      rw [h.sound.housed c hc userUuid hu] at huser
      cases huser
  | true =>
    constructor
    · rintro ⟨contact, hcontact, rfl⟩
      obtain ⟨c, hc, hu, huuid, hsame⟩ :=
        (PersonalImport.get_iff h.kept huser).1 ⟨contact, hcontact, List.Perm.refl _⟩
      exact ⟨c, hc, huuid, hu, readContents_congr hsame⟩
    · rintro ⟨c, hc, huuid, hu, rfl⟩
      obtain ⟨contact, hcontact, hsame⟩ := (PersonalImport.get_iff h.kept huser).2
        ⟨c, hc, hu, huuid, List.Perm.refl _⟩
      exact ⟨contact, hcontact, readContents_congr hsame⟩

/-- The list of a user is that of the user's contacts. -/
theorem listPersonalContacts_eq (huser : userUuid ≠ "") :
    listPersonalContacts text ou o db (some userUuid) {} = .ok (listContactsByUuid o db
      (ou.order ((db.contacts.filter (·.userUuid = some userUuid)).map Contact.uuid).dedup)) := by
  have hfilter : (some userUuid).filter (· ≠ "") = some userUuid := by simp [Option.filter, huser]
  simp only [listPersonalContacts, hfilter]
  simp [raiseIf, page, sortContacts]
  rfl

/-- **The list of a user** has each of the user's cards once. -/
theorem ShowsBook.list (h : ShowsBook enc db b) (huser : userUuid ≠ "") :
    ∃ uuids contacts, listPersonalContacts text ou o db (some userUuid) {} = .ok contacts ∧
      uuids.Nodup ∧ (∀ i, i ∈ uuids ↔ b.Owns userUuid i) ∧
      List.Forall₂ (fun i contact => b.card i = some (userUuid, readContents contact))
        uuids contacts := by
  let listed := ou.order ((db.contacts.filter (·.userUuid = some userUuid)).map Contact.uuid).dedup
  have hlisted : ∀ i, i ∈ listed ↔ Owns db userUuid i := by
    intro i
    rw [RowOrder.mem_order, List.mem_dedup, List.mem_map]
    constructor
    · rintro ⟨c, hc, rfl⟩
      obtain ⟨hc, hu⟩ := List.mem_filter.1 hc
      exact ⟨c, hc, rfl, of_decide_eq_true hu⟩
    · rintro ⟨c, hc, rfl, hu⟩
      exact ⟨c, List.mem_filter.2 ⟨hc, decide_eq_true hu⟩, rfl⟩
  let rows := o.order (db.contactFields.filter (·.contactUuid ∈ listed))
  let read : Dict Uuid ContactInfo := rows.foldl addField ∅
  have hvalues : listContactsByUuid o db listed = read.values := by
    rw [listContactsByUuid]
    split
    · next hempty =>
      have hrows : rows = [] := order_rows_eq_nil (by simp [List.isEmpty_iff.1 hempty])
      show [] = (rows.foldl addField ∅).values
      rw [hrows]
      rfl
    · rfl
  have hread : ∀ i, i ∈ read.keys ↔ Owns db userUuid i := by
    intro i
    rw [Dict.mem_keys_iff, get?_contacts, ← hlisted]
    constructor
    · intro hsome
      split at hsome
      · next hany =>
        obtain ⟨f, hf, hfi⟩ := List.any_eq_true.1 hany
        rw [← of_decide_eq_true hfi]
        exact of_decide_eq_true (List.mem_filter.1 (o.mem_order.1 hf)).2
      · cases hsome
    · intro hi
      obtain ⟨c, hc, rfl, hu⟩ := (hlisted i).1 hi
      obtain ⟨f, hf, hfc⟩ := h.kept.exists_row hc (by rw [hu]; rfl)
      have hmem : f ∈ rows := o.mem_order.2 (List.mem_filter.2 ⟨hf, decide_eq_true (hfc ▸ hi)⟩)
      rw [if_pos (List.any_eq_true.2 ⟨f, hmem, decide_eq_true hfc⟩)]
      rfl
  refine ⟨read.keys, _, listPersonalContacts_eq huser, read.nodup, fun i => ?_, ?_⟩
  · rw [hread, h.owns_iff]
  · rw [hvalues]
    refine Dict.forall₂_keys_values fun i contact hget => ?_
    obtain ⟨c, hc, rfl, hu⟩ := (hread i).1 (Dict.mem_keys_iff.2 (by rw [hget]; rfl))
    rw [get?_contacts] at hget
    split at hget
    · cases hget
      rw [h.card]
      exact readContents_contactOf h.kept hc hu ((hlisted _).2 ⟨c, hc, rfl, hu⟩)
    · cases hget

/-! ## Every run -/

section Run

variable {db₀ : Database} {calls : List (Call × Book.Answer)}

/-- What a call is, and is answered, of the book. -/
abbrev askedAndAnswered (a : Call × Book.Answer) : Book.Call Uuid Uuid Contents × Book.Answer :=
  (a.1.asked, a.2)

/-- Where a run starts, the book is empty. -/
theorem Start.showsBook (hsha : Function.Injective enc.sha1) (hs : Start db₀) :
    ∃ b₀, ShowsBook enc db₀ b₀ ∧ ∀ i, b₀.card i = none := by
  have hkept : Kept enc (fun _ => True) db₀ := hs.kept
  refine ⟨book db₀ hsha hkept, ⟨hkept, hs.sound, rfl⟩, fun i => ?_⟩
  refine Option.eq_none_iff_forall_ne_some.2 fun x hx => ?_
  obtain ⟨c, hc, -, hu, -⟩ := (cardOf_eq_some_iff hs.uuids).1 hx
  rw [hs.impersonal c hc] at hu
  cases hu

/-- A run of calls is a run of the book, from any book that is shown. -/
theorem ShowsBook.run (hsha : Function.Injective enc.sha1) (h : ShowsBook enc db b)
    (hrun : Run (Answered enc) db calls db') :
    ∃ b', Run Book.Step b (calls.map askedAndAnswered) b' ∧ ShowsBook enc db' b' :=
  hrun.simulates (fun h ha => h.step hsha ha) h

/-- **Every run of the writers is a run of a book**, call by call and
answer by answer, and what a user reads where it ends is that user's
cards. -/
theorem run_refines (hsha : Function.Injective enc.sha1) (hs : Start db₀)
    (hrun : Run (Answered enc) db₀ calls db) :
    ∃ b₀ b : Book Uuid Uuid Contents, (∀ i, b₀.card i = none) ∧
      Run Book.Step b₀ (calls.map askedAndAnswered) b ∧
      ∀ (o : RowOrder ContactFields) (ou : RowOrder Uuid) (text : SortText) userUuid,
        (∀ contactId k, (∃ contact, getPersonalContact o db userUuid contactId = .ok contact ∧
            readContents contact = k) ↔ b.card contactId = some (userUuid, k)) ∧
        (userUuid ≠ "" → ∃ uuids contacts,
          listPersonalContacts text ou o db (some userUuid) {} = .ok contacts ∧
          uuids.Nodup ∧ (∀ i, i ∈ uuids ↔ b.Owns userUuid i) ∧
          List.Forall₂ (fun i contact => b.card i = some (userUuid, readContents contact))
            uuids contacts) := by
  obtain ⟨b₀, h₀, hempty⟩ := hs.showsBook hsha
  obtain ⟨b, hbook, h⟩ := h₀.run hsha hrun
  exact ⟨b₀, b, hempty, hbook, fun o ou text userUuid => ⟨fun _ _ => h.get_iff, h.list⟩⟩

/-- **A call writes a contact under an id**: it is done, it is of the user
and of what is then read there, and what was read there before, if
anything, is what it edits. -/
structure WritesUnder (enc : Encoding) (db₁ : Database) (call : Call) (db₂ : Database)
    (userUuid : Uuid) (contactId : String) (k : Contents) : Prop where
  answered : Answered enc db₁ (call, .done) db₂
  writes : call.asked.Writes userUuid contactId k
  new : call.asked.Drops userUuid contactId ∨ ∀ (o : RowOrder ContactFields) anyUser contact,
    getPersonalContact o db₁ anyUser contactId ≠ .ok contact
  read : ∀ o : RowOrder ContactFields, ∃ contact,
    getPersonalContact o db₂ userUuid contactId = .ok contact ∧ readContents contact = k

/-- **A user reads what was last written**: the contact under an id was
written there by a call for that very user, and no call done since took it
away; and it is read so, as long as none does. -/
theorem reads_last_write (hsha : Function.Injective enc.sha1) (hs : Start db₀)
    {calls : List (Database × Call × Book.Answer)}
    (hrun : Run (Recorded (Answered enc)) db₀ calls db) {contact : ContactInfo}
    (hget : getPersonalContact o db userUuid contactId = .ok contact) :
    (∃ before db₁ call db₂ after, calls = before ++ (db₁, call, .done) :: after ∧
      Run (Recorded (Answered enc)) db₂ after db ∧
      WritesUnder enc db₁ call db₂ userUuid contactId (readContents contact) ∧
      ∀ dbᵢ call', (dbᵢ, call', .done) ∈ after → ¬ call'.asked.Drops userUuid contactId) ∧
    ∀ (o' : RowOrder ContactFields) calls' db', Run (Answered enc) db calls' db' →
      (∀ call', (call', .done) ∈ calls' → ¬ call'.asked.Drops userUuid contactId) →
      ∃ contact', getPersonalContact o' db' userUuid contactId = .ok contact' ∧
        readContents contact' = readContents contact := by
  obtain ⟨b₀, h₀, hempty⟩ := hs.showsBook hsha
  obtain ⟨b, h, hlast⟩ := Book.lastWritten_of_run (fun db b => ShowsBook enc db b)
    (fun a => some (askedAndAnswered a)) (fun h ha => by
      obtain ⟨b', hstep, h'⟩ := h.step hsha ha
      exact ⟨b', Run.single hstep, h'⟩) h₀ hempty hrun
  have hcard : b.card contactId = some (userUuid, readContents contact) :=
    h.get_iff.1 ⟨contact, hget, rfl⟩
  constructor
  · obtain ⟨before, db₁, ⟨call, answer⟩, db₂, after, c, b₁, b₂, hcalls, hanswered, hafter, htold,
      hwrites, h₁, hnew, h₂, hcard₂, hsince⟩ := hlast _ _ _ hcard
    cases htold
    refine ⟨before, db₁, call, db₂, after, hcalls, hafter, ⟨hanswered, hwrites, ?_, ?_⟩,
      fun dbᵢ call' hmem => hsince _ hmem _ rfl⟩
    · refine hnew.symm.imp_right fun hnone o anyUser contact' hread => ?_
      have hold := h₁.get_iff.1 ⟨contact', hread, rfl⟩
      rw [hnone] at hold
      cases hold
    · exact fun o => h₂.get_iff.2 hcard₂
  · intro o' calls' db' hrun' hnot
    obtain ⟨b', hbook', h'⟩ := h.run hsha hrun'
    refine h'.get_iff.2 (Book.card_stays hbook' hcard fun c hmem => ?_)
    obtain ⟨⟨call, answer⟩, hcall, heq⟩ := List.mem_map.1 hmem
    cases heq
    exact hnot call hcall

/-- A contact of a user, created in a database without a row, is a run. -/
theorem answered_createAlice :
    Run (Answered .plain) {} [(createAlice, .done)] (createAlice.run .plain .plain {}) :=
  Run.single ⟨.plain, plain_newUuid_ne, trivial, by decide, rfl⟩

/-- The book of it has one card, which is what is read. -/
theorem run_refines_createAlice : ∃ b₀ b : Book Uuid Uuid Contents,
    (∃ k, b.card "a" = some ("u", k) ∧ k "name" = some "Alice") ∧ (∀ i, b₀.card i = none) ∧
      Run Book.Step b₀ [(createAlice.asked, .done)] b ∧
      ∀ (o : RowOrder ContactFields) (ou : RowOrder Uuid) (text : SortText) userUuid,
        (∀ contactId k, (∃ contact, getPersonalContact o (createAlice.run .plain .plain {})
            userUuid contactId = .ok contact ∧ readContents contact = k) ↔
          b.card contactId = some (userUuid, k)) ∧
        (userUuid ≠ "" → ∃ uuids contacts,
          listPersonalContacts text ou o (createAlice.run .plain .plain {}) (some userUuid) {} =
            .ok contacts ∧
          uuids.Nodup ∧ (∀ i, i ∈ uuids ↔ b.Owns userUuid i) ∧
          List.Forall₂ (fun i contact => b.card i = some (userUuid, readContents contact))
            uuids contacts) := by
  obtain ⟨b₀, b, hempty, hrun, hreads⟩ :=
    run_refines Function.injective_id start_empty answered_createAlice
  have hget : ∃ contact, getPersonalContact .asStored (createAlice.run .plain .plain {}) "u" "a" =
      .ok contact ∧ readContents contact "name" = some "Alice" := ⟨_, rfl, by decide⟩
  obtain ⟨contact, hget, hname⟩ := hget
  exact ⟨b₀, b, ⟨readContents contact,
    ((hreads .asStored .asStored ⟨id, id⟩ "u").1 "a" _).1 ⟨contact, hget, rfl⟩, hname⟩, hempty,
    hrun, hreads⟩

/-- It was written under its id by its creation. -/
theorem reads_last_write_createAlice : ∃ contact,
    getPersonalContact .asStored (createAlice.run .plain .plain {}) "u" "a" = .ok contact ∧
      (∃ before db₁ call db₂ after,
        [(({} : Database), createAlice, Book.Answer.done)] =
          before ++ (db₁, call, .done) :: after ∧
        Run (Recorded (Answered .plain)) db₂ after (createAlice.run .plain .plain {}) ∧
        WritesUnder .plain db₁ call db₂ "u" "a" (readContents contact) ∧
        ∀ dbᵢ call', (dbᵢ, call', .done) ∈ after → ¬ call'.asked.Drops "u" "a") ∧
      ∀ (o' : RowOrder ContactFields) calls' db',
        Run (Answered .plain) (createAlice.run .plain .plain {}) calls' db' →
        (∀ call', (call', .done) ∈ calls' → ¬ call'.asked.Drops "u" "a") →
        ∃ contact', getPersonalContact o' db' "u" "a" = .ok contact' ∧
          readContents contact' = readContents contact := by
  have hget : getPersonalContact .asStored (createAlice.run .plain .plain {}) "u" "a" = .ok _ := rfl
  have hrun : Run (Recorded (Answered .plain)) {} [({}, createAlice, .done)]
      (createAlice.run .plain .plain {}) :=
    Run.single ⟨rfl, .plain, plain_newUuid_ne, trivial, by decide, rfl⟩
  exact ⟨_, hget, reads_last_write Function.injective_id start_empty hrun hget⟩

end Run

end PersonalContacts

end WazoDird
