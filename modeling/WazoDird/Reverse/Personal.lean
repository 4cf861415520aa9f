import WazoDird.Database.Queries.Columns
import WazoDird.Database.Queries.PersonalContact
import WazoDird.PersonalContacts.Store

/-!
# The contacts of a user looked up one extension at a time, and in batch

Both lookups take an extension for a value, so unlike those of a phonebook
they agree on every one that the driver takes (`matchAgrees_iff`): the one
stops at the first contact that has it in a first-matched column, the other
reads the rows of all such contacts at once and regroups them. An extension
with a null character is refused with the whole batch. Nothing is asked of
the order of the rows, only that no contact has two values for a name,
which the writers of the users' contacts see to (`exists_contactStore`).
-/

namespace WazoDird

namespace PersonalContactSearchEngine

/-- **A contact answers an extension for a user**: it is the user's, it
has the extension in a first-matched column, and every column of its rows. -/
def Answers (engine : PersonalContactSearchEngine) (db : Database) (userUuid : Uuid) (e : String)
    (contact : ContactInfo) : Prop :=
  ∃ uuid, (∃ c ∈ db.contacts, c.uuid = uuid ∧ c.userUuid = some userUuid) ∧
    HasColumns (newContact uuid) (fieldsOf db.contactFields uuid) contact ∧
    ∃ col ∈ engine.firstMatchColumns, contact.get? col = some (some e)

/-- **The two lookups agree on every extension of a list**, whatever order
the server answers each query in: both are answered, the batch has an
extension as a key exactly when the lookup of it alone returns a contact,
and what either returns answers it. -/
def MatchAgrees (engine : PersonalContactSearchEngine) (db : Database) (userUuid : Uuid)
    (extens : List String) : Prop :=
  ∀ (ou : RowOrder Uuid) (o o' : RowOrder ContactFields), ∃ batch,
    engine.findContactsForExtens o db userUuid extens = .ok batch ∧
    ∀ e ∈ extens, ∃ first, engine.findFirstPersonalContact ou o' db userUuid e = .ok first ∧
      (e ∈ batch.keys ↔ ∃ c, first = [c]) ∧
      (∀ c, batch.get? e = some c → engine.Answers db userUuid e c) ∧
      ∀ c ∈ first, engine.Answers db userUuid e c

variable {engine : PersonalContactSearchEngine} {db : Database} {userUuid uuid : Uuid}
  {ou : RowOrder Uuid} {o : RowOrder ContactFields} {extens : List String} {e v : String}

/-- A contact of the user has a value in a first-matched column. -/
def Shows (engine : PersonalContactSearchEngine) (db : Database) (userUuid uuid : Uuid)
    (v : String) : Prop :=
  ShowsIn db.contactFields (inScope db userUuid) engine.firstMatchColumns uuid v

/-- A contact in scope is the user's. -/
theorem owned_of_inScope (h : inScope db userUuid uuid = true) :
    ∃ c ∈ db.contacts, c.uuid = uuid ∧ c.userUuid = some userUuid := by
  obtain ⟨c, hc, hboth⟩ := List.any_eq_true.1 h
  rw [Bool.and_eq_true, decide_eq_true_eq] at hboth
  obtain ⟨u, -, hu⟩ := List.any_eq_true.1 hboth.2
  rw [Bool.and_eq_true, decide_eq_true_eq, decide_eq_true_eq] at hu
  exact ⟨c, hc, hboth.1, hu.1.trans (congrArg some hu.2)⟩

/-- **What shows an extension answers it**, when no name of it has two
values and all of its rows were read. -/
theorem Shows.answers (h : Shows engine db userUuid uuid e)
    (hone : OneValued (fieldsOf db.contactFields uuid)) {rows : List ContactFields}
    (hrows : (fieldsOf rows uuid).Perm (fieldsOf db.contactFields uuid)) :
    engine.Answers db userUuid e (contactOf rows uuid) := by
  obtain ⟨hscope, row, hmem, hu, hname, hval⟩ := h
  have hcols : HasColumns (newContact uuid) (fieldsOf db.contactFields uuid)
      (contactOf rows uuid) := hasColumns_setAll hone hrows
  exact ⟨uuid, owned_of_inScope hscope, hcols, row.name, hname,
    hcols.get? (mem_fieldsOf.2 ⟨row, hmem, hu, rfl, hval⟩)⟩

/-! ## One extension -/

/-- The lookup of one extension selects the contacts that show it. -/
theorem mem_strict :
    uuid ∈ contactUuids db userUuid (newStrictFilter e engine.firstMatchColumns).holds ↔
      Shows engine db userUuid uuid e := by
  rw [mem_contactUuids, Shows, ShowsIn]
  simp only [newStrictFilter_iff]

/-- **The lookup of one extension** that the driver takes returns one
contact, which shows it, exactly when some contact does, and none
otherwise. -/
theorem findFirstPersonalContact_spec (htakes : Takes engine.firstMatchColumns e) :
    ∃ first, engine.findFirstPersonalContact ou o db userUuid e = .ok first ∧
    ((∃ uuid, Shows engine db userUuid uuid e) ↔ ∃ c, first = [c]) ∧
    ∀ c ∈ first, ∃ uuid, Shows engine db userUuid uuid e ∧
      c = contactOf (o.order (db.contactFields.filter (·.contactUuid ∈ [uuid]))) uuid := by
  rw [findFirstPersonalContact, findPersonalContactsWithFilter_strict, if_pos htakes]
  refine ⟨_, rfl, ?_⟩
  unfold personalContactsWithFilter
  cases huuids : ou.order (contactUuids db userUuid
      (newStrictFilter e engine.firstMatchColumns).holds) with
  | nil =>
    have hnone : ∀ uuid, ¬ Shows engine db userUuid uuid e := by
      intro uuid hshows
      have hmem := ou.mem_order.2 (mem_strict.2 hshows)
      rw [huuids] at hmem
      cases hmem
    refine ⟨⟨?_, ?_⟩, fun c hc => by cases hc⟩
    · rintro ⟨uuid, hshows⟩
      exact absurd hshows (hnone uuid)
    · rintro ⟨c, hc⟩
      cases hc
  | cons uuid uuids =>
    have hmem : uuid ∈ uuid :: uuids := List.mem_cons_self
    rw [← huuids, RowOrder.mem_order, mem_strict] at hmem
    obtain ⟨-, row, hrow, hu, -⟩ := id hmem
    dsimp only
    rw [Option.elim_some, List.take_succ_cons, List.take_zero,
      listContactsByUuid_singleton ⟨row, hrow, hu⟩]
    exact ⟨⟨fun _ => ⟨_, rfl⟩, fun _ => ⟨uuid, hmem⟩⟩,
      fun c hc => ⟨uuid, hmem, List.mem_singleton.1 hc⟩⟩

/-! ## Many extensions -/

/-- The contacts the batch reads. -/
def batchUuids (engine : PersonalContactSearchEngine) (db : Database) (userUuid : Uuid)
    (extens : List String) : List Uuid :=
  contactUuids db userUuid fun row =>
    row.value.elim false (· ∈ extens) && row.name ∈ engine.firstMatchColumns

theorem mem_batchUuids : uuid ∈ engine.batchUuids db userUuid extens ↔
    ∃ v ∈ extens, Shows engine db userUuid uuid v := by
  rw [batchUuids, mem_contactUuids]
  exact exists_showsIn_iff

/-- The map of the rows that the batch reads. -/
def batchMap (engine : PersonalContactSearchEngine) (o : RowOrder ContactFields) (db : Database)
    (userUuid : Uuid) (extens : List String) : Dict String ContactInfo :=
  buildExtenContactMap
    (o.order (db.contactFields.filter (·.contactUuid ∈ engine.batchUuids db userUuid extens)))
    extens engine.firstMatchColumns

/-- The batch is the map of the rows it reads, where it makes no query of
no rows, when the driver takes every extension. -/
theorem findContactsForExtens_eq (htakes : ∀ e ∈ extens, Takes engine.firstMatchColumns e) :
    engine.findContactsForExtens o db userUuid extens =
      .ok (engine.batchMap o db userUuid extens) := by
  unfold findContactsForExtens batchMap
  match extens, hcols : engine.firstMatchColumns with
  | [], _ =>
    rw [order_rows_eq_nil fun uuid hu => by simpa using mem_batchUuids.1 hu]
    rfl
  | _ :: _, [] =>
    rw [order_rows_eq_nil fun uuid hu => ?_]
    · rfl
    · obtain ⟨v, -, -, row, -, -, hname, -⟩ := mem_batchUuids.1 hu
      rw [hcols] at hname
      cases hname
  | e :: rest, column :: columns =>
    have hfree : ∀ v ∈ e :: rest, NullFree (v :: column :: columns) := fun v hv =>
      (hcols ▸ htakes v hv).resolve_left (List.cons_ne_nil _ _)
    have htexts : NullFree ((e :: rest) ++ (column :: columns)) := nullFree_append.2
      ⟨fun v hv => (nullFree_cons.1 (hfree v hv)).1,
        (nullFree_cons.1 (hfree e List.mem_cons_self)).2⟩
    exact (takeTexts_bind_of htexts _).trans (by rw [batchUuids, hcols]; rfl)

/-- **A batch with an extension that the driver does not take is refused.** -/
theorem findContactsForExtens_of_not_takes (he : e ∈ extens)
    (hnot : ¬ Takes engine.firstMatchColumns e) :
    engine.findContactsForExtens o db userUuid extens = .error (.python .valueError) := by
  rw [Takes, not_or] at hnot
  unfold findContactsForExtens
  split
  · cases he
  · next hcols => exact absurd hcols hnot.1
  · rw [takeTexts_bind, if_neg]
    intro hall
    obtain ⟨hextens, hcols⟩ := nullFree_append.1 hall
    exact hnot.2 (nullFree_cons.2 ⟨hextens e he, hcols⟩)

/-- **The batch** has an extension as a key exactly when some contact
shows it, and then answers with such a contact. -/
theorem batchMap_spec (he : e ∈ extens) :
    (e ∈ (engine.batchMap o db userUuid extens).keys ↔
      ∃ uuid, Shows engine db userUuid uuid e) ∧
    ∀ c, (engine.batchMap o db userUuid extens).get? e = some c →
      ∃ uuid, Shows engine db userUuid uuid e ∧ c = contactOf (o.order (db.contactFields.filter
        (·.contactUuid ∈ engine.batchUuids db userUuid extens))) uuid :=
  buildExtenContactMap_spec (fun _ => mem_batchUuids) he

/-! ## Where the two agree -/

/-- **The two lookups agree on every extension, exactly when the driver
takes each**, over every store of the users' contacts. -/
theorem matchAgrees_iff (engine : PersonalContactSearchEngine)
    (store : ContactStore Contact.userUuid) (userUuid : Uuid) (extens : List String) :
    engine.MatchAgrees store.db userUuid extens ↔
      ∀ e ∈ extens, Takes engine.firstMatchColumns e := by
  constructor
  · intro h e he
    by_contra hnot
    obtain ⟨batch, hbatch, -⟩ := h .asStored .asStored .asStored
    rw [findContactsForExtens_of_not_takes he hnot] at hbatch
    cases hbatch
  · intro htakes ou o o'
    refine ⟨_, findContactsForExtens_eq htakes, fun e he => ?_⟩
    obtain ⟨hkey, hbatch⟩ := @batchMap_spec engine store.db userUuid o extens e he
    obtain ⟨first, hok, hone, hfirst⟩ :=
      @findFirstPersonalContact_spec engine store.db userUuid ou o' e (htakes e he)
    have honeValued : ∀ {uuid}, Shows engine store.db userUuid uuid e →
        OneValued (fieldsOf store.db.contactFields uuid) := by
      rintro uuid ⟨hscope, -⟩
      obtain ⟨c, hc, rfl, hcu⟩ := owned_of_inScope hscope
      exact store.oneValued c hc (by rw [hcu]; rfl)
    refine ⟨first, hok, hkey.trans hone, fun c hc => ?_, fun c hc => ?_⟩
    · obtain ⟨uuid, hshows, rfl⟩ := hbatch c hc
      have hin := mem_batchUuids.2 ⟨e, he, hshows⟩
      exact hshows.answers (honeValued hshows)
        (fieldsOf_selected fun f _ hf => by simpa [hf] using hin)
    · obtain ⟨uuid, hshows, rfl⟩ := hfirst c hc
      exact hshows.answers (honeValued hshows) (fieldsOf_selected fun f _ hf => by simp [hf])

/-- A user with one contact, of one number. -/
def oneNumber : ContactStore Contact.userUuid where
  db :=
    { users := [{ userUuid := "u", tenantUuid := "t" }]
      contacts := [{ uuid := "c", userUuid := some "u" }]
      contactFields := [⟨"c", "number", some "1234"⟩] }
  uuids := List.nodup_singleton _
  oneValued c hc _ := by
    rw [List.mem_singleton.1 hc]
    exact oneValued_of_nodup (by simp [fieldsOf])

/-- **They disagree on 1234 beside a null character**: alone it finds its
contact, and the batch is refused. -/
theorem matches_disagree :
    (∃ c, (PersonalContactSearchEngine.mk [] ["number"]).findFirstPersonalContact .asStored
      .asStored oneNumber.db "u" "1234" = .ok [c]) ∧
    (PersonalContactSearchEngine.mk [] ["number"]).findContactsForExtens .asStored oneNumber.db "u"
      ["1234", "\x00"] = .error (.python .valueError) ∧
    ¬ (PersonalContactSearchEngine.mk [] ["number"]).MatchAgrees oneNumber.db "u"
      ["1234", "\x00"] := by
  have hbatch : (PersonalContactSearchEngine.mk [] ["number"]).findContactsForExtens .asStored
      oneNumber.db "u" ["1234", "\x00"] = .error (.python .valueError) := rfl
  refine ⟨⟨_, rfl⟩, hbatch, fun h => ?_⟩
  obtain ⟨batch, hok, -⟩ := h .asStored .asStored .asStored
  rw [hbatch] at hok
  cases hok

end PersonalContactSearchEngine

namespace PersonalContacts

variable {enc : Encoding} {ids : String → Prop} {db db₀ : Database} {calls : List Call}

/-- **What the writers keep is a store of contacts.** -/
def Kept.contactStore (h : Kept enc ids db) : ContactStore Contact.userUuid where
  db := db
  uuids := h.uuids
  oneValued c hc hu := by
    obtain ⟨info, hinfo⟩ := h.stored c hc hu
    refine oneValued_of_nodup ?_
    rw [hinfo.fields, List.map_map]
    exact info.nodup

/-- **What any run of the writers leaves is a store of contacts.** -/
theorem exists_contactStore (hs : Start db₀) (hrun : Run (Step enc) db₀ calls db) :
    ∃ store : ContactStore Contact.userUuid, store.db = db :=
  ⟨(Kept.run hs hrun).contactStore, rfl⟩

end PersonalContacts

end WazoDird
