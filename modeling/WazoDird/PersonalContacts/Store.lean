import WazoDird.Common.Run
import WazoDird.Database.Queries.PersonalContactCRUD

/-!
# The contacts of the users, over a run

The writers of `PersonalContactCRUD` as one transition system. What one
write does is one of three things (`PersonalContactCRUD.Writes`), each
kept to one user; so the invariant, and what the other users have, is
carried through a call, and through a run, by what these three preserve.

An id that a contact is created with is kept twice: in the uuid column,
which drops blanks past its length, and in the row of the field `id`,
which drops none. They differ for such an id, and for no other.
-/

namespace WazoDird

open PersonalContactCRUD Relation

namespace PersonalContacts

/-- **A call of a writer.** -/
inductive Call where
  | create (tenantUuid userUuid : Uuid) (info : TextInfo)
  | createMany (tenantUuid userUuid : Uuid) (infos : List TextInfo)
  | edit (tenantUuid userUuid : Uuid) (contactId : String) (info : TextInfo)
  | delete (userUuid : Uuid) (contactUuid : String)
  | deleteAll (userUuid : Uuid)

/-- The user a call is for. -/
def Call.userUuid : Call → Uuid
  | create _ userUuid _ | createMany _ userUuid _ | edit _ userUuid _ _ | delete userUuid _
  | deleteAll userUuid => userUuid

/-- The contacts a call creates. An edition writes the id it edits in
place of its body's. -/
def Call.infos : Call → List TextInfo
  | create _ _ info => [info]
  | createMany _ _ infos => infos
  | edit .. | delete .. | deleteAll _ => []

/-- The database a call leaves. -/
def Call.run (enc : Encoding) (server : PersonalServer) (db : Database) : Call → Database
  | create tenantUuid userUuid info =>
      (createPersonalContact enc server db tenantUuid userUuid info).2
  | createMany tenantUuid userUuid infos =>
      (createPersonalContacts enc server db tenantUuid userUuid infos).2
  | edit tenantUuid userUuid contactId info =>
      (editPersonalContact enc server db tenantUuid userUuid contactId info).2
  | delete userUuid contactUuid => (deletePersonalContact db userUuid contactUuid).2
  | deleteAll userUuid => (deleteAllPersonalContacts db userUuid).2

/-- **One call**, under some answers of the server. -/
def Step (enc : Encoding) (db : Database) (call : Call) (db' : Database) : Prop :=
  ∃ server, db' = call.run enc server db

/-- **Where a run starts**: no user has a contact. The contacts of the
phonebooks may be there. -/
structure Start (db : Database) : Prop where
  uuids : (db.contacts.map Contact.uuid).Nodup
  owned : ∀ f ∈ db.contactFields, ∃ c ∈ db.contacts, c.uuid = f.contactUuid
  impersonal : ∀ c ∈ db.contacts, c.userUuid = none

/-- What the rows of a contact make of its items: one row for each, and
the hash in the contact's own. The id among them is one of those written,
and the contact's uuid is what the column keeps of it. -/
structure Represents (enc : Encoding) (ids : String → Prop) (db : Database) (c : Contact)
    (info : TextInfo) : Prop where
  id : ∃ id, info.get? "id" = some id ∧ ids id ∧ stringColumn 38 id = .ok c.uuid
  hash : c.hash = enc.computeContactHash info.body
  fields : fieldsOf db.contactFields c.uuid = info.entries.map fun e => (e.1, some e.2)

/-- **The invariant**, where the ids written are all such. -/
structure Kept (enc : Encoding) (ids : String → Prop) (db : Database) : Prop where
  /-- A uuid names one contact. -/
  uuids : (db.contacts.map Contact.uuid).Nodup
  /-- No row is left of a contact that is gone. -/
  owned : ∀ f ∈ db.contactFields, ∃ c ∈ db.contacts, c.uuid = f.contactUuid
  /-- Each contact of a user is that of its items. -/
  stored : ∀ c ∈ db.contacts, c.userUuid.isSome → ∃ info, Represents enc ids db c info
  /-- A hash names one contact of a user. -/
  hashes : ∀ c ∈ db.contacts, ∀ d ∈ db.contacts, c.userUuid.isSome →
    c.userUuid = d.userUuid → c.hash = d.hash → c = d

/-- **What a user has stays as it is**: the contacts, and the rows of
each. -/
structure Untouched (userUuid : Uuid) (db db' : Database) : Prop where
  contacts : db'.contacts.filter (·.userUuid = some userUuid) =
    db.contacts.filter (·.userUuid = some userUuid)
  fields : ∀ c ∈ db.contacts, c.userUuid = some userUuid →
    fieldsOf db'.contactFields c.uuid = fieldsOf db.contactFields c.uuid

variable {enc : Encoding} {ids : String → Prop} {db db' db₀ : Database} {c : Contact} {info : TextInfo}
  {userUuid other : Uuid} {call : Call} {calls : List Call}

/-- The invariant holds where a run starts. -/
theorem Start.kept (h : Start db) : Kept enc ids db where
  uuids := h.uuids
  owned := h.owned
  stored c hc hu := by
    rw [h.impersonal c hc] at hu
    cases hu
  hashes c hc _ _ hu := by
    rw [h.impersonal c hc] at hu
    cases hu

/-! ## One write -/

/-- A contact whose rows stay is that of its items still. -/
theorem Represents.congr (h : Represents enc ids db c info)
    (hf : fieldsOf db'.contactFields c.uuid = fieldsOf db.contactFields c.uuid) :
    Represents enc ids db' c info :=
  ⟨h.id, h.hash, hf.trans h.fields⟩

/-- Contacts of a user that clash in nothing have different hashes. -/
theorem hash_ne_of_clash {c d : Contact} (h : c.clash d = false) (hu : c.userUuid.isSome)
    (hcd : c.userUuid = d.userUuid) : c.hash ≠ d.hash := by
  intro hh
  simp [Contact.clash, hh, hcd ▸ hu, hcd] at h

/-- **A contact added keeps the invariant.** -/
theorem Kept.added (h : Kept enc ids db) {id : String} {fields : List ContactFields}
    (hid : info.get? "id" = some id) (hids : ids id) (hrow : stringColumn 38 id = .ok c.uuid)
    (hhash : c.hash = enc.computeContactHash info.body)
    (hfields : contactFields enc id info = .ok fields)
    (hnew : ∀ d ∈ db.contacts, c.clash d = false) :
    Kept enc ids { db with
      contacts := db.contacts ++ [c]
      contactFields := db.contactFields ++ fields } := by
  have huuid : ∀ d ∈ db.contacts, d.uuid ≠ c.uuid :=
    fun d hd => Contact.uuid_ne_of_clash (hnew d hd)
  obtain ⟨hown, hof⟩ := contactFields_ok hrow hfields
  refine ⟨keys_append h.uuids huuid, ?_, ?_, ?_⟩
  · intro f hf
    rcases List.mem_append.1 hf with hf | hf
    · obtain ⟨d, hd, hdf⟩ := h.owned f hf
      exact ⟨d, List.mem_append_left _ hd, hdf⟩
    · exact ⟨c, by simp, (hown f hf).symm⟩
  · intro d hd hu
    rcases List.mem_append.1 hd with hd | hd
    · obtain ⟨info', hinfo'⟩ := h.stored d hd hu
      have hnil : fieldsOf fields d.uuid = [] :=
        fieldsOf_eq_nil fun f hf hfd => huuid d hd (hfd.symm.trans (hown f hf))
      exact ⟨info', hinfo'.congr (by rw [fieldsOf_append, hnil, List.append_nil])⟩
    · obtain rfl := List.mem_singleton.1 hd
      have hnil : fieldsOf db.contactFields d.uuid = [] := by
        refine fieldsOf_eq_nil fun f hf hfd => ?_
        obtain ⟨e, he, hef⟩ := h.owned f hf
        exact huuid e he (hef.trans hfd)
      exact ⟨info, ⟨id, hid, hids, hrow⟩, hhash, by rw [fieldsOf_append, hnil, List.nil_append, hof]⟩
  · intro d hd e he hu hde hh
    rcases List.mem_append.1 hd with hold | hd
    · rcases List.mem_append.1 he with hold' | he
      · exact h.hashes d hold e hold' hu hde hh
      · obtain rfl := List.mem_singleton.1 he
        exact absurd hh.symm (hash_ne_of_clash (hnew d hold) (hde ▸ hu) hde.symm)
    · obtain rfl := List.mem_singleton.1 hd
      rcases List.mem_append.1 he with hold' | he
      · exact absurd hh (hash_ne_of_clash (hnew e hold') hu hde)
      · exact (List.mem_singleton.1 he).symm

/-- **Contacts dropped with their rows keep the invariant.** -/
theorem Kept.dropped (h : Kept enc ids db) (p : Contact → Bool) :
    Kept enc ids (db.dropContacts p) := by
  have hmem : ∀ c ∈ (db.dropContacts p).contacts, c ∈ db.contacts ∧ p c = false := by
    intro c hc
    exact ⟨(List.mem_filter.1 hc).1, by simpa using (List.mem_filter.1 hc).2⟩
  refine ⟨keys_filter h.uuids _, ?_, ?_, ?_⟩
  · intro f hf
    obtain ⟨hf, hkeep⟩ := List.mem_filter.1 hf
    obtain ⟨c, hc, hcf⟩ := h.owned f hf
    refine ⟨c, List.mem_filter.2 ⟨hc, ?_⟩, hcf⟩
    rw [Bool.not_eq_true', List.any_eq_false] at hkeep
    simpa [hcf] using hkeep c hc
  · intro c hc hu
    obtain ⟨hc, hp⟩ := hmem c hc
    obtain ⟨info, hinfo⟩ := h.stored c hc hu
    exact ⟨info, hinfo.congr (fieldsOf_dropContacts h.uuids hc hp)⟩
  · intro c hc d hd
    exact h.hashes c (hmem c hc).1 d (hmem d hd).1

/-- **Every write keeps the invariant.** -/
theorem Kept.write (h : Kept enc ids db) (hw : Writes enc ids userUuid db db') :
    Kept enc ids db' := by
  cases hw with
  | user tenantUuid =>
      obtain ⟨hcontacts, hfields⟩ := getDirdUser_contacts db tenantUuid userUuid
      refine ⟨hcontacts ▸ h.uuids, ?_, ?_, ?_⟩
      · rw [hcontacts, hfields]
        exact h.owned
      · intro c hc hu
        obtain ⟨info, hinfo⟩ := h.stored c (hcontacts ▸ hc) hu
        exact ⟨info, hinfo.congr (by rw [hfields])⟩
      · rw [hcontacts]
        exact h.hashes
  | added _ hid hids hrow hhash hfields hnew => exact h.added hid hids hrow hhash hfields hnew
  | dropped _ => exact h.dropped _

/-- **A write for one user leaves what the others have.** -/
theorem Kept.untouched (h : Kept enc ids db) (hw : Writes enc ids userUuid db db')
    (hne : other ≠ userUuid) : Untouched other db db' := by
  cases hw with
  | user tenantUuid =>
      obtain ⟨hcontacts, hfields⟩ := getDirdUser_contacts db tenantUuid userUuid
      exact ⟨by rw [hcontacts], fun c _ _ => by rw [hfields]⟩
  | @added contact info id fields huser _ _ hrow _ hfields hnew =>
      constructor
      · have hnil : [contact].filter (·.userUuid = some other) = [] := by
          simp [huser, hne.symm]
        show (db.contacts ++ [contact]).filter _ = _
        rw [List.filter_append, hnil, List.append_nil]
      · intro c hc _
        have hnil : fieldsOf fields c.uuid = [] := fieldsOf_eq_nil fun f hf hfc =>
          Contact.uuid_ne_of_clash (hnew c hc)
            (hfc.symm.trans ((contactFields_ok hrow hfields).1 f hf))
        show fieldsOf (db.contactFields ++ fields) c.uuid = _
        rw [fieldsOf_append, hnil, List.append_nil]
  | @dropped p hp =>
      have hkeep : ∀ c ∈ db.contacts, c.userUuid = some other → p c = false := by
        intro c hc hu
        rw [Bool.eq_false_iff]
        intro hpc
        have huser := (hp c hc hpc).symm.trans hu
        exact hne (Option.some.inj huser).symm
      constructor
      · show (db.contacts.filter fun c => !p c).filter _ = _
        rw [List.filter_filter]
        refine List.filter_congr fun c hc => ?_
        by_cases hu : c.userUuid = some other
        · simp [hu, hkeep c hc hu]
        · simp [hu]
      · exact fun c hc hu => fieldsOf_dropContacts h.uuids hc (hkeep c hc hu)

/-! ## One call, and a run -/

/-- What is untouched twice is untouched. -/
theorem Untouched.trans {db₁ db₂ : Database} (h : Untouched other db db₁)
    (h' : Untouched other db₁ db₂) : Untouched other db db₂ := by
  refine ⟨h'.contacts.trans h.contacts, fun c hc hu => ?_⟩
  have hmem : c ∈ db₁.contacts.filter (·.userUuid = some other) := by
    rw [h.contacts]
    exact List.mem_filter.2 ⟨hc, by simpa using hu⟩
  exact (h'.fields c (List.mem_filter.1 hmem).1 hu).trans (h.fields c hc hu)

/-- Writes for one user keep the invariant, and what the others have. -/
theorem Kept.writes (h : Kept enc ids db) (hw : ReflTransGen (Writes enc ids userUuid) db db') :
    Kept enc ids db' ∧ ∀ other, other ≠ userUuid → Untouched other db db' := by
  induction hw with
  | refl => exact ⟨h, fun _ _ => ⟨rfl, fun _ _ _ => rfl⟩⟩
  | tail _ hw ih =>
      exact ⟨ih.1.write hw, fun other hne => (ih.2 other hne).trans (ih.1.untouched hw hne)⟩

/-- A contact that was deleted had a uuid its column keeps. -/
theorem Kept.length_of_deleted (h : Kept enc ids db) {contactId : String}
    (hdelete : deletePersonalContactIn db userUuid contactId = .ok db') :
    contactId.toList.length ≤ 38 := by
  obtain ⟨⟨⟩, hsome, -⟩ := bind_eq_ok.1 hdelete
  obtain ⟨c, hc⟩ := List.exists_mem_of_length_pos (Nat.pos_of_ne_zero (raiseIf_ok.1 hsome))
  obtain ⟨hc, hselected⟩ := List.mem_filter.1 hc
  obtain ⟨f, -, hfc, u, -, hcu, huf⟩ := deleteFilter_iff.1 hselected
  rw [Bool.and_eq_true, decide_eq_true_eq, decide_eq_true_eq] at huf
  obtain ⟨info, hinfo⟩ := h.stored c hc (by rw [hcu]; rfl)
  obtain ⟨id, -, -, hrow⟩ := hinfo.id
  rw [← huf.2, hfc]
  exact length_of_stringColumn hrow

/-- **A call makes writes for its user.** -/
theorem Kept.writes_of_step (h : Kept enc ids db) (hfit : ∀ a, a.toList.length ≤ 38 → ids a)
    (hinfos : IdsAre ids call.infos) (hstep : Step enc db call db') :
    ReflTransGen (Writes enc ids call.userUuid) db db' := by
  obtain ⟨server, rfl⟩ := hstep
  cases call with
  | create => exact writes_createPersonalContact hfit hinfos
  | createMany => exact writes_createPersonalContacts hfit hinfos
  | edit =>
      exact writes_editPersonalContact hfit fun _ hdelete => hfit _ (h.length_of_deleted hdelete)
  | delete => exact writes_deletePersonalContact
  | deleteAll => exact writes_deleteAllPersonalContacts

/-- **A call keeps the invariant**, and what the other users have. -/
theorem Kept.step (h : Kept enc ids db) (hfit : ∀ a, a.toList.length ≤ 38 → ids a)
    (hinfos : IdsAre ids call.infos) (hstep : Step enc db call db') :
    Kept enc ids db' ∧ ∀ other, other ≠ call.userUuid → Untouched other db db' :=
  h.writes (h.writes_of_step hfit hinfos hstep)

/-- **Every run keeps the invariant**, of whatever ids. -/
theorem Kept.run (hs : Start db₀) (hrun : Run (Step enc) db₀ calls db) :
    Kept enc (fun _ => True) db :=
  hrun.invariant hs.kept fun h hstep =>
    (h.step (fun _ _ => trivial) (fun _ _ _ _ => trivial) hstep).1

/-- **A run of ids the column does not shorten keeps the invariant of
these.** -/
theorem Kept.run_ids (hs : Start db₀)
    (hrun : Run (Guarded (fun _ call => IdsAre (fun id => ¬ Shortened 38 id) call.infos)
      (Step enc)) db₀ calls db) : Kept enc (fun id => ¬ Shortened 38 id) db :=
  hrun.invariant hs.kept fun h hstep =>
    (h.step (fun _ => not_shortened_of_length_le) hstep.1 hstep.2).1

/-! ## What the invariant says -/

/-- The fields of a contact. -/
def storedInfo (db : Database) (uuid : Uuid) : ContactBody :=
  (Dict.ofList (fieldsOf db.contactFields uuid)).map Value.ofText

/-- **The representation of the personal contacts**: each contact of a
user has one field named `id`, with its uuid, and the hash of its fields;
no user has two contacts of the same fields, apart from the id. -/
structure RepresentationHolds (enc : Encoding) (db : Database) : Prop where
  id : ∀ c ∈ db.contacts, c.userUuid.isSome →
    (fieldsOf db.contactFields c.uuid).filter (·.1 = "id") = [("id", some c.uuid)]
  hash : ∀ c ∈ db.contacts, c.userUuid.isSome →
    c.hash = enc.computeContactHash (storedInfo db c.uuid)
  distinct : ∀ c ∈ db.contacts, ∀ d ∈ db.contacts, c.userUuid.isSome → c.userUuid = d.userUuid →
    ((storedInfo db c.uuid).erase "id").Same ((storedInfo db d.uuid).erase "id") → c = d

/-- The fields of a contact are its items. -/
theorem Represents.storedInfo_same (h : Represents enc ids db c info) :
    (storedInfo db c.uuid).Same info.body := by
  have hnodup : ((fieldsOf db.contactFields c.uuid).map Prod.fst).Nodup := by
    rw [h.fields, List.map_map]
    exact info.nodup
  rw [Dict.same_iff]
  intro k
  refine Option.ext fun v => ?_
  rw [storedInfo, Dict.get?_map, TextInfo.body, Dict.get?_map, Option.map_eq_some_iff,
    Option.map_eq_some_iff]
  have hget : ∀ t, (Dict.ofList (fieldsOf db.contactFields c.uuid)).get? k = some t ↔
      ∃ s, info.get? k = some s ∧ t = some s := by
    intro t
    rw [Dict.get?_ofList_eq_some_iff fun _ _ _ => Dict.eq_of_nodup_keys hnodup, h.fields,
      List.mem_map]
    constructor
    · rintro ⟨e, he, hek⟩
      cases hek
      exact ⟨e.2, Dict.get?_eq_some_iff.2 he, rfl⟩
    · rintro ⟨s, hs, rfl⟩
      exact ⟨(k, s), Dict.get?_eq_some_iff.1 hs, rfl⟩
  constructor
  · rintro ⟨t, ht, rfl⟩
    obtain ⟨s, hs, rfl⟩ := (hget t).1 ht
    exact ⟨s, hs, rfl⟩
  · rintro ⟨s, hs, rfl⟩
    exact ⟨some s, (hget _).2 ⟨s, hs, rfl⟩, rfl⟩

/-- Bodies of the same items but the id have one hash. -/
theorem hash_of_same_erase {body body' : ContactBody}
    (h : (body.erase "id").Same (body'.erase "id")) :
    enc.computeContactHash body = enc.computeContactHash body' := by
  refine Encoding.computeContactHash_congr fun k hk => ?_
  have hkey := Dict.same_iff.1 h k
  rw [Dict.get?_erase, Dict.get?_erase, if_neg hk.symm, if_neg hk.symm] at hkey
  rw [hkey]

/-- One row for the id is the only one. -/
theorem eq_of_id_row {fields : List (String × Option String)} {t t' : Option String}
    (h : fields.filter (·.1 = "id") = [("id", t)]) (hmem : ("id", t') ∈ fields) : t' = t := by
  have hrow : ("id", t') ∈ [("id", t)] := by
    rw [← h]
    exact List.mem_filter.2 ⟨hmem, rfl⟩
  cases List.mem_singleton.1 hrow
  rfl

/-- A contact has one row for its id, which its uuid is kept of. -/
theorem Represents.id_row (h : Represents enc ids db c info) :
    ∃ id, (fieldsOf db.contactFields c.uuid).filter (·.1 = "id") = [("id", some id)] ∧
      ids id ∧ stringColumn 38 id = .ok c.uuid := by
  obtain ⟨id, hget, hids, hrow⟩ := h.id
  refine ⟨id, ?_, hids, hrow⟩
  rw [h.fields]
  refine filter_key (a := ("id", some id)) ?_ ?_
  · rw [List.map_map]
    exact info.nodup
  · exact List.mem_map.2 ⟨("id", id), Dict.get?_eq_some_iff.1 hget, rfl⟩

/-- The hash in the row of a contact is that of its fields. -/
theorem Represents.hash_storedInfo (h : Represents enc ids db c info) :
    c.hash = enc.computeContactHash (storedInfo db c.uuid) := by
  rw [h.hash]
  refine Encoding.computeContactHash_congr fun k _ => ?_
  rw [Dict.same_iff.1 h.storedInfo_same k]

/-- **The invariant is the representation, but for an id that the column
shortens**: its row has the id as it was given. -/
theorem Kept.representationHolds_iff (h : Kept enc ids db) :
    RepresentationHolds enc db ↔ ∀ c ∈ db.contacts, c.userUuid.isSome →
      ∀ id, ("id", some id) ∈ fieldsOf db.contactFields c.uuid → ¬ Shortened 38 id := by
  have hhash : ∀ c ∈ db.contacts, c.userUuid.isSome →
      c.hash = enc.computeContactHash (storedInfo db c.uuid) := by
    intro c hc hu
    obtain ⟨info, hinfo⟩ := h.stored c hc hu
    exact hinfo.hash_storedInfo
  constructor
  · intro hholds c hc hu id hid
    obtain ⟨info, hinfo⟩ := h.stored c hc hu
    obtain ⟨id', -, -, hrow⟩ := hinfo.id_row
    obtain rfl := Option.some.inj (eq_of_id_row (hholds.id c hc hu) hid)
    exact not_shortened_of_length_le (length_of_stringColumn hrow)
  · intro hkept
    refine ⟨fun c hc hu => ?_, hhash, fun c hc d hd hu hcd hsame => ?_⟩
    · obtain ⟨info, hinfo⟩ := h.stored c hc hu
      obtain ⟨id, hid, -, hrow⟩ := hinfo.id_row
      have hmem : ("id", some id) ∈ (fieldsOf db.contactFields c.uuid).filter (·.1 = "id") := by
        rw [hid]
        exact List.mem_singleton_self _
      rw [hid, eq_of_stringColumn (hkept c hc hu id (List.mem_filter.1 hmem).1) hrow]
    · refine h.hashes c hc d hd hu hcd ?_
      rw [hhash c hc hu, hhash d hd (hcd ▸ hu)]
      exact hash_of_same_erase hsame

/-- The ids written are those in the rows. -/
theorem Kept.ids_of_mem (h : Kept enc ids db) (hc : c ∈ db.contacts) (hu : c.userUuid.isSome)
    {id : String} (hid : ("id", some id) ∈ fieldsOf db.contactFields c.uuid) : ids id := by
  obtain ⟨info, hinfo⟩ := h.stored c hc hu
  obtain ⟨id', hrow, hids, -⟩ := hinfo.id_row
  obtain rfl := Option.some.inj (eq_of_id_row hrow hid)
  exact hids

/-- **The representation holds in every run of ids the column does not
shorten**, in every state; in a run of any others it holds exactly where
no id stored is one the column shortens. In either a call for one user
leaves what every other user has. -/
theorem representationHolds_run :
    (∀ db₀ calls db, Start db₀ →
      Run (Guarded (fun _ call => IdsAre (fun id => ¬ Shortened 38 id) call.infos) (Step enc))
        db₀ calls db → RepresentationHolds enc db) ∧
    ∀ db₀ calls db, Start db₀ → Run (Step enc) db₀ calls db →
      (RepresentationHolds enc db ↔ ∀ c ∈ db.contacts, c.userUuid.isSome →
        ∀ id, ("id", some id) ∈ fieldsOf db.contactFields c.uuid → ¬ Shortened 38 id) ∧
      ∀ call db', Step enc db call db' →
        ∀ other, other ≠ call.userUuid → Untouched other db db' := by
  constructor
  · intro db₀ calls db hs hrun
    have hkept := Kept.run_ids hs hrun
    exact hkept.representationHolds_iff.2 fun c hc hu _ hid => hkept.ids_of_mem hc hu hid
  · intro db₀ calls db hs hrun
    have hkept := Kept.run hs hrun
    refine ⟨hkept.representationHolds_iff, fun call db' hstep => ?_⟩
    exact (hkept.step (fun _ _ => trivial) (fun _ _ _ _ => trivial) hstep).2

/-- A database without a row. -/
theorem start_empty : Start {} where
  uuids := List.nodup_nil
  owned f hf := by cases hf
  impersonal c hc := by cases hc

/-- A contact created with an id of its own. -/
theorem representationHolds_run_create :
    RepresentationHolds Encoding.plain (Call.run Encoding.plain PersonalServer.plain {}
      (.create "t" "u" (Dict.ofList [("id", "a"), ("name", "Alice")]))) := by
  refine representationHolds_run.1 {} _ _ start_empty
    (Run.single ⟨?_, PersonalServer.plain, rfl⟩)
  intro info hinfo id hid
  rw [List.mem_singleton.1 hinfo] at hid
  cases hid
  decide

/-- A contact created with an id that has three blanks past a uuid: the
column drops the last of them, and the row of the id has all. -/
theorem not_representationHolds_blanks :
    ¬ ∀ db₀ calls db, Start db₀ → Run (Step Encoding.plain) db₀ calls db →
      RepresentationHolds Encoding.plain db := by
  intro h
  let call : Call := .create "t" "u"
    (Dict.ofList [("id", "8b2e6d3c-0f41-4d8a-9c57-1e3a7b90d264   "), ("name", "Alice")])
  have hholds := h {} [call] _ start_empty (Run.single ⟨PersonalServer.plain, rfl⟩)
  have hcontact : ∃ c ∈ (call.run Encoding.plain PersonalServer.plain {}).contacts,
      c.uuid = "8b2e6d3c-0f41-4d8a-9c57-1e3a7b90d264  " ∧ c.userUuid.isSome := by decide
  obtain ⟨c, hc, huuid, hu⟩ := hcontact
  have hid := hholds.id c hc hu
  rw [huuid] at hid
  exact absurd hid (by decide)

end PersonalContacts

end WazoDird
