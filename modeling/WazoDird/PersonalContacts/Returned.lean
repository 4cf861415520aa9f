import WazoDird.PersonalContacts.Batch
import WazoDird.PersonalContacts.Import

/-!
# What a batch leaves and returns

A batch seen from the list that it is given. What is returned for a row is
read off the list (`forall₂_setIds`), what is in the database off the loop
(`Left`), and what a user gets under an id is the fields of the contact of
that uuid (`get_iff`).
-/

namespace WazoDird

open PersonalContactCRUD PersonalContacts

namespace PersonalImport

variable {enc : Encoding} {server : PersonalServer} {ids : String → Prop} {o : RowOrder ContactFields}
  {db db' : Database} {tenantUuid userUuid : Uuid} {info later : TextInfo}
  {infos created : List TextInfo} {s : Added}

/-- The fields of a contact, by its rows. -/
def shown (db : Database) (uuid : Uuid) : ContactInfo :=
  Dict.ofList (fieldsOf db.contactFields uuid)

/-- The contact that a user has under a hash. -/
structure StoredUnder (db : Database) (userUuid : Uuid) (hash : String) (c : Contact) : Prop where
  mem : c ∈ db.contacts
  user : c.userUuid = some userUuid
  hash : c.hash = hash

/-! ## Reading one contact -/

/-- Rows of distinct names show what they hold. -/
theorem shown_same {uuid : Uuid}
    (h : fieldsOf db.contactFields uuid = info.entries.map fun e => (e.1, some e.2)) :
    (shown db uuid).Same (info.map some) := by
  have hnodup : ((info.entries.map fun e => (e.1, some e.2)).map Prod.fst).Nodup := by
    rw [List.map_map]
    exact info.nodup
  rw [Dict.same_iff]
  intro k
  rw [shown, h, Dict.get?_ofList_of_perm (List.Perm.refl _) hnodup]
  rfl

/-- A contact that has a row for its id is what its rows hold, in whatever
order they come. -/
theorem contactOf_same {rows : List ContactFields} {uuid : Uuid}
    (hperm : rows.Perm (db.contactFields.filter (·.contactUuid ∈ [uuid])))
    (hfields : fieldsOf db.contactFields uuid = info.entries.map fun e => (e.1, some e.2))
    (hid : (info.get? "id").isSome) : (contactOf rows uuid).Same (shown db uuid) := by
  have hrows : (fieldsOf rows uuid).Perm (fieldsOf db.contactFields uuid) := by
    have hself : (db.contactFields.filter (·.contactUuid ∈ [uuid])).filter (·.contactUuid = uuid) =
        db.contactFields.filter (·.contactUuid = uuid) := by
      rw [List.filter_filter]
      refine List.filter_congr fun f _ => ?_
      simp
    have hfilter := hperm.filter (·.contactUuid = uuid)
    rw [hself] at hfilter
    exact hfilter.map _
  have hnodup : ((fieldsOf db.contactFields uuid).map Prod.fst).Nodup := by
    rw [hfields, List.map_map]
    exact info.nodup
  have hread : ∀ k, (Dict.ofList (fieldsOf rows uuid)).get? k = (shown db uuid).get? k := by
    intro k
    rw [shown, Dict.get?_ofList_of_perm hrows hnodup,
      Dict.get?_ofList_of_perm (List.Perm.refl _) hnodup]
  rw [Dict.same_iff]
  intro k
  -- the uuid that a contact starts with is read over
  have hstart : (contactOf rows uuid).get? k =
      ((Dict.ofList (fieldsOf rows uuid)).get? k).or ((newContact uuid).get? k) := by
    rw [contactOf, Dict.ofList, Dict.get?_setAll, Dict.get?_setAll]
    show _ = ((((fieldsOf rows uuid).filter _).getLast?.map Prod.snd).or none).or _
    rw [Option.or_none]
  rw [hstart, hread]
  by_cases hk : k = "id"
  · subst hk
    obtain ⟨id, hget⟩ := Option.isSome_iff_exists.1 hid
    rw [Dict.same_iff.1 (shown_same hfields), Dict.get?_map, hget]
    rfl
  · rw [newContact, Dict.get?_set_of_ne _ _ (Ne.symm hk), Dict.get?_empty, Option.or_none]

/-- **What a user gets under an id**: the fields of the contact of that
uuid, when it is the user's. -/
theorem get_iff (h : Kept enc ids db) (huser : db.hasUser userUuid = true) {id : String}
    {target : ContactInfo} :
    (∃ contact, getPersonalContact o db userUuid id = .ok contact ∧ contact.Same target) ↔
      ∃ c ∈ db.contacts, c.userUuid = some userUuid ∧ c.uuid = id ∧
        (shown db id).Same target := by
  by_cases hmem : ∃ c ∈ db.contacts, c.userUuid = some userUuid ∧ c.uuid = id
  · obtain ⟨c, hc, hcu, rfl⟩ := hmem
    obtain ⟨info, hinfo⟩ := h.stored c hc (by rw [hcu]; rfl)
    obtain ⟨id, hid, -, -⟩ := hinfo.id
    have hrow : ∃ f ∈ db.contactFields, f.contactUuid = c.uuid := by
      have hentry : ("id", some id) ∈ fieldsOf db.contactFields c.uuid := by
        rw [hinfo.fields]
        exact List.mem_map.2 ⟨("id", id), Dict.get?_eq_some_iff.1 hid, rfl⟩
      obtain ⟨f, hf, -⟩ := List.mem_map.1 hentry
      exact ⟨f, (List.mem_filter.1 hf).1, of_decide_eq_true (List.mem_filter.1 hf).2⟩
    have huuids : ((db.contactFields.filter fun f => f.contactUuid = c.uuid &&
        db.contacts.any fun d => d.uuid = f.contactUuid && d.userUuid = some userUuid &&
          db.hasUser userUuid).map ContactFields.contactUuid).dedup = [c.uuid] := by
      refine List.perm_singleton.1 ((List.perm_ext_iff_of_nodup (List.nodup_dedup _)
        (List.nodup_singleton _)).2 fun uuid => ?_)
      rw [List.mem_dedup, List.mem_map, List.mem_singleton]
      constructor
      · rintro ⟨f, hf, rfl⟩
        have hboth := (List.mem_filter.1 hf).2
        rw [Bool.and_eq_true, decide_eq_true_eq] at hboth
        exact hboth.1
      · rintro rfl
        obtain ⟨f, hf, hfc⟩ := hrow
        refine ⟨f, List.mem_filter.2 ⟨hf, ?_⟩, hfc⟩
        rw [Bool.and_eq_true, decide_eq_true_eq, List.any_eq_true]
        exact ⟨hfc, c, hc, by simp [hfc, hcu, huser]⟩
    have hget : getPersonalContact o db userUuid c.uuid = .ok (contactOf
        (o.order (db.contactFields.filter (·.contactUuid ∈ [c.uuid]))) c.uuid) := by
      rw [getPersonalContact, huuids, listContactsByUuid_singleton hrow]
    have hsame := contactOf_same (o.perm _) hinfo.fields (by rw [hid]; rfl)
    constructor
    · rintro ⟨contact, hcontact, htarget⟩
      cases hget.symm.trans hcontact
      exact ⟨c, hc, hcu, rfl, hsame.symm.trans htarget⟩
    · rintro ⟨-, -, -, -, htarget⟩
      exact ⟨_, hget, hsame.trans htarget⟩
  · constructor
    · rintro ⟨contact, hcontact, -⟩
      have hnil : (db.contactFields.filter fun f => f.contactUuid = id &&
          db.contacts.any fun c => c.uuid = f.contactUuid && c.userUuid = some userUuid &&
            db.hasUser userUuid) = [] := by
        refine List.filter_eq_nil_iff.2 fun f _ hf => hmem ?_
        simp only [Bool.and_eq_true, decide_eq_true_eq, List.any_eq_true] at hf
        obtain ⟨hfid, c, hc, ⟨hcf, hcu⟩, -⟩ := hf
        exact ⟨c, hc, hcu, hcf.trans hfid⟩
      rw [getPersonalContact, hnil] at hcontact
      cases hcontact
    · rintro ⟨c, hc, hcu, hid, -⟩
      exact absurd ⟨c, hc, hcu, hid⟩ hmem

/-! ## The batch, by its rows -/

/-- The rows of a list by their hashes. -/
abbrev hashOf (enc : Encoding) (info : TextInfo) : String := enc.computeContactHash info.body

/-- The id of a row is not in its hash. -/
theorem hashOf_set_id (uuid : Uuid) : hashOf enc (info.set "id" uuid) = hashOf enc info :=
  computeContactHash_set_id info uuid

/-- Rows of the same fields have one hash. -/
theorem hashOf_congr (h : info.Same later) : hashOf enc info = hashOf enc later := by
  refine Encoding.computeContactHash_congr fun k _ => ?_
  rw [TextInfo.body, TextInfo.body, Dict.get?_map, Dict.get?_map, Dict.same_iff.1 h k]

/-- A row that no later one repeats stands for its hash. -/
theorem get?_hashAndContact {rest : List TextInfo} (hsuffix : (info :: rest) <:+ infos)
    (hlast : ∀ other ∈ rest, hashOf enc other ≠ hashOf enc info) :
    (hashAndContact enc infos).get? (hashOf enc info) = some info := by
  rw [hashAndContact, Dict.ofList, Dict.get?_setAll, List.filter_map, List.getLast?_map,
    Option.map_map]
  have hlast? := getLast?_filter_key hsuffix hlast
  show (((infos.filter (hashOf enc · = hashOf enc info)).getLast?).map _).or none = _
  rw [hlast?]
  rfl

/-- **What is returned of a list**, row by row: a row that a later one
repeats as it is, another with the id of its hash. -/
theorem forall₂_setIds {R : TextInfo → TextInfo → Prop} {uuids : Dict String Uuid} :
    List.Forall₂ R infos (setIds enc uuids infos) ↔ ∀ info rest, (info :: rest) <:+ infos →
      ((∃ other ∈ rest, hashOf enc other = hashOf enc info) → R info info) ∧
      ((∀ other ∈ rest, hashOf enc other ≠ hashOf enc info) →
        R info ((uuids.get? (hashOf enc info)).elim info fun uuid => info.set "id" uuid)) := by
  induction infos with
  | nil => simp [setIds]
  | cons info infos ih =>
    rw [setIds, List.forall₂_cons, ih]
    have hhead : R info (if (infos.any fun other => decide (hashOf enc other = hashOf enc info)) =
          true then info
        else (uuids.get? (hashOf enc info)).elim info fun uuid => info.set "id" uuid) ↔
      ((∃ other ∈ infos, hashOf enc other = hashOf enc info) → R info info) ∧
      ((∀ other ∈ infos, hashOf enc other ≠ hashOf enc info) →
        R info ((uuids.get? (hashOf enc info)).elim info fun uuid => info.set "id" uuid)) := by
      by_cases hlater : ∃ other ∈ infos, hashOf enc other = hashOf enc info
      · have hany : (infos.any fun other => decide (hashOf enc other = hashOf enc info)) = true := by
          simpa using hlater
        rw [if_pos hany]
        constructor
        · intro h
          refine ⟨fun _ => h, fun hnone => ?_⟩
          obtain ⟨other, hother, heq⟩ := hlater
          exact absurd heq (hnone other hother)
        · intro h
          exact h.1 hlater
      · have hany : ¬ (infos.any fun other =>
            decide (hashOf enc other = hashOf enc info)) = true := by
          simpa using hlater
        rw [if_neg hany]
        constructor
        · intro h
          exact ⟨fun hsome => absurd hsome hlater, fun _ => h⟩
        · intro h
          exact h.2 fun other hother heq => hlater ⟨other, hother, heq⟩
    constructor
    · rintro ⟨hfirst, hrest⟩ info' rest hsuffix
      rcases List.suffix_cons_iff.1 hsuffix with heq | hsuffix
      · cases heq
        exact hhead.1 hfirst
      · exact hrest info' rest hsuffix
    · intro h
      exact ⟨hhead.2 (h info infos (List.suffix_refl _)), fun info' rest hsuffix =>
        h info' rest (hsuffix.trans (List.suffix_cons info infos))⟩

/-- The ids of the hashes that the user has. -/
theorem get?_findExistingContactByHash (h : Kept enc ids db) {hash : String} {hashes : List String}
    (hhash : hash ∈ hashes) {uuid : Uuid} :
    (findExistingContactByHash server db userUuid hashes).get? hash = some uuid ↔
      ∃ c, StoredUnder db userUuid hash c ∧ c.uuid = uuid := by
  have hne : ¬ hashes.isEmpty = true := by
    rw [List.isEmpty_iff]
    exact List.ne_nil_of_mem hhash
  have hmem : ∀ {k v}, (k, v) ∈ (server.pairs.order (db.contacts.filter fun c =>
      c.userUuid = some userUuid && c.hash ∈ hashes)).map (fun c => (c.hash, c.uuid)) ↔
        ∃ c, (StoredUnder db userUuid k c ∧ k ∈ hashes) ∧ c.uuid = v := by
    intro k v
    simp only [List.mem_map, RowOrder.mem_order, List.mem_filter, Bool.and_eq_true,
      decide_eq_true_eq, Prod.mk.injEq]
    constructor
    · rintro ⟨c, ⟨hc, hcu, hin⟩, rfl, rfl⟩
      exact ⟨c, ⟨⟨hc, hcu, rfl⟩, hin⟩, rfl⟩
    · rintro ⟨c, ⟨⟨hc, hcu, rfl⟩, hin⟩, rfl⟩
      exact ⟨c, ⟨hc, hcu, hin⟩, rfl, rfl⟩
  rw [findExistingContactByHash, if_neg hne, Dict.get?_ofList_eq_some_iff, hmem]
  · simp [hhash]
  · intro k v v' hv hv'
    obtain ⟨c, ⟨hc, -⟩, rfl⟩ := hmem.1 hv
    obtain ⟨d, ⟨hd, -⟩, rfl⟩ := hmem.1 hv'
    rw [h.hashes c hc.mem d hd.mem (by rw [hc.user]; rfl) (hc.user.trans hd.user.symm)
      (hc.hash.trans hd.hash.symm)]

/-! ## What a batch leaves -/

/-- The contacts of a hash that the user has not. -/
def New (enc : Encoding) (db : Database) (userUuid : Uuid) (info : TextInfo) : Prop :=
  ∀ c, ¬ StoredUnder db userUuid (hashOf enc info) c

/-- **What a batch leaves**: the contacts there were, and for each row that
no later one repeats a contact of its hash, which is one that the user had,
or one that was written for the row. The row is returned with its id. -/
structure Left (enc : Encoding) (server : PersonalServer) (db db' : Database) (userUuid : Uuid)
    (infos : List TextInfo) (uuids : Dict String Uuid) : Prop where
  kept : Kept enc (fun _ => True) db'
  user : db'.hasUser userUuid = true
  contacts : ∀ c ∈ db.contacts, c ∈ db'.contacts
  fields : ∀ c ∈ db.contacts, shown db' c.uuid = shown db c.uuid
  stored : ∀ info ∈ infos, ∀ c, StoredUnder db userUuid (hashOf enc info) c →
    uuids.get? (hashOf enc info) = some c.uuid
  written : ∀ info rest, (info :: rest) <:+ infos →
    (∀ other ∈ rest, hashOf enc other ≠ hashOf enc info) → New enc db userUuid info →
      ∃ uuid c, uuids.get? (hashOf enc info) = some uuid ∧ WrittenAs server info uuid ∧
        Stands enc db' userUuid info uuid c ∧ ∀ d ∈ db.contacts, d.uuid ≠ c.uuid

/-- A user is there when it has been asked for. -/
theorem hasUser_getDirdUser : (db.getDirdUser tenantUuid userUuid).hasUser userUuid = true := by
  unfold Database.getDirdUser
  split
  · next huser =>
    unfold Database.createTenant
    split <;> exact huser
  · simp [Database.hasUser]

/-- The contacts that the loop goes over: those that stand for a hash that
the user has not. -/
def toAdd (enc : Encoding) (server : PersonalServer) (db : Database) (userUuid : Uuid)
    (infos : List TextInfo) : List (String × TextInfo) :=
  (hashAndContact enc infos).entries.filter fun e =>
    e.1 ∉ (findExistingContactByHash server db userUuid (hashAndContact enc infos).keys).keys

/-- The hash of a row is one of those looked up. -/
theorem hashOf_mem_keys (hinfo : info ∈ infos) :
    hashOf enc info ∈ (hashAndContact enc infos).keys :=
  Dict.mem_keys_ofList.2 (List.mem_map.2 ⟨_, List.mem_map_of_mem hinfo, rfl⟩)

theorem mem_toAdd (h : Kept enc ids db) {e : String × TextInfo} :
    e ∈ toAdd enc server db userUuid infos ↔
      e ∈ (hashAndContact enc infos).entries ∧ e.1 = hashOf enc e.2 ∧ New enc db userUuid e.2 := by
  rw [toAdd, List.mem_filter, decide_eq_true_eq]
  refine and_congr_right fun hentry => ?_
  obtain ⟨hmem, hhash⟩ := mem_hashAndContact hentry
  have hhash : e.1 = hashOf enc e.2 := hhash
  rw [hhash, Dict.mem_keys_iff, Option.not_isSome_iff_eq_none, Option.eq_none_iff_forall_ne_some]
  simp only [ne_eq, get?_findExistingContactByHash h (hashOf_mem_keys hmem), true_and, New]
  constructor
  · intro hnone c hc
    exact hnone c.uuid ⟨c, hc, rfl⟩
  · rintro hnew uuid ⟨c, hc, -⟩
    exact hnew c hc

/-- Their hashes are distinct. -/
theorem nodup_toAdd : ((toAdd enc server db userUuid infos).map Prod.fst).Nodup :=
  (hashAndContact enc infos).nodup.sublist (List.filter_sublist.map _)

/-- What the loop goes over is what is to be added, each once. -/
theorem mem_of_mem_zipIdx {l : List (String × TextInfo)} {e : (String × TextInfo) × ℕ}
    (he : e ∈ (server.hashes.order l).zipIdx) : e.1 ∈ l :=
  server.hashes.mem_order.1 (List.fst_mem_of_mem_zipIdx he)

theorem map_zipIdx_order (l : List (String × TextInfo)) :
    (server.hashes.order l).zipIdx.map (·.1.1) = (server.hashes.order l).map Prod.fst := by
  rw [← congrArg (List.map Prod.fst) (List.zipIdx_map_fst 0 _), List.map_map]
  rfl

theorem nodup_zipIdx_toAdd :
    ((server.hashes.order (toAdd enc server db userUuid infos)).zipIdx.map (·.1.1)).Nodup := by
  rw [map_zipIdx_order]
  exact ((server.hashes.perm _).map Prod.fst).nodup_iff.2 nodup_toAdd

/-- **A batch, by its loop.** -/
theorem createPersonalContacts_eq_ok :
    createPersonalContacts enc server db tenantUuid userUuid infos = (.ok created, db') ↔
      ∃ s, (server.hashes.order (toAdd enc server (db.getDirdUser tenantUuid userUuid) userUuid
            infos)).zipIdx.foldlM (addContact enc server userUuid)
              { db := db.getDirdUser tenantUuid userUuid } = .ok s ∧
        created = setIds enc ((findExistingContactByHash server
          (db.getDirdUser tenantUuid userUuid) userUuid
            (hashAndContact enc infos).keys).update s.ids) infos ∧
        db' = s.db := by
  have hnotraised : raiseIf (((hashAndContact enc infos).keys.any (· ∈
      (findExistingContactByHash server (db.getDirdUser tenantUuid userUuid) userUuid
        (hashAndContact enc infos).keys).keys) : Prop) ∧ false = true) .duplicatedContact =
        .ok () := raiseIf_ok.2 (by simp)
  constructor
  · intro h
    rcases newSession_snd h with ⟨e, herror, -⟩ | ⟨created', hok, hbody⟩
    · cases herror
    cases hok
    obtain ⟨⟨⟩, -, hbody⟩ := bind_eq_ok.1 hbody
    obtain ⟨s, hloop, hbody⟩ := bind_eq_ok.1 hbody
    cases hbody
    exact ⟨s, hloop, rfl, rfl⟩
  · rintro ⟨s, hloop, rfl, rfl⟩
    have hbody : createPersonalContactsIn enc server db tenantUuid userUuid infos false =
        .ok (s.db, setIds enc ((findExistingContactByHash server
          (db.getDirdUser tenantUuid userUuid) userUuid
            (hashAndContact enc infos).keys).update s.ids) infos) :=
      bind_eq_ok.2 ⟨(), hnotraised, bind_eq_ok.2 ⟨s, hloop, rfl⟩⟩
    rw [createPersonalContacts, hbody]
    rfl

/-- **A batch that does not raise.** -/
theorem left_of_createPersonalContacts {n : ℕ} (h : Kept enc (fun _ => True) db)
    (hserves : Serves server n infos)
    (hcreate : createPersonalContacts enc server db tenantUuid userUuid infos =
      (.ok created, db')) :
    ∃ uuids, created = setIds enc uuids infos ∧ Left enc server db db' userUuid infos uuids := by
  obtain ⟨s, hloop, hcreated, rfl⟩ := createPersonalContacts_eq_ok.1 hcreate
  obtain ⟨hcontacts, hfields⟩ := getDirdUser_contacts db tenantUuid userUuid
  have hkept : Kept enc (fun _ => True) (db.getDirdUser tenantUuid userUuid) :=
    h.write (.user tenantUuid)
  have hstored : ∀ {hash c}, StoredUnder (db.getDirdUser tenantUuid userUuid) userUuid hash c ↔
      StoredUnder db userUuid hash c := by
    intro hash c
    exact ⟨fun hc => ⟨hcontacts ▸ hc.mem, hc.user, hc.hash⟩,
      fun hc => ⟨hcontacts.symm ▸ hc.mem, hc.user, hc.hash⟩⟩
  have hhash : ∀ e ∈ (server.hashes.order (toAdd enc server
      (db.getDirdUser tenantUuid userUuid) userUuid infos)).zipIdx,
        e.1.1 = enc.computeContactHash e.1.2.body :=
    fun e he => ((mem_toAdd hkept).1 (mem_of_mem_zipIdx he)).2.1
  obtain ⟨hgrows, hother, hadded⟩ :=
    stands_of_loop hkept hserves.noFault hhash nodup_zipIdx_toAdd hloop
  refine ⟨_, hcreated, ?_⟩
  constructor
  · exact (hkept.writes (writes_of_loop (fun _ _ => trivial)
      (fun e he => ⟨fun _ _ => trivial, hhash e he⟩) hloop)).1
  · rw [Database.hasUser, hgrows.users]
    exact hasUser_getDirdUser
  · intro c hc
    exact hgrows.contacts c (hcontacts.symm ▸ hc)
  · intro c hc
    rw [shown, shown, hgrows.fields c (hcontacts.symm ▸ hc), hfields]
  · intro info hinfo c hc
    rw [Dict.get?_update, hother, Dict.get?_empty, Option.none_or]
    · exact (get?_findExistingContactByHash hkept (hashOf_mem_keys hinfo)).2
        ⟨c, hstored.2 hc, rfl⟩
    · rw [map_zipIdx_order, List.mem_map]
      rintro ⟨e, he, hkey⟩
      obtain ⟨-, heq, hnew⟩ := (mem_toAdd hkept).1 (server.hashes.mem_order.1 he)
      refine hnew c ?_
      rw [← heq, hkey]
      exact hstored.2 hc
  · intro info rest hsuffix hlast hnew
    have hentry : (hashOf enc info, info) ∈
        toAdd enc server (db.getDirdUser tenantUuid userUuid) userUuid infos :=
      (mem_toAdd hkept).2 ⟨Dict.get?_eq_some_iff.1 (get?_hashAndContact hsuffix hlast), rfl,
        fun c hc => hnew c (hstored.1 hc)⟩
    obtain ⟨i, hi⟩ := List.getElem?_of_mem (server.hashes.mem_order.2 hentry)
    obtain ⟨uuid, c, hget, hwritten, hstands, hfresh⟩ :=
      hadded _ (List.mk_mem_zipIdx_iff_getElem?.2 hi)
    refine ⟨uuid, c, ?_, hwritten, hstands, fun d hd => hfresh d (hcontacts.symm ▸ hd)⟩
    rw [Dict.get?_update, hget]
    rfl

/-! ## The contacts of the rows -/

/-- A contact of the user shows a row, with its uuid for the id. -/
structure Shows (db : Database) (userUuid : Uuid) (info : TextInfo) (c : Contact) : Prop where
  mem : c ∈ db.contacts
  user : c.userUuid = some userUuid
  fields : (shown db c.uuid).Same ((info.set "id" c.uuid).map some)

/-- Values are the same when they are under `some`. -/
theorem same_of_map_some {other : TextInfo} (h : (info.map some).Same (other.map some)) :
    info.Same other := by
  rw [Dict.same_iff] at h ⊢
  intro k
  have hk := h k
  rw [Dict.get?_map, Dict.get?_map] at hk
  exact Option.map_injective (Option.some_injective _) hk

/-- A value written again changes nothing. -/
theorem same_set_self {k v : String} (h : info.get? k = some v) : (info.set k v).Same info := by
  rw [Dict.same_iff]
  intro k'
  rw [Dict.get?_set]
  split
  · next hk => rw [← hk, h]
  · rfl

section Shows

variable {c d : Contact}

/-- What a contact of the user has as its rows. -/
theorem exists_shown (h : Kept enc ids db) (hc : c ∈ db.contacts) (hu : c.userUuid.isSome) :
    ∃ info, (shown db c.uuid).Same (info.map some) ∧ c.hash = hashOf enc info ∧
      c.uuid.toList.length ≤ 38 := by
  obtain ⟨info, hinfo⟩ := h.stored c hc hu
  obtain ⟨id, -, -, hrow⟩ := hinfo.id
  exact ⟨info, shown_same hinfo.fields, hinfo.hash, length_of_stringColumn hrow⟩

/-- The hash of a contact is that of the row it shows. -/
theorem Shows.hash (h : Shows db userUuid info c) (hkept : Kept enc ids db) :
    c.hash = hashOf enc info := by
  obtain ⟨own, hown, hhash, -⟩ := exists_shown hkept h.mem (by rw [h.user]; rfl)
  have hsame : own.Same (info.set "id" c.uuid) := same_of_map_some (hown.symm.trans h.fields)
  rw [hhash, hashOf_congr hsame, hashOf_set_id]

/-- Rows of one hash are shown by one contact. -/
theorem Shows.unique (h : Shows db userUuid info c) (hkept : Kept enc ids db)
    (hd : d ∈ db.contacts) (hdu : d.userUuid = some userUuid) (hhash : d.hash = hashOf enc info) :
    d = c :=
  hkept.hashes d hd c h.mem (by rw [hdu]; rfl) (hdu.trans h.user.symm)
    (hhash.trans (h.hash hkept).symm)

/-- And they have the same fields. -/
theorem Shows.same {other : TextInfo} (h : Shows db userUuid info c)
    (h' : Shows db userUuid other c) : (info.set "id" c.uuid).Same (other.set "id" c.uuid) :=
  same_of_map_some (h.fields.symm.trans h'.fields)

/-- **What it is to be returned**: with the id of a contact that shows the
row. -/
theorem returned_iff {x : TextInfo} (hkept : Kept enc ids db) (huser : db.hasUser userUuid = true) :
    Returned o db userUuid info x ↔ ∃ c, Shows db userUuid info c ∧ x.get? "id" = some c.uuid := by
  constructor
  · rintro ⟨id, hid, hcontact⟩
    obtain ⟨c, hc, hcu, rfl, hfields⟩ := (get_iff hkept huser).1 hcontact
    exact ⟨c, ⟨hc, hcu, hfields⟩, hid⟩
  · rintro ⟨c, h, hid⟩
    exact ⟨c.uuid, hid, (get_iff hkept huser).2 ⟨c, h.mem, h.user, rfl, h.fields⟩⟩

end Shows

end PersonalImport

end WazoDird
