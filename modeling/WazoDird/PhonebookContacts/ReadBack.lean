import Mathlib.Data.List.Count
import WazoDird.PhonebookContacts.Reads
import WazoDird.PhonebookContacts.Service

/-!
# What a write returns, and what reads show

A body left with nothing once its id is dropped makes a contact without
a row: it is answered as an empty dictionary, no read shows it, and it is
counted. Any other body is answered as the readers show it.
-/

namespace WazoDird

open PhonebookContactCRUD

namespace PhonebookContacts

open PhonebookService

variable {enc : Encoding} {s : Store} {c : Contact} {body : ContactBody}

/-! ## What a write returned -/

/-- **What a write returned is what reads show**: it carries the id of its
contact, `get_contact` of that id returns the same, `list_contacts`
without a search contains it once, and for every search `count_contact`
is the length of the whole list, or both are refused. -/
structure ReadsBack (lower : String → String) (db : Database) (visibleTenants : List Uuid)
    (key : PhonebookKey) (uuid : Uuid) (answer : ContactBody) : Prop where
  id : answer.get? "id" = some (.str uuid)
  get : ∀ o, ∃ info, PhonebookService.getContact o db visibleTenants key uuid = .ok info ∧
    (info.map Value.ofText).Same answer
  listed : ∀ text o (params : ListParams), params.Whole → params.search = none →
    ∃ infos, listContacts lower text o db visibleTenants key params = .ok infos ∧
      infos.countP (fun info => (info.map Value.ofText).Same answer) = 1
  counted : ∀ text o (params : ListParams), params.Whole →
    if NullFree params.search.toList then
      ∃ infos, listContacts lower text o db visibleTenants key params = .ok infos ∧
        countContact lower db visibleTenants key params.search = .ok infos.length
    else listContacts lower text o db visibleTenants key params = .error (.python .valueError) ∧
      countContact lower db visibleTenants key params.search = .error (.python .valueError)

/-- Some row of a contact is there. -/
def HasRow (db : Database) (uuid : Uuid) : Prop := ∃ f ∈ db.contactFields, f.contactUuid = uuid

section Answers

variable {server : Server} {lower : String → String} {visibleTenants : List Uuid}
  {key : PhonebookKey} {p : Phonebook} {s₀ : Store} {calls : List Call}

variable (lower) in
/-- **The whole list**: some order of the contacts that have a row. -/
theorem listContacts_eq_ok (hp : getPhonebook s.db (some visibleTenants) key = .ok p)
    (text : SortText) (o : RowOrder ContactFields) {params : ListParams}
    (hwhole : params.Whole) (htexts : NullFree params.search.toList) :
    ∃ (contacts : Dict Uuid ContactInfo) (infos : List ContactInfo),
      listContacts lower text o s.db visibleTenants key params = .ok infos ∧
      infos.Perm contacts.values ∧
      (∀ uuid, uuid ∈ contacts.keys ↔ ∃ c ∈ s.db.contacts, c.uuid = uuid ∧
        queryContacts lower s.db p.uuid params.search c = true ∧
        fieldsOf s.db.contactFields uuid ≠ []) ∧
      ∀ uuid info, contacts.get? uuid = some info → ∃ fields,
        fields.Perm (fieldsOf s.db.contactFields uuid) ∧ info = Dict.ofList fields := by
  obtain ⟨contacts, hlist, hkeys, hinfo⟩ := list_eq_ok lower o params.search htexts hp
  refine ⟨contacts, _, bind_eq_ok.2 ⟨_, hlist, rfl⟩, ?_, hkeys, hinfo⟩
  rw [page_all hwhole.1 hwhole.2]
  exact sortContacts_perm _ _ _ _ _

/-- **Count and list agree for every search exactly when each contact of
the phonebook has a row.** -/
theorem counted_iff (h : Kept enc s)
    (hp : getPhonebook s.db (some visibleTenants) key = .ok p) :
    (∀ text o (params : ListParams), params.Whole →
      if NullFree params.search.toList then
        ∃ infos, listContacts lower text o s.db visibleTenants key params = .ok infos ∧
          countContact lower s.db visibleTenants key params.search = .ok infos.length
      else
        listContacts lower text o s.db visibleTenants key params = .error (.python .valueError) ∧
          countContact lower s.db visibleTenants key params.search =
            .error (.python .valueError)) ↔
    ∀ c ∈ s.db.contacts, c.phonebookUuid = some p.uuid → HasRow s.db c.uuid := by
  -- for one search: the contacts counted are those listed when each has a row
  have hsearch : ∀ text o (params : ListParams), params.Whole → NullFree params.search.toList →
      ((∃ infos, listContacts lower text o s.db visibleTenants key params = .ok infos ∧
        countContact lower s.db visibleTenants key params.search = .ok infos.length) ↔
      ∀ c ∈ s.db.contacts, queryContacts lower s.db p.uuid params.search c = true →
        HasRow s.db c.uuid) := by
    intro text o params hwhole htexts
    obtain ⟨contacts, infos, hlist, hperm, hkeys, -⟩ :=
      listContacts_eq_ok lower hp text o hwhole htexts
    let counted := s.db.contacts.filter (queryContacts lower s.db p.uuid params.search)
    have hcount : countContact lower s.db visibleTenants key params.search = .ok counted.length :=
      count_eq_ok h htexts hp
    have hsub : contacts.keys ⊆ counted.map Contact.uuid := by
      intro uuid huuid
      obtain ⟨c, hc, rfl, hquery, -⟩ := (hkeys uuid).1 huuid
      exact List.mem_map_of_mem (List.mem_filter.2 ⟨hc, hquery⟩)
    have hlen : infos.length = contacts.keys.length := by
      rw [hperm.length_eq, Dict.length_values]
    have hnodup : (counted.map Contact.uuid).Nodup := keys_filter h.uuids _
    have hiff := length_eq_iff_subset contacts.nodup hnodup hsub
    rw [← Dict.keys, ← hlen, List.length_map] at hiff
    constructor
    · rintro ⟨infos', hlist', hcount'⟩ c hc hquery
      rw [hlist] at hlist'
      cases hlist'
      rw [hcount] at hcount'
      have hmem := hiff.1 (Except.ok.inj hcount').symm
        (List.mem_map_of_mem (List.mem_filter.2 ⟨hc, hquery⟩))
      obtain ⟨-, -, -, -, hne⟩ := (hkeys c.uuid).1 hmem
      exact fieldsOf_ne_nil.1 hne
    · intro hrows
      refine ⟨infos, hlist, ?_⟩
      rw [hcount, hiff.2]
      intro uuid huuid
      obtain ⟨c, hc, rfl⟩ := List.mem_map.1 huuid
      obtain ⟨hc, hquery⟩ := List.mem_filter.1 hc
      exact (hkeys c.uuid).2 ⟨c, hc, rfl, hquery, fieldsOf_ne_nil.2 (hrows c hc hquery)⟩
  have hpmem := (getPhonebook_ok hp).1
  constructor
  · intro hall c hc hcp
    have htexts : NullFree (({} : ListParams).search.toList) := List.forall_mem_nil _
    have hwhole := hall ⟨id, id⟩ RowOrder.asStored {} ⟨rfl, rfl⟩
    rw [if_pos htexts] at hwhole
    refine (hsearch _ _ _ ⟨rfl, rfl⟩ htexts).1 hwhole c hc ?_
    exact (queryContacts_iff hpmem).2 ⟨hcp, rfl⟩
  · intro hrows text o params hwhole
    split
    · next htexts =>
      refine (hsearch text o params hwhole htexts).2 fun c hc hquery => ?_
      exact hrows c hc ((queryContacts_iff hpmem).1 hquery).1
    · next htexts =>
      obtain ⟨hlist, hcount⟩ := list_of_not_nullFree lower o params.search htexts hp
      exact ⟨by rw [listContacts, hlist]; rfl, hcount⟩

/-- The rows of a contact stay, so it has one still. -/
theorem hasRow_congr {db db' : Database} {uuid : Uuid}
    (h : fieldsOf db'.contactFields uuid = fieldsOf db.contactFields uuid) :
    HasRow db' uuid ↔ HasRow db uuid := by
  rw [HasRow, HasRow, ← fieldsOf_ne_nil, ← fieldsOf_ne_nil, h]

/-- The contact just written is that of the body written. -/
theorem Kept.represents_written {db : Database} {written : Dict Uuid ContactBody} {u : Uuid}
    (h : Kept enc ⟨db, written.set c.uuid body⟩) (hc : c ∈ db.contacts)
    (hcp : c.phonebookUuid = some u) : Represents enc ⟨db, written.set c.uuid body⟩ c body := by
  obtain ⟨body', hrep⟩ := h.stored c hc (by rw [hcp]; rfl)
  obtain rfl : body = body' :=
    Option.some.inj ((Dict.get?_set_self written c.uuid body).symm.trans hrep.written)
  exact hrep

/-- A contact has a row when its body has an item. -/
theorem Represents.hasRow_iff (h : Represents enc s c body) :
    HasRow s.db c.uuid ↔ body.entries ≠ [] := by
  rw [HasRow, ← fieldsOf_ne_nil, h.fields_ne_nil]

/-- **A contact with a row is listed once.** -/
theorem listed_once (h : Kept enc s) (hids : s.BodiesAre (·.get? "id" = none))
    (hp : getPhonebook s.db (some visibleTenants) key = .ok p) (hc : c ∈ s.db.contacts)
    (hcp : c.phonebookUuid = some p.uuid) (hrep : Represents enc s c body)
    (htexts : Within (fun v => ∃ a, v = .str a) body) (hne : body.entries ≠ []) (text : SortText)
    (o : RowOrder ContactFields) {params : ListParams} (hwhole : params.Whole)
    (hsearch : params.search = none) :
    ∃ infos, listContacts lower text o s.db visibleTenants key params = .ok infos ∧
      infos.countP (fun info =>
        (info.map Value.ofText).Same (WrittenContact.fieldsDict ⟨c.uuid, body⟩)) = 1 := by
  obtain ⟨contacts, infos, hlist, hperm, hkeys, hinfo⟩ :=
    listContacts_eq_ok lower hp text o hwhole (by rw [hsearch]; exact List.forall_mem_nil _)
  have hid := hids _ _ hrep.written
  refine ⟨infos, hlist, ?_⟩
  -- the entry of the contact's uuid is the one that reads as it was written
  have hentry : ∀ e ∈ contacts.entries,
      decide ((e.2.map Value.ofText).Same (WrittenContact.fieldsDict ⟨c.uuid, body⟩)) =
        (e.1 == c.uuid) := by
    rintro ⟨uuid, info⟩ he
    have hget := Dict.get?_eq_some_iff.2 he
    obtain ⟨fields, hfields, rfl⟩ := hinfo uuid info hget
    obtain ⟨d, hd, rfl, hquery, hdne⟩ :=
      (hkeys uuid).1 (Dict.mem_keys_iff.2 (by rw [hget]; rfl))
    rw [Bool.eq_iff_iff, decide_eq_true_eq, beq_iff_eq]
    constructor
    · intro hsame
      have hdp := ((queryContacts_iff (getPhonebook_ok hp).1).1 hquery).1
      obtain ⟨body', hrep'⟩ := h.stored d hd (by rw [hdp]; rfl)
      have hd' := (hrep'.get?_read (hids _ _ hrep'.written) hfields).2
        (Or.inl ⟨rfl, rfl, hrep'.fields_ne_nil.1 hdne⟩)
      have hc' := (get?_fieldsDict (w := ⟨c.uuid, body⟩) hid).2 (Or.inl ⟨rfl, rfl, hne⟩)
      have heq := Dict.same_iff.1 hsame "id"
      rw [Dict.get?_map, hd', hc'] at heq
      simpa [Value.ofText] using heq
    · intro hdc
      have hdc : d.uuid = c.uuid := hdc
      rw [hdc] at hfields
      exact hrep.same_fieldsDict hid htexts hfields
  have hmem : c.uuid ∈ contacts.keys := by
    refine (hkeys c.uuid).2 ⟨c, hc, rfl, ?_, hrep.fields_ne_nil.2 hne⟩
    exact (queryContacts_iff (getPhonebook_ok hp).1).2 ⟨hcp, by rw [hsearch]; rfl⟩
  rw [hperm.countP_eq, Dict.values, List.countP_map]
  calc contacts.entries.countP _
      = contacts.entries.countP (fun e => e.1 == c.uuid) :=
        List.countP_congr fun e he => by rw [Function.comp_apply, hentry e he]
    _ = contacts.keys.count c.uuid := by rw [Dict.keys, List.count, List.countP_map]; rfl
    _ = 1 := List.count_eq_one_of_mem contacts.nodup hmem

/-- **A write reads back exactly when each contact of the phonebook has a
row.** -/
theorem readsBack_iff (h : Kept enc s) (hids : s.BodiesAre (·.get? "id" = none))
    (hp : getPhonebook s.db (some visibleTenants) key = .ok p) (hc : c ∈ s.db.contacts)
    (hcp : c.phonebookUuid = some p.uuid) (hrep : Represents enc s c body)
    (htexts : Within (fun v => ∃ a, v = .str a) body) :
    ReadsBack lower s.db visibleTenants key c.uuid (WrittenContact.fieldsDict ⟨c.uuid, body⟩) ↔
      ∀ d ∈ s.db.contacts, d.phonebookUuid = some p.uuid → HasRow s.db d.uuid := by
  constructor
  · intro hreads
    exact (counted_iff h hp).1 hreads.counted
  · intro hrows
    have hid := hids _ _ hrep.written
    have hne := hrep.hasRow_iff.1 (hrows c hc hcp)
    refine ⟨(get?_fieldsDict hid).2 (Or.inl ⟨rfl, rfl, hne⟩), fun o => ?_, ?_,
      (counted_iff h hp).2 hrows⟩
    · obtain ⟨fields, hperm, hget⟩ := get_eq_ok (o := o) hc hcp hp hrep hid hne
      exact ⟨_, hget, hrep.same_fieldsDict hid htexts hperm⟩
    · intro text o params hwhole hsearch
      exact listed_once h hids hp hc hcp hrep htexts hne text o hwhole hsearch

/-! ## The service's writes -/

/-- **What a contact created is answered reads back** exactly when its body
has an item and each contact there was has a row. -/
theorem createContact_readsBack (hs : Start s₀)
    (hrun : Run (Guarded (fun _ call => ∀ body ∈ call.bodies, body.get? "id" = none) (Step enc))
      s₀ calls s) {raw : RawContact} (htexts : ∀ e ∈ raw.entries, ∃ a, e.2 = .str a)
    (hp : getPhonebook s.db (some visibleTenants) key = .ok p) {a : ContactBody} {db' : Database}
    (h : createContact enc server s.db visibleTenants key raw = (.ok a, db')) :
    ∃ c, db'.contacts = s.db.contacts ++ [c] ∧
      (ReadsBack lower db' visibleTenants key c.uuid a ↔
        (∃ k ∈ raw.keys, k ≠ some "id") ∧
          ∀ d ∈ s.db.contacts, d.phonebookUuid = some p.uuid → HasRow s.db d.uuid) := by
  unfold createContact at h
  split at h
  · cases h
  · next body hvalid =>
    obtain ⟨w, hcreate, rfl⟩ := answer_ok h
    obtain ⟨hid, hbody, hitems⟩ := validateContact_spec hvalid fun _ _ h => htexts _ h
    rcases create_cases hcreate with ⟨e, he, -⟩ | ⟨p', w', hw', hp', hone⟩
    · cases he
    cases hw'
    rw [hp] at hp'
    cases hp'
    -- the store after the call is one more state of the run
    have hnext : s.next enc server (.create (some visibleTenants) key body) =
        ⟨db', s.written.set w.uuid w.body⟩ := by
      simp only [Store.next, Call.run, report, hcreate, List.foldl_cons, List.foldl_nil, note]
    obtain ⟨hkept, hids⟩ := Kept.run hs (Run.snoc hrun
      ⟨fun b hb => by rwa [List.mem_singleton.1 hb], server, hnext.symm⟩)
    obtain ⟨rfl, -, -, q, fields, -, hq, hfields, hnew, hdb⟩ := createOne_ok hone
    have hcontacts : db'.contacts = s.db.contacts ++ [contactRow enc q.uuid w] := by rw [hdb]
    have hmem : contactRow enc q.uuid w ∈ db'.contacts := by simp [hcontacts]
    have hcp : (contactRow enc q.uuid w).phonebookUuid = some p.uuid := congrArg some hq
    have hrep := hkept.represents_written hmem hcp
    have hold : ∀ d ∈ s.db.contacts, HasRow db' d.uuid ↔ HasRow s.db d.uuid := by
      intro d hd
      refine hasRow_congr ?_
      have hnil : fieldsOf fields d.uuid = [] := fieldsOf_eq_nil fun f hf hfd =>
        Contact.uuid_ne_of_clash (hnew d hd) (hfd.symm.trans ((setContactFields_ok hfields).1 f hf))
      rw [hdb]
      exact fieldsOf_append.trans (by rw [hnil, List.append_nil])
    refine ⟨_, hcontacts, (readsBack_iff hkept hids ?_ hmem hcp hrep hbody).trans ?_⟩
    · rw [← hp]
      exact getPhonebook_congr (by rw [hdb])
    · rw [← hitems, ← hrep.hasRow_iff, hcontacts, List.forall_mem_append, List.forall_mem_singleton,
        and_comm]
      refine and_congr (forall_prop_of_true hcp) (forall₂_congr fun d hd => ?_)
      exact imp_congr_right fun _ => hold d hd

/-- **What a contact edited is answered reads back** exactly when its body
has an item and each other contact of the phonebook has a row. -/
theorem editContact_readsBack (hs : Start s₀)
    (hrun : Run (Guarded (fun _ call => ∀ body ∈ call.bodies, body.get? "id" = none) (Step enc))
      s₀ calls s) {raw : RawContact} (htexts : ∀ e ∈ raw.entries, ∃ a, e.2 = .str a)
    (hp : getPhonebook s.db (some visibleTenants) key = .ok p) {uuid : String} {a : ContactBody}
    {db' : Database}
    (h : editContact enc server s.db visibleTenants key uuid raw = (.ok a, db')) :
    ReadsBack lower db' visibleTenants key uuid a ↔
      (∃ k ∈ raw.keys, k ≠ some "id") ∧
        ∀ d ∈ s.db.contacts, d.phonebookUuid = some p.uuid → d.uuid ≠ uuid →
          HasRow s.db d.uuid := by
  unfold editContact at h
  split at h
  · cases h
  · next body hvalid =>
    obtain ⟨w, hedit, rfl⟩ := answer_ok h
    obtain ⟨hid, hbody, hitems⟩ := validateContact_spec hvalid fun _ _ h => htexts _ h
    rcases edit_cases hedit with
      ⟨e, he, -⟩ | ⟨p', c, fields, hw', rfl, hp', hc, hcp, hfields, -, hdb⟩
    · cases he
    cases hw'
    rw [hp] at hp'
    cases hp'
    have hnext : s.next enc server (.edit (some visibleTenants) key c.uuid body) =
        ⟨db', s.written.set c.uuid body⟩ := by
      simp only [Store.next, Call.run, report, hedit, List.foldl_cons, List.foldl_nil, note]
    obtain ⟨hkept, hids⟩ := Kept.run hs (Run.snoc hrun
      ⟨fun b hb => by rwa [List.mem_singleton.1 hb], server, hnext.symm⟩)
    let c' : Contact := { c with hash := enc.computeContactHash body }
    have hcontacts :
        db'.contacts = s.db.contacts.map fun d => if d.uuid = c.uuid then c' else d := by
      rw [hdb]
    have hmem : c' ∈ db'.contacts := by
      rw [hcontacts]
      exact List.mem_map.2 ⟨c, hc, if_pos rfl⟩
    have hrep := hkept.represents_written (c := c') hmem hcp
    have hold : ∀ d ∈ s.db.contacts, d.uuid ≠ c.uuid →
        (HasRow db' d.uuid ↔ HasRow s.db d.uuid) := by
      intro d _ hne
      refine hasRow_congr ?_
      have hnil : fieldsOf fields d.uuid = [] := fieldsOf_eq_nil fun f hf hfd =>
        hne (hfd.symm.trans ((setContactFields_ok hfields).1 f hf))
      rw [hdb]
      refine fieldsOf_append.trans ?_
      rw [hnil, List.append_nil]
      exact fieldsOf_filter fun f _ hfd => by simpa [hfd] using hne
    refine (readsBack_iff hkept hids ?_ hmem hcp hrep hbody).trans ?_
    · rw [← hp]
      exact getPhonebook_congr (by rw [hdb])
    · rw [← hitems, ← hrep.hasRow_iff, hcontacts, List.forall_mem_map]
      constructor
      · intro hall
        refine ⟨by simpa [c'] using hall c hc (by simpa [c'] using hcp), fun d hd hdp hne => ?_⟩
        have hd' := hall d hd
        rw [if_neg hne] at hd'
        exact (hold d hd hne).1 (hd' hdp)
      · rintro ⟨hrow, hothers⟩ d hd
        split
        · exact fun _ => hrow
        · next hne => exact fun hdp => (hold d hd hne).2 (hothers d hd hdp hne)

/-- **What a write returns is what reads show, for a body with an item, in
a phonebook each contact of which has a row.** In every state a run of
the service's writes reaches, what a contact created, or edited, is
answered reads back exactly when its body has a key other than the id and
each other contact of the phonebook has a row. -/
theorem readsBack_iff_item (hs : Start s₀)
    (hrun : Run (Guarded (fun _ call => ∀ body ∈ call.bodies, body.get? "id" = none) (Step enc))
      s₀ calls s) {raw : RawContact} (htexts : ∀ e ∈ raw.entries, ∃ a, e.2 = .str a)
    (hp : getPhonebook s.db (some visibleTenants) key = .ok p) :
    (∀ a db', createContact enc server s.db visibleTenants key raw = (.ok a, db') →
      ∃ c, db'.contacts = s.db.contacts ++ [c] ∧
        (ReadsBack lower db' visibleTenants key c.uuid a ↔
          (∃ k ∈ raw.keys, k ≠ some "id") ∧
            ∀ d ∈ s.db.contacts, d.phonebookUuid = some p.uuid → HasRow s.db d.uuid)) ∧
    ∀ uuid a db', editContact enc server s.db visibleTenants key uuid raw = (.ok a, db') →
      (ReadsBack lower db' visibleTenants key uuid a ↔
        (∃ k ∈ raw.keys, k ≠ some "id") ∧
          ∀ d ∈ s.db.contacts, d.phonebookUuid = some p.uuid → d.uuid ≠ uuid →
            HasRow s.db d.uuid) :=
  ⟨fun _ _ h => createContact_readsBack hs hrun htexts hp h,
    fun _ _ _ h => editContact_readsBack hs hrun htexts hp h⟩

end Answers

/-- A contact with a name reads back. -/
theorem readsBack_iff_item_name :
    ∃ a db' c, createContact Encoding.plain Server.plain onePhonebook.db ["t"] (.uuid "p")
        (rawText "name" "Alice") = (.ok a, db') ∧
      db'.contacts = [c] ∧ ReadsBack id db' ["t"] (.uuid "p") c.uuid a := by
  have hcreate : createContact Encoding.plain Server.plain onePhonebook.db ["t"] (.uuid "p")
      (rawText "name" "Alice") = (.ok _, _) := rfl
  obtain ⟨c, hc, hreads⟩ := (readsBack_iff_item start_onePhonebook (Run.nil _)
    (texts_rawText "name" "Alice") getPhonebook_onePhonebook).1 _ _ hcreate
  have hitem : ∃ k ∈ (rawText "name" "Alice").keys, k ≠ some "id" := by decide
  exact ⟨_, _, c, hcreate, hc, hreads.2 ⟨hitem, fun d hd => by cases hd⟩⟩

/-- A contact with an id alone does not: what it is answered is empty. -/
theorem not_readsBack_id_alone :
    ¬ ∀ s₀ calls s, Start s₀ →
      Run (Guarded (fun _ call => ∀ body ∈ call.bodies, body.get? "id" = none)
        (Step Encoding.plain)) s₀ calls s →
      ∀ server visibleTenants key (raw : RawContact), (∀ e ∈ raw.entries, ∃ a, e.2 = .str a) →
        ∀ a db', createContact Encoding.plain server s.db visibleTenants key raw = (.ok a, db') →
          ∃ c, db'.contacts = s.db.contacts ++ [c] ∧ ReadsBack id db' visibleTenants key c.uuid a := by
  intro h
  obtain ⟨c, -, hreads⟩ := h onePhonebook [] onePhonebook start_onePhonebook (Run.nil _)
    Server.plain ["t"] (.uuid "p") (rawText "id" "1") (texts_rawText "id" "1") _ _ rfl
  cases hreads.id

end PhonebookContacts

end WazoDird
