import WazoDird.PersonalContacts.Store

/-!
# Contacts created in one batch

`_create_personal_contacts`, seen from its rows: what the loop over the
hashes to add makes of each contact that stands for one, when it ends, and
what is enough for it to end.
-/

namespace WazoDird

open PersonalContactCRUD

namespace PersonalContacts

variable {enc : Encoding} {server : PersonalServer} {ids : String → Prop}
  {db db' db'' : Database} {userUuid : Uuid} {info : TextInfo} {hash : String} {i : ℕ}
  {s s' : Added}

/-- The id of its own that a contact is created under. -/
def ownId (info : TextInfo) : Option String := (info.get? "id").filter (· ≠ "")

/-- No name and no text of a contact has a null character. -/
def NoNull (info : TextInfo) : Prop :=
  ∀ e ∈ info.entries, '\x00' ∉ e.1.toList ∧ '\x00' ∉ e.2.toList

instance : Decidable (NoNull info) :=
  inferInstanceAs (Decidable (∀ e ∈ info.entries, _))

/-- **Contacts come, and none goes**: those there were keep their rows. The
users are the same. -/
structure Grows (db db' : Database) : Prop where
  users : db'.users = db.users
  contacts : ∀ c ∈ db.contacts, c ∈ db'.contacts
  fields : ∀ c ∈ db.contacts,
    fieldsOf db'.contactFields c.uuid = fieldsOf db.contactFields c.uuid

theorem Grows.refl : Grows db db := ⟨rfl, fun _ hc => hc, fun _ _ => rfl⟩

theorem Grows.trans (h : Grows db db') (h' : Grows db' db'') : Grows db db'' where
  users := h'.users.trans h.users
  contacts c hc := h'.contacts c (h.contacts c hc)
  fields c hc := (h'.fields c (h.contacts c hc)).trans (h.fields c hc)

/-- **A contact stands in the database**, under the uuid that it was
written with: the row has what the column keeps of it. -/
structure Stands (enc : Encoding) (db : Database) (userUuid : Uuid) (info : TextInfo)
    (uuid : String) (c : Contact) : Prop where
  mem : c ∈ db.contacts
  user : c.userUuid = some userUuid
  hash : c.hash = enc.computeContactHash info.body
  row : stringColumn 38 uuid = .ok c.uuid
  fields : fieldsOf db.contactFields c.uuid =
    (info.set "id" uuid).entries.map fun e => (e.1, some e.2)

theorem Stands.grows {uuid : String} {c : Contact} (h : Stands enc db userUuid info uuid c)
    (hgrows : Grows db db') : Stands enc db' userUuid info uuid c where
  mem := hgrows.contacts c h.mem
  user := h.user
  hash := h.hash
  row := h.row
  fields := (hgrows.fields c h.mem).trans h.fields

/-! ## The rows of one contact -/

/-- The rows of a contact can be written when it has no null character. -/
theorem exists_contactFields_iff {uuid row : Uuid} (hrow : stringColumn 38 uuid = .ok row) :
    (∃ fields, contactFields enc uuid info = .ok fields) ↔ NoNull info := by
  have hentry : ∀ e : String × String, (∃ t, enc.columnEntry (e.1, .str e.2) = .ok t) ↔
      '\x00' ∉ e.1.toList ∧ '\x00' ∉ e.2.toList := by
    rintro ⟨name, text⟩
    simp only [Encoding.columnEntry, Encoding.columnText]
    by_cases hname : '\x00' ∈ name.toList <;> by_cases htext : '\x00' ∈ text.toList <;>
      simp [hname, htext, bind_eq_ok]
  have htexts : (∃ texts, enc.columnTexts info.body = .ok texts) ↔ NoNull info := by
    rw [Encoding.columnTexts, exists_mapM_eq_ok]
    exact List.forall_mem_map.trans (forall₂_congr fun e _ => hentry e)
  rw [← htexts]
  constructor
  · rintro ⟨fields, hfields⟩
    obtain ⟨texts, htexts, -⟩ := bind_eq_ok.1 hfields
    exact ⟨texts, htexts⟩
  · rintro ⟨texts, htexts⟩
    exact ⟨_, bind_eq_ok.2 ⟨texts, htexts, bind_eq_ok.2 ⟨row, hrow, rfl⟩⟩⟩

/-- An id without a null character changes nothing of that. -/
theorem noNull_set_iff {uuid : String} :
    NoNull (info.set "id" uuid) ↔
      (∀ e ∈ info.entries, e.1 ≠ "id" → '\x00' ∉ e.1.toList ∧ '\x00' ∉ e.2.toList) ∧
        '\x00' ∉ uuid.toList := by
  have hmem : ∀ e : String × String, e ∈ (info.set "id" uuid).entries ↔
      e = ("id", uuid) ∨ e ∈ info.entries ∧ e.1 ≠ "id" := by
    rintro ⟨k, v⟩
    rw [← Dict.get?_eq_some_iff, ← Dict.get?_eq_some_iff, Dict.get?_set]
    by_cases hk : "id" = k
    · subst hk
      simp [eq_comm]
    · simp [hk, Ne.symm hk, eq_comm]
  simp only [NoNull, hmem]
  constructor
  · intro h
    exact ⟨fun e he hne => h e (.inr ⟨he, hne⟩), (h _ (.inl rfl)).2⟩
  · rintro ⟨h, huuid⟩ e (rfl | ⟨he, hne⟩)
    · exact ⟨(by decide : '\x00' ∉ "id".toList), huuid⟩
    · exact h e he hne

/-! ## One turn of the loop -/

/-- **A turn of the loop**, with flushes that do not fail. -/
theorem addContact_eq_ok (hfault : server.contactFault i = none ∧ server.fieldsFault i = none) :
    addContact enc server userUuid s ((hash, info), i) = .ok s' ↔
      ∃ row fields,
        stringColumn 38 ((ownId info).getD (server.newUuid (s.db.contacts.map Contact.uuid))) =
          .ok row ∧
        (s.db.contacts.any
          ({ uuid := row, userUuid := some userUuid, hash := hash } : Contact).clash) = false ∧
        contactFields enc ((ownId info).getD row)
          (info.set "id" ((ownId info).getD row)) = .ok fields ∧
        s' = {
          db := { s.db with
            contacts := s.db.contacts ++
              [{ uuid := row, userUuid := some userUuid, hash := hash }]
            contactFields := s.db.contactFields ++ fields }
          ids := s.ids.set hash ((ownId info).getD row) } := by
  unfold addContact
  simp only [bind_eq_ok, hfault.1, hfault.2, raiseFault]
  constructor
  · rintro ⟨row, hrow, ⟨⟩, hclash, ⟨⟩, -, fields, hfields, ⟨⟩, -, hs⟩
    refine ⟨row, fields, hrow, ?_, hfields, (Except.ok.inj hs).symm⟩
    simpa using raiseIf_ok.1 hclash
  · rintro ⟨row, fields, hrow, hclash, hfields, rfl⟩
    refine ⟨row, hrow, (), raiseIf_ok.2 ?_, (), trivial, fields, hfields, (), trivial, rfl⟩
    simp [hclash]

/-- What a contact was written with: its own id, or else what the column
keeps of a uuid of the server. -/
structure WrittenAs (server : PersonalServer) (info : TextInfo) (uuid : String) : Prop where
  own : ∀ id, ownId info = some id → uuid = id
  made : ownId info = none → ∃ uuids, stringColumn 38 (server.newUuid uuids) = .ok uuid
  noNull : NoNull (info.set "id" uuid)

/-- Rows of a contact that is new are all of that contact. -/
theorem Kept.fieldsOf_new (h : Kept enc ids db) {uuid : Uuid}
    (hnew : ∀ c ∈ db.contacts, c.uuid ≠ uuid) : fieldsOf db.contactFields uuid = [] := by
  refine fieldsOf_eq_nil fun f hf hfu => ?_
  obtain ⟨c, hc, hcf⟩ := h.owned f hf
  exact hnew c hc (hcf.trans hfu)

/-- **What a turn of the loop leaves.** -/
theorem stands_of_addContact (h : Kept enc ids s.db)
    (hfault : server.contactFault i = none ∧ server.fieldsFault i = none)
    (hhash : hash = enc.computeContactHash info.body)
    (hadd : addContact enc server userUuid s ((hash, info), i) = .ok s') :
    Grows s.db s'.db ∧ ∃ uuid c, s'.ids = s.ids.set hash uuid ∧ WrittenAs server info uuid ∧
      Stands enc s'.db userUuid info uuid c ∧ ∀ d ∈ s.db.contacts, d.uuid ≠ c.uuid := by
  obtain ⟨row, fields, hrow, hclash, hfields, rfl⟩ := (addContact_eq_ok hfault).1 hadd
  have hnew : ∀ d ∈ s.db.contacts, d.uuid ≠ row := fun d hd =>
    Contact.uuid_ne_of_clash (by simpa using List.any_eq_false.1 hclash d hd)
  -- the id written is kept as the uuid of the row
  have hkept : stringColumn 38 ((ownId info).getD row) = .ok row := by
    cases hown : ownId info with
    | none => exact stringColumn_of_length_le (length_of_stringColumn hrow)
    | some id =>
      rw [hown] at hrow
      exact hrow
  obtain ⟨hof, hrows⟩ := contactFields_ok hkept hfields
  refine ⟨⟨rfl, fun c hc => List.mem_append_left _ hc, fun c hc => ?_⟩, (ownId info).getD row,
    { uuid := row, userUuid := some userUuid, hash := hash }, rfl, ⟨?_, ?_, ?_⟩, ?_, hnew⟩
  · have hnil : fieldsOf fields c.uuid = [] :=
      fieldsOf_eq_nil fun f hf hfc => hnew c hc (hfc.symm.trans (hof f hf))
    show fieldsOf (s.db.contactFields ++ fields) c.uuid = _
    rw [fieldsOf_append, hnil, List.append_nil]
  · intro id hown
    rw [hown, Option.getD_some]
  · intro hown
    rw [hown] at hrow ⊢
    exact ⟨_, hrow⟩
  · exact (exists_contactFields_iff hkept).1 ⟨fields, hfields⟩
  · refine ⟨by simp, rfl, hhash, hkept, ?_⟩
    show fieldsOf (s.db.contactFields ++ fields) row = _
    rw [fieldsOf_append, h.fieldsOf_new hnew, List.nil_append, hrows]

/-! ## The loop -/

/-- **A server that serves a batch**: no flush fails; its uuids, for as many
contacts as there are to be, fit their column and have no null character;
and they are no ids of the batch. -/
structure Serves (server : PersonalServer) (contacts : ℕ) (infos : List TextInfo) : Prop where
  noFault : ∀ i, server.contactFault i = none ∧ server.fieldsFault i = none
  fits : ∀ uuids : List Uuid, uuids.length < contacts → (server.newUuid uuids).toList.length ≤ 38
  plain : ∀ uuids : List Uuid, uuids.length < contacts → '\x00' ∉ (server.newUuid uuids).toList
  fresh : ∀ uuids row, stringColumn 38 (server.newUuid uuids) = .ok row →
    ∀ info ∈ infos, info.get? "id" ≠ some row

/-- **What the loop leaves**: each contact to add stands, under a uuid of
none of those there were. -/
theorem stands_of_loop {entries : List ((String × TextInfo) × ℕ)}
    (h : Kept enc (fun _ => True) s.db)
    (hfault : ∀ i, server.contactFault i = none ∧ server.fieldsFault i = none)
    (hhash : ∀ e ∈ entries, e.1.1 = enc.computeContactHash e.1.2.body)
    (hnodup : (entries.map (·.1.1)).Nodup)
    (hloop : entries.foldlM (addContact enc server userUuid) s = .ok s') :
    Grows s.db s'.db ∧ (∀ hash ∉ entries.map (·.1.1), s'.ids.get? hash = s.ids.get? hash) ∧
      ∀ e ∈ entries, ∃ uuid c, s'.ids.get? e.1.1 = some uuid ∧ WrittenAs server e.1.2 uuid ∧
        Stands enc s'.db userUuid e.1.2 uuid c ∧ ∀ d ∈ s.db.contacts, d.uuid ≠ c.uuid := by
  induction entries generalizing s with
  | nil =>
    cases hloop
    exact ⟨.refl, fun _ _ => rfl, fun e he => by cases he⟩
  | cons entry entries ih =>
    obtain ⟨⟨hash, info⟩, i⟩ := entry
    rw [List.foldlM_cons] at hloop
    obtain ⟨s₁, hadd, hrest⟩ := bind_eq_ok.1 hloop
    rw [List.forall_mem_cons] at hhash
    rw [List.map_cons, List.nodup_cons] at hnodup
    obtain ⟨hgrows, uuid, c, hids, hwritten, hstands, hnew⟩ :=
      stands_of_addContact h (hfault i) hhash.1 hadd
    have hkept : Kept enc (fun _ => True) s₁.db :=
      h.write (addContact_ok (fun _ _ => trivial) (fun _ _ => trivial) hhash.1 hadd)
    obtain ⟨hgrows', hother, hentries⟩ := ih hkept hhash.2 hnodup.2 hrest
    refine ⟨hgrows.trans hgrows', fun k hk => ?_, ?_⟩
    · rw [List.map_cons, List.mem_cons, not_or] at hk
      rw [hother k hk.2, hids, Dict.get?_set_of_ne _ _ (Ne.symm hk.1)]
    · intro e he
      rcases List.mem_cons.1 he with rfl | he
      · refine ⟨uuid, c, ?_, hwritten, hstands.grows hgrows', hnew⟩
        rw [hother _ hnodup.1, hids, Dict.get?_set_self]
      · obtain ⟨uuid', c', hids', hwritten', hstands', hnew'⟩ := hentries e he
        exact ⟨uuid', c', hids', hwritten', hstands', fun d hd => hnew' d (hgrows.contacts d hd)⟩

/-- What is enough for a contact to be added: no null character, and an id
of its own that fits its column, of no contact there is. -/
structure Writable (db : Database) (info : TextInfo) : Prop where
  noNull : NoNull info
  own : ∀ id, ownId info = some id → id.toList.length ≤ 38 ∧ ∀ c ∈ db.contacts, c.uuid ≠ id

/-- Two contacts have not one id of their own. -/
def ApartIds (info other : TextInfo) : Prop := ∀ id, ownId info = some id → ownId other ≠ some id

/-- An id of its own is under its name. -/
theorem get?_of_ownId {id : String} (h : ownId info = some id) : info.get? "id" = some id :=
  Option.eq_some_of_filter_eq_some h

/-- The uuid of the contact that is added, and that it can be. -/
theorem Writable.addContact {infos : List TextInfo} {n : ℕ} (h : Writable s.db info)
    (hserves : Serves server n infos) (hroom : s.db.contacts.length < n)
    (hhash : ∀ c ∈ s.db.contacts, c.userUuid = some userUuid → c.hash ≠ hash) :
    ∃ row s', addContact enc server userUuid s ((hash, info), i) = .ok s' ∧
      s'.db.contacts = s.db.contacts ++ [{ uuid := row, userUuid := some userUuid, hash := hash }] ∧
      ∀ other ∈ infos, ApartIds info other → ownId other ≠ some row := by
  let row := (ownId info).getD (server.newUuid (s.db.contacts.map Contact.uuid))
  have hfits : row.toList.length ≤ 38 := by
    cases hown : ownId info with
    | none =>
      simp only [row, hown, Option.getD_none]
      exact hserves.fits _ (by simpa using hroom)
    | some id =>
      simp only [row, hown, Option.getD_some]
      exact (h.own id hown).1
  have hrow : stringColumn 38 row = .ok row := stringColumn_of_length_le hfits
  have hnew : ∀ c ∈ s.db.contacts, c.uuid ≠ row := by
    intro c hc
    cases hown : ownId info with
    | none =>
      simp only [row, hown, Option.getD_none]
      intro heq
      exact server.newUuid_not_mem _ (List.mem_map.2 ⟨c, hc, heq⟩)
    | some id =>
      simp only [row, hown, Option.getD_some]
      exact (h.own id hown).2 c hc
  have hclash : (s.db.contacts.any
      ({ uuid := row, userUuid := some userUuid, hash := hash } : Contact).clash) = false := by
    rw [List.any_eq_false]
    intro c hc
    have hne := hnew c hc
    have hhashes := hhash c hc
    simp only [Contact.clash, Bool.or_eq_true, Bool.and_eq_true, decide_eq_true_eq, not_or]
    refine ⟨Ne.symm hne, ?_⟩
    rintro ⟨heq, ⟨-, huser⟩ | ⟨hnone, -⟩⟩
    · exact hhashes huser.symm heq.symm
    · cases hnone
  have hnull : NoNull (info.set "id" row) := by
    refine noNull_set_iff.2 ⟨fun e he _ => h.noNull e he, ?_⟩
    cases hown : ownId info with
    | none =>
      simp only [row, hown, Option.getD_none]
      exact hserves.plain _ (by simpa using hroom)
    | some id =>
      simp only [row, hown, Option.getD_some]
      exact (h.noNull _ (Dict.get?_eq_some_iff.1 (get?_of_ownId hown))).2
  have hwritten : (ownId info).getD row = row := by
    cases hown : ownId info with
    | none => rfl
    | some id => simp only [row, hown, Option.getD_some]
  obtain ⟨fields, hfields⟩ := (@exists_contactFields_iff enc _ _ _ hrow).2 hnull
  refine ⟨row, _, (addContact_eq_ok (hserves.noFault i)).2
    ⟨row, fields, hrow, hclash, by rw [hwritten]; exact hfields, rfl⟩, rfl, ?_⟩
  intro other hother hapart hown'
  cases hown : ownId info with
  | none =>
    simp only [row, hown, Option.getD_none] at hrow hown'
    exact hserves.fresh _ _ hrow other hother (get?_of_ownId hown')
  | some id =>
    simp only [row, hown, Option.getD_some] at hown'
    exact hapart id hown hown'

/-- **The loop ends** when the contacts to add can each be written, under
hashes and ids that are distinct. -/
theorem exists_loop {entries : List ((String × TextInfo) × ℕ)} {infos : List TextInfo} {n : ℕ}
    (hserves : Serves server n infos) (hinfos : ∀ e ∈ entries, e.1.2 ∈ infos)
    (hroom : s.db.contacts.length + entries.length ≤ n)
    (hwritable : ∀ e ∈ entries, Writable s.db e.1.2)
    (hhashes : ∀ e ∈ entries, ∀ c ∈ s.db.contacts, c.userUuid = some userUuid → c.hash ≠ e.1.1)
    (hapart : entries.Pairwise fun e e' => e.1.1 ≠ e'.1.1 ∧ ApartIds e.1.2 e'.1.2) :
    ∃ s', entries.foldlM (addContact enc server userUuid) s = .ok s' := by
  induction entries generalizing s with
  | nil => exact ⟨s, rfl⟩
  | cons entry entries ih =>
    obtain ⟨⟨hash, info⟩, i⟩ := entry
    rw [List.forall_mem_cons] at hinfos hwritable hhashes
    rw [List.pairwise_cons] at hapart
    rw [List.length_cons] at hroom
    obtain ⟨row, s₁, hadd, hcontacts, hfree⟩ :=
      @Writable.addContact enc server userUuid info hash i s infos n hwritable.1 hserves
        (by omega) hhashes.1
    -- the contact that was added is in nobody's way
    have hwritable₁ : ∀ e ∈ entries, Writable s₁.db e.1.2 := by
      intro e he
      refine ⟨(hwritable.2 e he).noNull, fun id hown => ⟨((hwritable.2 e he).own id hown).1, ?_⟩⟩
      rw [hcontacts, List.forall_mem_append, List.forall_mem_singleton]
      refine ⟨((hwritable.2 e he).own id hown).2, ?_⟩
      rintro rfl
      exact hfree _ (hinfos.2 e he) (hapart.1 e he).2 hown
    have hhashes₁ : ∀ e ∈ entries, ∀ c ∈ s₁.db.contacts, c.userUuid = some userUuid →
        c.hash ≠ e.1.1 := by
      intro e he
      rw [hcontacts, List.forall_mem_append, List.forall_mem_singleton]
      exact ⟨hhashes.2 e he, fun _ => (hapart.1 e he).1⟩
    have hroom₁ : s₁.db.contacts.length + entries.length ≤ n := by
      rw [hcontacts, List.length_append, List.length_singleton]
      omega
    obtain ⟨s', hrest⟩ := ih hinfos.2 hroom₁ hwritable₁ hhashes₁ hapart.2
    exact ⟨s', by rw [List.foldlM_cons]; exact bind_eq_ok.2 ⟨s₁, hadd, hrest⟩⟩

end PersonalContacts

end WazoDird
