import Mathlib.Data.List.Count
import WazoDird.PhonebookContacts.Reads
import WazoDird.PhonebookContacts.Service

/-!
# Importing contacts

An import is checked as a whole, and then created one contact after the
other, each in a savepoint. It either leaves the database as it was, or
adds to the phonebook the bodies of the list it did not store, each once:
a hash stands for the body it was made of, so the constraint on hashes
passes over what is there and what the list repeats.
-/

namespace WazoDird

open PhonebookContactCRUD

namespace PhonebookContacts

open PhonebookService

variable {enc : Encoding} {server : Server} {s s₀ : Store} {calls : List Call}

/-- **The phonebook stores a body**: the rows of one of its contacts, and
what that was last written with, are the body. -/
def Stores (enc : Encoding) (s : Store) (phonebookUuid : Uuid) (body : ContactBody) : Prop :=
  ∃ c ∈ s.db.contacts, c.phonebookUuid = some phonebookUuid ∧
    ∃ body', Represents enc s c body' ∧ body'.Same body

/-! ## A hash stands for a body -/

/-- Bodies of one hash are the same, when one is of texts. -/
theorem same_of_hash (hsha : Function.Injective enc.sha1) {body body' : ContactBody}
    (hid : body.get? "id" = none) (hid' : body'.get? "id" = none)
    (htexts : Within (fun v => ∃ a, v = .str a) body)
    (h : enc.computeContactHash body' = enc.computeContactHash body) : body'.Same body := by
  have herase : ∀ b : ContactBody, b.get? "id" = none → (b.erase "id").Same b := by
    intro b hb
    rw [Dict.same_iff]
    intro k
    rw [Dict.get?_erase]
    split
    · next hk => rw [← hk, hb]
    · rfl
  have hperm : (body.erase "id").entries.Perm (body'.erase "id").entries := by
    refine Json.perm_of_dumps_eq (fun e he => ?_) (hsha h).symm
    have hmem : e ∈ body.entries := (herase body hid).mem_iff.1 he
    exact htexts e.1 e.2 (Dict.get?_eq_some_iff.2 hmem)
  exact (herase body' hid').symm.trans (hperm.symm.trans (herase body hid))

/-- The same bodies have one hash. -/
theorem hash_of_same {body body' : ContactBody} (h : body'.Same body) :
    enc.computeContactHash body' = enc.computeContactHash body :=
  Encoding.computeContactHash_congr fun k _ => by rw [Dict.same_iff.1 h k]

/-- **A phonebook stores a body of texts when one of its contacts has the
hash.** -/
theorem Kept.stores_iff (h : Kept enc s) (hids : s.BodiesAre (·.get? "id" = none))
    (hsha : Function.Injective enc.sha1) {p : Uuid} {body : ContactBody}
    (hid : body.get? "id" = none) (htexts : Within (fun v => ∃ a, v = .str a) body) :
    Stores enc s p body ↔ ∃ c ∈ s.db.contacts, c.phonebookUuid = some p ∧
      c.hash = enc.computeContactHash body := by
  constructor
  · rintro ⟨c, hc, hcp, body', hrep, hsame⟩
    exact ⟨c, hc, hcp, hrep.hash.trans (hash_of_same hsame)⟩
  · rintro ⟨c, hc, hcp, hhash⟩
    obtain ⟨body', hrep⟩ := h.stored c hc (by rw [hcp]; rfl)
    refine ⟨c, hc, hcp, body', hrep, ?_⟩
    exact same_of_hash hsha hid (hids _ _ hrep.written) htexts (hrep.hash.symm.trans hhash)

/-! ## The loop -/

/-- What creating contacts in a phonebook adds: their rows, at the end,
and name/value rows of theirs. -/
structure Appended (enc : Encoding) (phonebookUuid : Uuid) (db : Database)
    (created : List WrittenContact) (db' : Database) : Prop where
  contacts : db'.contacts = db.contacts ++ created.map (contactRow enc phonebookUuid)
  fields : ∃ fields, db'.contactFields = db.contactFields ++ fields ∧
    ∀ f ∈ fields, f.contactUuid ∈ created.map WrittenContact.uuid

variable {phonebookUuid tenantUuid : Uuid} {db db₁ db' : Database} {body : ContactBody}
  {w : WrittenContact} {created : List WrittenContact} {i : ℕ}

theorem Appended.nil : Appended enc phonebookUuid db [] db :=
  ⟨(List.append_nil _).symm, [], (List.append_nil _).symm, fun f hf => by cases hf⟩

/-- One contact more, at the front. -/
theorem Appended.cons
    (hone : createOne enc server db i tenantUuid phonebookUuid body = .ok (db₁, w))
    (h : Appended enc phonebookUuid db₁ created db') :
    Appended enc phonebookUuid db (w :: created) db' := by
  obtain ⟨-, -, -, p, fields, -, rfl, hfields, -, rfl⟩ := createOne_ok hone
  obtain ⟨hcontacts, fields', hdb', hown⟩ := h
  refine ⟨by simpa using hcontacts, fields ++ fields', by simpa using hdb', ?_⟩
  intro f hf
  rw [List.map_cons, List.mem_cons]
  rcases List.mem_append.1 hf with hf | hf
  · exact Or.inl ((setContactFields_ok hfields).1 f hf)
  · exact Or.inr (hown f hf)

/-- A body passed over as a duplicate has the hash of a contact there. -/
theorem createOne_duplicated
    (h : createOne enc server db i tenantUuid phonebookUuid body = .error .duplicatedContact) :
    ∃ c ∈ db.contacts, c.phonebookUuid = some phonebookUuid ∧
      c.hash = enc.computeContactHash body := by
  rcases bind_eq_error.1 h with h | ⟨p, hp, h⟩
  · -- the phonebook is not there
    unfold getPhonebook at h
    split at h <;> cases h
  rcases bind_eq_error.1 h with h | ⟨⟨⟩, -, h⟩
  · have hclash := (raiseIf_error.1 h).1
    obtain ⟨c, hc, hcc⟩ := List.any_eq_true.1 hclash
    refine ⟨c, hc, ?_⟩
    simp only [Contact.clash, Bool.or_eq_true, Bool.and_eq_true, decide_eq_true_eq] at hcc
    rcases hcc with hnew | ⟨hhash, ⟨hnone, -⟩ | ⟨-, hcp⟩⟩
    · exact absurd (List.mem_map.2 ⟨c, hc, hnew.symm⟩) (server.newUuid_not_mem _)
    · cases hnone
    · exact ⟨hcp.symm.trans (congrArg some (uuid_of_getPhonebook hp)), hhash.symm⟩
  rcases bind_eq_error.1 h with h | ⟨⟨⟩, -, h⟩
  · rcases raiseFault_error h with ⟨_, h⟩ | h | ⟨_, h⟩ <;> cases h
  rcases bind_eq_error.1 h with h | ⟨⟨⟩, -, h⟩
  · cases (raiseIf_error.1 h).2
  rcases bind_eq_error.1 h with h | ⟨fields, -, h⟩
  · rcases bind_eq_error.1 h with h | ⟨_, -, h⟩
    · obtain ⟨_, h⟩ := Encoding.columnTexts_error h
      cases h
    · cases h
  rcases bind_eq_error.1 h with h | ⟨⟨⟩, -, h⟩
  · rcases raiseFault_error h with ⟨_, h⟩ | h | ⟨_, h⟩ <;> cases h
  · cases h

/-- **What the loop does when it collects no error**: it had none, each
contact it creates is added, and the phonebook has the hash of each body
of the list. -/
theorem loop_spec {t t' : Created} {entries : List (ContactBody × ℕ)}
    (h : entries.foldlM (createNext enc server tenantUuid phonebookUuid) t = .ok t')
    (herrors : t'.errors = []) :
    t.errors = [] ∧ ∃ created, t'.good = t.good ++ created ∧
      Appended enc phonebookUuid t.db created t'.db ∧
      ∀ entry ∈ entries, ∃ c ∈ t'.db.contacts, c.phonebookUuid = some phonebookUuid ∧
        c.hash = enc.computeContactHash entry.1 := by
  induction entries generalizing t with
  | nil =>
      cases h
      exact ⟨herrors, [], (List.append_nil _).symm, .nil, fun _ he => by cases he⟩
  | cons entry entries ih =>
      obtain ⟨body, i⟩ := entry
      rw [List.foldlM_cons] at h
      obtain ⟨t₁, hnext, hrest⟩ := bind_eq_ok.1 h
      obtain ⟨hnone, created, hgood, happ, hcover⟩ := ih hrest
      have hstay : ∀ c ∈ t₁.db.contacts, c ∈ t'.db.contacts := fun c hc => by
        rw [happ.contacts]
        exact List.mem_append_left _ hc
      rcases createNext_cases hnext with
        ⟨w, hone, hgood₁, herrors₁⟩ | ⟨hdup, rfl⟩ | ⟨m, a, k, d, -, rfl⟩
      · refine ⟨herrors₁ ▸ hnone, w :: created, by rw [hgood, hgood₁]; simp, happ.cons hone, ?_⟩
        rw [List.forall_mem_cons]
        refine ⟨?_, hcover⟩
        obtain ⟨rfl, -, -, p, fields, -, rfl, -, -, hdb⟩ := createOne_ok hone
        exact ⟨contactRow enc p.uuid w, hstay _ (by simp [hdb]), rfl, rfl⟩
      · refine ⟨hnone, created, hgood, happ, ?_⟩
        rw [List.forall_mem_cons]
        obtain ⟨c, hc, hcc⟩ := createOne_duplicated hdup
        exact ⟨⟨c, hstay c hc, hcc⟩, hcover⟩
      · simp at hnone

/-! ## What an import leaves -/

/-- The store an import that created contacts leaves. -/
def afterImport (s : Store) (db' : Database) (created : List WrittenContact) : Store :=
  ⟨db', (created.map Write.created).foldl note s.written⟩

/-- What is noted of the contacts created. -/
theorem foldl_note_created (written : Dict Uuid ContactBody) (created : List WrittenContact) :
    (created.map Write.created).foldl note written =
      written.setAll (created.map fun w => (w.uuid, w.body)) := by
  induction created generalizing written with
  | nil => rfl
  | cons w created ih => exact ih (written.set w.uuid w.body)

/-- **What an import that raises nothing leaves**: the bodies stored are
those there were and those of the list. Each new one is created once, in
the order of the list, one that was there not at all; a contact created
is stored as its body, and the others stay as they were. -/
structure Imported (enc : Encoding) (s : Store) (phonebookUuid : Uuid)
    (bodies : List ContactBody) (created : List WrittenContact) (s' : Store) : Prop where
  stored : ∀ body, Stores enc s' phonebookUuid body ↔
    Stores enc s phonebookUuid body ∨ ∃ b ∈ bodies, b.Same body
  order : (created.map WrittenContact.body).Sublist bodies
  old : ∀ b ∈ bodies, Stores enc s phonebookUuid b → created.countP (fun w => w.body.Same b) = 0
  new : ∀ b ∈ bodies, ¬ Stores enc s phonebookUuid b →
    created.countP (fun w => w.body.Same b) = 1
  contacts : s'.db.contacts = s.db.contacts ++ created.map (contactRow enc phonebookUuid)
  others : ∀ c ∈ s.db.contacts,
    fieldsOf s'.db.contactFields c.uuid = fieldsOf s.db.contactFields c.uuid
  each : ∀ w ∈ created, Represents enc s' (contactRow enc phonebookUuid w) w.body

/-- **The dictionaries an import returns**: without their ids they are the
new bodies of the list, each once and in its order, and none that was
stored; each stands for a contact stored as that body, whose uuid is its
id. -/
structure Returned (enc : Encoding) (s : Store) (phonebookUuid : Uuid)
    (bodies : List ContactBody) (answer : List ContactBody) (s' : Store) : Prop where
  order : (answer.map (·.erase "id")).Sublist bodies
  old : ∀ b ∈ bodies, Stores enc s phonebookUuid b →
    answer.countP (fun d => (d.erase "id").Same b) = 0
  new : ∀ b ∈ bodies, ¬ Stores enc s phonebookUuid b →
    answer.countP (fun d => (d.erase "id").Same b) = 1
  stored : ∀ d ∈ answer, ∃ c ∈ s'.db.contacts, c.phonebookUuid = some phonebookUuid ∧
    Represents enc s' c (d.erase "id") ∧
    ((d.erase "id").entries ≠ [] → d.get? "id" = some (.str c.uuid))

section Import

variable {bodies : List ContactBody}

/-- **What an import returns is what it created.** -/
theorem Imported.returned {s' : Store} (h : Imported enc s phonebookUuid bodies created s')
    (hids : ∀ b ∈ bodies, b.get? "id" = none) :
    Returned enc s phonebookUuid bodies (created.map WrittenContact.fieldsDict) s' := by
  have hid : ∀ w ∈ created, w.body.get? "id" = none := fun w hw =>
    hids _ (h.order.subset (List.mem_map_of_mem hw))
  have hcount : ∀ b : ContactBody,
      (created.map WrittenContact.fieldsDict).countP (fun d => (d.erase "id").Same b) =
        created.countP (fun w => w.body.Same b) := by
    intro b
    rw [List.countP_map]
    refine List.countP_congr fun w hw => ?_
    rw [Function.comp_apply, erase_fieldsDict (hid w hw)]
  refine ⟨?_, fun b hb hold => (hcount b).trans (h.old b hb hold),
    fun b hb hnew => (hcount b).trans (h.new b hb hnew), ?_⟩
  · have hbodies : (created.map WrittenContact.fieldsDict).map (·.erase "id") =
        created.map WrittenContact.body := by
      rw [List.map_map]
      exact List.map_congr_left fun w hw => erase_fieldsDict (hid w hw)
    rw [hbodies]
    exact h.order
  · rintro d hd
    obtain ⟨w, hw, rfl⟩ := List.mem_map.1 hd
    rw [erase_fieldsDict (hid w hw)]
    refine ⟨contactRow enc phonebookUuid w, ?_, rfl, h.each w hw, fun hne => ?_⟩
    · rw [h.contacts]
      exact List.mem_append_right _ (List.mem_map_of_mem hw)
    · exact (get?_fieldsDict (hid w hw)).2 (Or.inl ⟨rfl, rfl, hne⟩)

/-- A contact there was is not one of those created. -/
theorem not_mem_created (happ : Appended enc phonebookUuid db created db')
    (hnodup : (db'.contacts.map Contact.uuid).Nodup) {c : Contact} (hc : c ∈ db.contacts) :
    c.uuid ∉ created.map WrittenContact.uuid := by
  intro hmem
  obtain ⟨w, hw, hwc⟩ := List.mem_map.1 hmem
  rw [happ.contacts, List.map_append, List.nodup_append] at hnodup
  refine hnodup.2.2 c.uuid (List.mem_map_of_mem hc) w.uuid ?_ hwc.symm
  exact List.mem_map.2 ⟨contactRow enc phonebookUuid w, List.mem_map_of_mem hw, rfl⟩

/-- The contacts created have different uuids. -/
theorem nodup_created (happ : Appended enc phonebookUuid db created db')
    (hnodup : (db'.contacts.map Contact.uuid).Nodup) :
    (created.map WrittenContact.uuid).Nodup := by
  rw [happ.contacts, List.map_append, List.nodup_append, List.map_map] at hnodup
  exact hnodup.2.1

/-- A contact there was keeps its rows and what it was last written with. -/
theorem represents_old (happ : Appended enc phonebookUuid s.db created db')
    (hnodup : (db'.contacts.map Contact.uuid).Nodup) {c : Contact} (hc : c ∈ s.db.contacts) :
    fieldsOf db'.contactFields c.uuid = fieldsOf s.db.contactFields c.uuid ∧
      (afterImport s db' created).written.get? c.uuid = s.written.get? c.uuid := by
  have hnot := not_mem_created happ hnodup hc
  obtain ⟨fields, hfields, hown⟩ := happ.fields
  constructor
  · have hnil : fieldsOf fields c.uuid = [] := by
      refine fieldsOf_eq_nil fun f hf hfc => hnot ?_
      rw [← hfc]
      exact hown f hf
    rw [hfields, fieldsOf_append, hnil, List.append_nil]
  · have hnil : (created.map fun w => (w.uuid, w.body)).filter (fun e => e.1 = c.uuid) = [] := by
      rw [List.filter_eq_nil_iff]
      intro e he hec
      obtain ⟨w, hw, rfl⟩ := List.mem_map.1 he
      exact hnot (List.mem_map.2 ⟨w, hw, of_decide_eq_true hec⟩)
    rw [afterImport, foldl_note_created, Dict.get?_setAll, hnil]
    rfl

/-- A contact created is noted with its body. -/
theorem written_created (happ : Appended enc phonebookUuid s.db created db')
    (hnodup : (db'.contacts.map Contact.uuid).Nodup) (hw : w ∈ created) :
    (afterImport s db' created).written.get? w.uuid = some w.body := by
  have hkeys : ((created.map fun w => (w.uuid, w.body)).map Prod.fst).Nodup := by
    rw [List.map_map]
    exact nodup_created happ hnodup
  have hmem : (w.uuid, w.body) ∈ created.map fun w => (w.uuid, w.body) :=
    List.mem_map.2 ⟨w, hw, rfl⟩
  rw [afterImport, foldl_note_created, Dict.get?_setAll, filter_key hkeys hmem]
  rfl

/-- No contact is created of a body whose hash a contact there was has. -/
theorem countP_same_of_old (h' : Kept enc (afterImport s db' created))
    (happ : Appended enc phonebookUuid s.db created db') {c : Contact} (hc : c ∈ s.db.contacts)
    (hcp : c.phonebookUuid = some phonebookUuid) {b : ContactBody}
    (hhash : c.hash = enc.computeContactHash b) :
    created.countP (fun w => w.body.Same b) = 0 := by
  rw [List.countP_eq_zero]
  intro w hw hwb
  have hwhash : enc.computeContactHash w.body = enc.computeContactHash b :=
    hash_of_same (of_decide_eq_true hwb)
  have hold : c ∈ db'.contacts := by
    rw [happ.contacts]
    exact List.mem_append_left _ hc
  have hnew : contactRow enc phonebookUuid w ∈ db'.contacts := by
    rw [happ.contacts]
    exact List.mem_append_right _ (List.mem_map_of_mem hw)
  have heq : c = contactRow enc phonebookUuid w :=
    h'.hashes c hold _ hnew (by rw [hcp]; rfl) hcp (hhash.trans hwhash.symm)
  exact not_mem_created happ h'.uuids hc (heq ▸ List.mem_map_of_mem hw)

/-- Of a body that a contact was created of, no other was. -/
theorem countP_same_of_created (h' : Kept enc (afterImport s db' created))
    (happ : Appended enc phonebookUuid s.db created db') (hw : w ∈ created) {b : ContactBody}
    (hwb : w.body.Same b) : created.countP (fun v => v.body.Same b) = 1 := by
  have hrow : ∀ v ∈ created, contactRow enc phonebookUuid v ∈ db'.contacts := by
    intro v hv
    rw [happ.contacts]
    exact List.mem_append_right _ (List.mem_map_of_mem hv)
  have hnodup := nodup_created happ h'.uuids
  calc created.countP (fun v => v.body.Same b)
      = created.countP (fun v => v.uuid == w.uuid) := by
        refine List.countP_congr fun v hv => ?_
        rw [decide_eq_true_eq, beq_iff_eq]
        constructor
        · intro hvb
          have heq := h'.hashes _ (hrow v hv) _ (hrow w hw) rfl rfl
            ((hash_of_same hvb).trans (hash_of_same hwb).symm)
          exact congrArg Contact.uuid heq
        · intro huuid
          rwa [List.inj_on_of_nodup_map hnodup hv hw huuid]
    _ = (created.map WrittenContact.uuid).count w.uuid := by
        rw [List.count, List.countP_map]
        rfl
    _ = 1 := List.count_eq_one_of_mem hnodup (List.mem_map_of_mem hw)

/-- **Contacts added to a phonebook that end with the hash of each body of
a list are its import.** -/
theorem Kept.imported (h : Kept enc s) (hids : s.BodiesAre (·.get? "id" = none))
    (hsha : Function.Injective enc.sha1) (h' : Kept enc (afterImport s db' created))
    (happ : Appended enc phonebookUuid s.db created db')
    (hsub : (created.map WrittenContact.body).Sublist bodies)
    (hbodies : ∀ b ∈ bodies, b.get? "id" = none ∧ Within (fun v => ∃ a, v = .str a) b)
    (hcover : ∀ b ∈ bodies, ∃ c ∈ db'.contacts, c.phonebookUuid = some phonebookUuid ∧
      c.hash = enc.computeContactHash b) :
    Imported enc s phonebookUuid bodies created (afterImport s db' created) := by
  have hmem : ∀ c, c ∈ db'.contacts ↔
      c ∈ s.db.contacts ∨ ∃ w ∈ created, contactRow enc phonebookUuid w = c := by
    intro c
    rw [happ.contacts, List.mem_append, List.mem_map]
  have hstores : ∀ b ∈ bodies, (Stores enc s phonebookUuid b ↔ ∃ c ∈ s.db.contacts,
      c.phonebookUuid = some phonebookUuid ∧ c.hash = enc.computeContactHash b) := fun b hb =>
    h.stores_iff hids hsha (hbodies b hb).1 (hbodies b hb).2
  have hbody : ∀ w ∈ created, w.body ∈ bodies := fun w hw => hsub.subset (List.mem_map_of_mem hw)
  -- a contact created has the hash of a body of the list when it is that body
  have hsame : ∀ w ∈ created, ∀ b ∈ bodies,
      enc.computeContactHash w.body = enc.computeContactHash b → w.body.Same b := by
    intro w hw b hb hhash
    exact same_of_hash hsha (hbodies b hb).1 (hbodies _ (hbody w hw)).1 (hbodies b hb).2 hhash
  have heach : ∀ w ∈ created,
      Represents enc (afterImport s db' created) (contactRow enc phonebookUuid w) w.body := by
    intro w hw
    obtain ⟨body, hrep⟩ := h'.stored _ ((hmem _).2 (Or.inr ⟨w, hw, rfl⟩)) rfl
    have hwritten := written_created (s := s) happ h'.uuids hw
    obtain rfl : body = w.body := Option.some.inj (hrep.written.symm.trans hwritten)
    exact hrep
  refine ⟨fun body => ?_, hsub, fun b hb hold => ?_, fun b hb hnew => ?_, happ.contacts,
    fun c hc => (represents_old happ h'.uuids hc).1, heach⟩
  · constructor
    · rintro ⟨c, hc, hcp, body', hrep, hbody'⟩
      rcases (hmem c).1 hc with hc | ⟨w, hw, rfl⟩
      · have hold := represents_old happ h'.uuids hc
        exact Or.inl ⟨c, hc, hcp, body', hrep.congr hold.2.symm hold.1.symm, hbody'⟩
      · obtain rfl : w.body = body' :=
          Option.some.inj ((heach w hw).written.symm.trans hrep.written)
        exact Or.inr ⟨w.body, hbody w hw, hbody'⟩
    · rintro (⟨c, hc, hcp, body', hrep, hbody'⟩ | ⟨b, hb, hsb⟩)
      · have hold := represents_old happ h'.uuids hc
        exact ⟨c, (hmem c).2 (Or.inl hc), hcp, body', hrep.congr hold.2 hold.1, hbody'⟩
      · obtain ⟨c, hc, hcp, hhash⟩ := hcover b hb
        rcases (hmem c).1 hc with hc' | ⟨w, hw, rfl⟩
        · obtain ⟨c, hc, hcp, body', hrep, hbb⟩ := (hstores b hb).2 ⟨c, hc', hcp, hhash⟩
          have hold := represents_old happ h'.uuids hc
          exact ⟨c, (hmem c).2 (Or.inl hc), hcp, body', hrep.congr hold.2 hold.1, hbb.trans hsb⟩
        · exact ⟨_, hc, hcp, w.body, heach w hw, (hsame w hw b hb hhash).trans hsb⟩
  · obtain ⟨c, hc, hcp, hhash⟩ := (hstores b hb).1 hold
    exact countP_same_of_old h' happ hc hcp hhash
  · obtain ⟨c, hc, hcp, hhash⟩ := hcover b hb
    rcases (hmem c).1 hc with hc' | ⟨w, hw, rfl⟩
    · exact absurd ((hstores b hb).2 ⟨c, hc', hcp, hhash⟩) hnew
    · exact countP_same_of_created h' happ hw (hsame w hw b hb hhash)

variable {visibleTenants : List Uuid} {key : PhonebookKey} {p : Phonebook}

/-- **What `create_many` does when it raises nothing**: the loop collected
no error, and its contacts are what is reported. -/
theorem createMany_ok {r : List WrittenContact × List ContactEntryError}
    (h : createMany enc server db (some visibleTenants) key bodies = (.ok r, db')) :
    ∃ p t, getPhonebook db (some visibleTenants) key = .ok p ∧
      bodies.zipIdx.foldlM (createNext enc server p.tenantUuid p.uuid) { db := db } = .ok t ∧
      t.errors = [] ∧ r = (t.good, []) ∧ db' = t.db := by
  rcases newSession_snd h with ⟨e, he, -⟩ | ⟨r', hr', hbody⟩
  · cases he
  cases hr'
  obtain ⟨p, hp, hbody⟩ := bind_eq_ok.1 hbody
  obtain ⟨t, hloop, hbody⟩ := bind_eq_ok.1 hbody
  obtain ⟨⟨⟩, herrors, hbody⟩ := bind_eq_ok.1 hbody
  have hnone : t.errors = [] := by simpa using raiseIf_ok.1 herrors
  cases hbody
  exact ⟨p, t, hp, hloop, hnone, by rw [hnone], rfl⟩

/-- The contact of a row could not be created, for another reason than
that it is there. -/
def RowFails (enc : Encoding) (server : Server) (db : Database) (visibleTenants : List Uuid)
    (key : PhonebookKey) (bodies : List ContactBody) : Prop :=
  ∃ p before body i after t e, getPhonebook db (some visibleTenants) key = .ok p ∧
    bodies.zipIdx = before ++ (body, i) :: after ∧
    before.foldlM (createNext enc server p.tenantUuid p.uuid) { db := db } = .ok t ∧
    createOne enc server t.db i p.tenantUuid p.uuid body = .error e ∧ e ≠ .duplicatedContact

/-- **A row that fails takes the whole list back.** -/
theorem createMany_of_rowFails (hfails : RowFails enc server db visibleTenants key bodies) :
    ∃ e, createMany enc server db (some visibleTenants) key bodies = (.error e, db) := by
  obtain ⟨p, before, body, i, after, t, e, hp, hsplit, hbefore, hone, hne⟩ := hfails
  cases hr : createMany enc server db (some visibleTenants) key bodies with
  | mk r db' =>
  rcases newSession_snd hr with ⟨e', rfl, rfl⟩ | ⟨r', rfl, -⟩
  · exact ⟨e', rfl⟩
  -- otherwise no error was collected, and so the row was created or passed over
  exfalso
  obtain ⟨p', t', hp', hloop, herrors, -⟩ := createMany_ok hr
  rw [hp] at hp'
  cases hp'
  rw [hsplit, List.foldlM_append, hbefore] at hloop
  obtain ⟨t₁, hnext, hrest⟩ :=
    bind_eq_ok.1 (show List.foldlM _ t ((body, i) :: after) = _ from hloop)
  have hnone := (loop_spec hrest herrors).1
  rcases createNext_cases hnext with ⟨w, hone', -⟩ | ⟨hdup, -⟩ | ⟨m, a, k, d, -, rfl⟩
  · rw [hone] at hone'
    cases hone'
  · rw [hone] at hdup
    exact hne (Except.error.inj hdup)
  · simp at hnone

/-- An import that did nothing: it raised, or reported errors. -/
def ImportFailed (db : Database)
    (r : Except DirdError (List ContactBody × List ContactEntryError) × Database) : Prop :=
  r.2 = db ∧ ((∃ e, r.1 = .error e) ∨ ∃ errors, errors ≠ [] ∧ r.1 = .ok ([], errors))

/-- **What makes an import fail**: a contact that does not pass the check,
a phonebook the tenants do not see, a row that cannot be created. -/
inductive ImportFails (enc : Encoding) (server : Server) (db : Database)
    (visibleTenants : List Uuid) (key : PhonebookKey) (raws : List RawContact) : Prop
  | invalid {raw : RawContact} {e : DirdError} (hraw : raw ∈ raws)
      (he : validateContact raw = .error e)
  | notVisible (hp : ∀ p ∈ db.phonebooks, phonebookSelector (some visibleTenants) key p = false)
  | row (hrow : RowFails enc server db visibleTenants key
      (raws.map fun raw => raw.named.erase "id"))

/-- An import that must fail does nothing. -/
theorem importFailed_of_fails {raws : List RawContact}
    (h : ImportFails enc server db visibleTenants key raws) :
    ImportFailed db (importContacts enc server db visibleTenants key raws) := by
  by_cases hvalid : importErrors raws = []
  · rw [importContacts, if_neg (not_not.2 hvalid), importBodies_eq hvalid]
    suffices ∃ e, createMany enc server db (some visibleTenants) key
        (raws.map fun raw => raw.named.erase "id") = (.error e, db) by
      obtain ⟨e, he⟩ := this
      rw [he]
      exact ⟨rfl, Or.inl ⟨e, rfl⟩⟩
    cases h with
    | invalid hraw he =>
        obtain ⟨body, hbody⟩ := importErrors_eq_nil.1 hvalid _ hraw
        rw [he] at hbody
        cases hbody
    | notVisible hp =>
        have hnone : db.phonebooks.find? (phonebookSelector (some visibleTenants) key) = none :=
          List.find?_eq_none.2 fun p hpm => Bool.eq_false_iff.1 (hp p hpm)
        refine ⟨.noSuchPhonebook key (some visibleTenants), ?_⟩
        rw [createMany, getPhonebook, hnone]
        rfl
    | row hrow => exact createMany_of_rowFails hrow
  · rw [importContacts, if_pos hvalid]
    exact ⟨rfl, Or.inr ⟨_, hvalid, rfl⟩⟩

/-- **An import that is answered without an error** is one of contacts that
pass the check; when they are of texts, it leaves what `Imported` says and
returns what `Returned` does. -/
theorem importContacts_ok (hsha : Function.Injective enc.sha1) (hs : Start s₀)
    (hrun : Run (Guarded (fun _ call => ∀ body ∈ call.bodies, body.get? "id" = none) (Step enc))
      s₀ calls s) {raws : List RawContact} {answer : List ContactBody}
    (h : importContacts enc server s.db visibleTenants key raws = (.ok (answer, []), db')) :
    importErrors raws = [] ∧ ∃ p created, getPhonebook s.db (some visibleTenants) key = .ok p ∧
      answer = created.map WrittenContact.fieldsDict ∧
      ((∀ raw ∈ raws, ∀ k v, (some k, v) ∈ raw.entries → ∃ a, v = .str a) →
        Imported enc s p.uuid (raws.map fun raw => raw.named.erase "id") created
          (afterImport s db' created) ∧
        Returned enc s p.uuid (raws.map fun raw => raw.named.erase "id") answer
          (afterImport s db' created)) := by
  by_cases hvalid : importErrors raws = []
  swap
  · rw [importContacts, if_pos hvalid, Prod.mk.injEq, Except.ok.injEq, Prod.mk.injEq] at h
    exact absurd h.1.2 hvalid
  refine ⟨hvalid, ?_⟩
  rw [importContacts, if_neg (not_not.2 hvalid), importBodies_eq hvalid] at h
  cases hcreate : createMany enc server s.db (some visibleTenants) key
    (raws.map fun raw => raw.named.erase "id") with
  | mk r db₁ =>
  rw [hcreate] at h
  cases r with
  | error e => cases h
  | ok r =>
  obtain ⟨p, t, hp, hloop, herrors, rfl, rfl⟩ := createMany_ok hcreate
  cases h
  refine ⟨p, t.good, hp, rfl, fun htexts => ?_⟩
  obtain ⟨-, created, hgood, happ, hcover⟩ := loop_spec hloop herrors
  obtain ⟨created', hgood', hsub, -⟩ := writes_of_loop hloop
  obtain rfl : created = created' := List.append_cancel_left (hgood.symm.trans hgood')
  obtain rfl : t.good = created := hgood
  have hbodies : ∀ b ∈ raws.map fun raw => raw.named.erase "id",
      b.get? "id" = none ∧ Within (fun v => ∃ a, v = .str a) b := by
    refine List.forall_mem_map.2 fun raw hraw => ?_
    obtain ⟨body, hbody⟩ := importErrors_eq_nil.1 hvalid raw hraw
    obtain ⟨hid, hwithin, -⟩ := validateContact_spec hbody (htexts raw hraw)
    rw [(validateContact_ok hbody).1] at hid hwithin
    exact ⟨hid, hwithin⟩
  -- the store after the import is one more of the run
  obtain ⟨hkept, hids⟩ := Kept.run hs hrun
  have hnext : s.next enc server
      (.createMany (some visibleTenants) key (raws.map fun raw => raw.named.erase "id")) =
        afterImport s t.db t.good := by
    simp only [Store.next, Call.run, report, hcreate, afterImport]
  have hguard : ∀ b ∈ (Call.createMany (some visibleTenants) key
      (raws.map fun raw => raw.named.erase "id")).bodies, b.get? "id" = none :=
    fun b hb => (hbodies b hb).1
  obtain ⟨hkept', -⟩ := Kept.run hs (Run.snoc hrun ⟨hguard, server, hnext.symm⟩)
  rw [List.zipIdx_map_fst] at hsub
  have himported := hkept.imported hids hsha hkept' happ hsub hbodies fun b hb => by
    obtain ⟨i, hi⟩ := List.mem_iff_getElem?.1 hb
    exact hcover (b, i) (List.mk_mem_zipIdx_iff_getElem?.2 hi)
  exact ⟨himported, himported.returned fun b hb => (hbodies b hb).1⟩

/-- **An import is all or nothing, and creates each new body once.** In
every state a run of the service's writes reaches, importing contacts of
texts fails and leaves the database as it was, as it does when a contact
is invalid, the phonebook is not seen, or a row cannot be created; or it
is what `Imported` says, and returns what `Returned` says. -/
theorem importContacts_allOrNothing (hsha : Function.Injective enc.sha1) (hs : Start s₀)
    (hrun : Run (Guarded (fun _ call => ∀ body ∈ call.bodies, body.get? "id" = none) (Step enc))
      s₀ calls s) {raws : List RawContact}
    (htexts : ∀ raw ∈ raws, ∀ k v, (some k, v) ∈ raw.entries → ∃ a, v = .str a)
    {r : Except DirdError (List ContactBody × List ContactEntryError)}
    (h : importContacts enc server s.db visibleTenants key raws = (r, db')) :
    (ImportFailed s.db (r, db') ∨
      ∃ p created, getPhonebook s.db (some visibleTenants) key = .ok p ∧
        r = .ok (created.map WrittenContact.fieldsDict, []) ∧
        Imported enc s p.uuid (raws.map fun raw => raw.named.erase "id") created
          (afterImport s db' created) ∧
        Returned enc s p.uuid (raws.map fun raw => raw.named.erase "id")
          (created.map WrittenContact.fieldsDict) (afterImport s db' created)) ∧
    (ImportFails enc server s.db visibleTenants key raws → ImportFailed s.db (r, db')) := by
  constructor
  · by_cases hvalid : importErrors raws = []
    · have himport := h
      rw [importContacts, if_neg (not_not.2 hvalid), importBodies_eq hvalid] at h
      cases hcreate : createMany enc server s.db (some visibleTenants) key
        (raws.map fun raw => raw.named.erase "id") with
      | mk r' db₁ =>
      rw [hcreate] at h
      obtain ⟨rfl, rfl⟩ := Prod.mk.inj h
      rcases newSession_snd hcreate with ⟨e, rfl, rfl⟩ | ⟨r₁, rfl, -⟩
      · exact Or.inl ⟨rfl, Or.inl ⟨e, rfl⟩⟩
      obtain ⟨-, t, -, -, -, rfl, rfl⟩ := createMany_ok hcreate
      obtain ⟨-, p, created, hp, hanswer, himported⟩ := importContacts_ok hsha hs hrun himport
      obtain ⟨himported, hreturned⟩ := himported htexts
      refine Or.inr ⟨p, created, hp, ?_, himported, hanswer ▸ hreturned⟩
      rw [← hanswer]
      rfl
    · rw [importContacts, if_pos hvalid] at h
      obtain ⟨rfl, rfl⟩ := Prod.mk.inj h
      exact Or.inl ⟨rfl, Or.inr ⟨_, hvalid, rfl⟩⟩
  · intro hfails
    rw [← h]
    exact importFailed_of_fails hfails

end Import

/-- A contact that stands twice in the list is created once. -/
theorem importContacts_allOrNothing_twice :
    ∃ created db', importContacts Encoding.plain Server.plain onePhonebook.db ["t"] (.uuid "p")
        [rawText "name" "Alice", rawText "name" "Alice"] =
          (.ok (created.map WrittenContact.fieldsDict, []), db') ∧
      created.length = 1 ∧
      Imported Encoding.plain onePhonebook "p"
        [Dict.ofList [("name", .str "Alice")], Dict.ofList [("name", .str "Alice")]] created
        (afterImport onePhonebook db' created) ∧
      Returned Encoding.plain onePhonebook "p"
        [Dict.ofList [("name", .str "Alice")], Dict.ofList [("name", .str "Alice")]]
        (created.map WrittenContact.fieldsDict) (afterImport onePhonebook db' created) := by
  have himport : importContacts Encoding.plain Server.plain onePhonebook.db ["t"] (.uuid "p")
      [rawText "name" "Alice", rawText "name" "Alice"] = (.ok (_ :: [], []), _) := rfl
  have htexts : ∀ raw ∈ [rawText "name" "Alice", rawText "name" "Alice"],
      ∀ k v, (some k, v) ∈ raw.entries → ∃ a, v = .str a := by
    intro raw hraw k v hkv
    have hraw : raw = rawText "name" "Alice" := by simpa using hraw
    rw [hraw] at hkv
    exact texts_rawText "name" "Alice" _ hkv
  rcases (importContacts_allOrNothing Function.injective_id start_onePhonebook (Run.nil _)
    htexts himport).1 with
    ⟨-, ⟨e, he⟩ | ⟨errors, -, herrors⟩⟩ | ⟨p, created, hp, hr, himported⟩
  · cases he
  · cases herrors
  · rw [getPhonebook_onePhonebook] at hp
    cases hp
    refine ⟨created, _, himport.trans (congrArg (·, _) hr), ?_, himported⟩
    have hlen := congrArg (fun l => l.1.length) (Except.ok.inj hr)
    simpa using hlen.symm

end PhonebookContacts

end WazoDird
