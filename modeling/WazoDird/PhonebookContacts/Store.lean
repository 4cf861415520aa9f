import WazoDird.Database.Queries.PhonebookContactCRUD

/-!
# The contacts of the phonebooks, over a run

One transition system for everything that writes the contacts of the
phonebooks: the four writers of `PhonebookContactCRUD`, and phonebooks
created, edited and deleted. Beside the database a run keeps the body
each contact was last written with, which no row holds; the invariant
`Kept` says what the rows of a contact make of that body, and that a hash
names one contact of a phonebook.
-/

namespace WazoDird

open PhonebookContactCRUD

namespace PhonebookContacts

/-- **A call of a writer.** -/
inductive Call where
  | create (visibleTenants : Option (List Uuid)) (key : PhonebookKey) (body : ContactBody)
  | createMany (visibleTenants : Option (List Uuid)) (key : PhonebookKey)
      (bodies : List ContactBody)
  | edit (visibleTenants : Option (List Uuid)) (key : PhonebookKey) (contactUuid : String)
      (body : ContactBody)
  | delete (visibleTenants : Option (List Uuid)) (key : PhonebookKey) (contactUuid : String)
  | createPhonebook (defaults : PhonebookDefaults) (tenantUuid : Uuid) (body : PhonebookBody)
  | editPhonebook (visibleTenants : List Uuid) (key : PhonebookKey) (body : PhonebookBody)
  | deletePhonebook (visibleTenants : List Uuid) (key : PhonebookKey)

/-- The contact bodies of a call. -/
def Call.bodies : Call → List ContactBody
  | create _ _ body | edit _ _ _ body => [body]
  | createMany _ _ bodies => bodies
  | delete .. | createPhonebook .. | editPhonebook .. | deletePhonebook .. => []

/-- The database, and the body each contact was last written with. -/
structure Store where
  db : Database
  written : Dict Uuid ContactBody := ∅

/-- Note a write. -/
def note (written : Dict Uuid ContactBody) : Write → Dict Uuid ContactBody
  | .created w | .edited w => written.set w.uuid w.body
  | .deleted uuid => written.erase uuid

/-- What a call left, and the writes it made when it did not raise. -/
def report {α : Type} (writes : α → List Write) (r : Except DirdError α × Database) :
    List Write × Database :=
  (match r.1 with
    | .ok a => writes a
    | .error _ => [], r.2)

variable (enc : Encoding)

/-- The writes of a call, and the database it leaves. -/
def Call.run (server : Server) (db : Database) : Call → List Write × Database
  | create visibleTenants key body =>
      report (fun w => [.created w])
        (PhonebookContactCRUD.create enc server db visibleTenants key body)
  | createMany visibleTenants key bodies =>
      report (fun r => r.1.map .created)
        (PhonebookContactCRUD.createMany enc server db visibleTenants key bodies)
  | edit visibleTenants key contactUuid body =>
      report (fun w => [.edited w])
        (PhonebookContactCRUD.edit enc server db visibleTenants key contactUuid body)
  | delete visibleTenants key contactUuid =>
      report (fun _ => [.deleted contactUuid])
        (PhonebookContactCRUD.delete db visibleTenants key contactUuid)
  | createPhonebook defaults tenantUuid body =>
      ([], (PhonebookCRUD.create db defaults tenantUuid body).2)
  | editPhonebook visibleTenants key body =>
      ([], (PhonebookCRUD.edit db (some visibleTenants) key body).2)
  | deletePhonebook visibleTenants key =>
      ([], (PhonebookCRUD.delete db (some visibleTenants) key).2)

/-- The store a call leaves. -/
def Store.next (server : Server) (s : Store) (call : Call) : Store :=
  ⟨(call.run enc server s.db).2, (call.run enc server s.db).1.foldl note s.written⟩

/-- **One call**, under some answers of the server. -/
def Step (s : Store) (call : Call) (s' : Store) : Prop :=
  ∃ server, s' = s.next enc server call

/-- **Where a run starts**: no phonebook has a contact. The contacts of
the users may be there. -/
structure Start (s : Store) : Prop where
  uuids : (s.db.contacts.map Contact.uuid).Nodup
  owned : ∀ f ∈ s.db.contactFields, ∃ c ∈ s.db.contacts, c.uuid = f.contactUuid
  personal : ∀ c ∈ s.db.contacts, c.phonebookUuid = none
  unwritten : s.written = ∅

/-- **What the rows of a contact make of the body it was last written
with**: the row its hash; the name/value rows the texts of the body, and
the id as often as the body has items. -/
structure Represents (s : Store) (c : Contact) (body : ContactBody) : Prop where
  written : s.written.get? c.uuid = some body
  hash : c.hash = enc.computeContactHash body
  fields : ∃ texts, enc.columnTexts body = .ok texts ∧
    fieldsOf s.db.contactFields c.uuid =
      texts ++ List.replicate body.entries.length ("id", some c.uuid)

/-- **The invariant.** -/
structure Kept (s : Store) : Prop where
  /-- A uuid names one contact. -/
  uuids : (s.db.contacts.map Contact.uuid).Nodup
  /-- No row is left of a contact that is gone. -/
  owned : ∀ f ∈ s.db.contactFields, ∃ c ∈ s.db.contacts, c.uuid = f.contactUuid
  /-- Each contact of a phonebook is that of its last body. -/
  stored : ∀ c ∈ s.db.contacts, c.phonebookUuid.isSome → ∃ body, Represents enc s c body
  /-- A hash names one contact of a phonebook. -/
  hashes : ∀ c ∈ s.db.contacts, ∀ d ∈ s.db.contacts, c.phonebookUuid.isSome →
    c.phonebookUuid = d.phonebookUuid → c.hash = d.hash → c = d

variable {enc} {server : Server} {s s' : Store} {call : Call} {calls : List Call}

/-- The invariant holds where a run starts. -/
theorem Start.kept (h : Start s) : Kept enc s where
  uuids := h.uuids
  owned := h.owned
  stored c hc hp := by
    rw [h.personal c hc] at hp
    cases hp
  hashes c hc _ _ hp := by
    rw [h.personal c hc] at hp
    cases hp

/-! ## One write -/

/-- Contacts of a phonebook that clash in nothing have different hashes. -/
theorem hash_ne_of_clash {c d : Contact} (h : c.clash d = false) (hp : c.phonebookUuid.isSome)
    (hcd : c.phonebookUuid = d.phonebookUuid) : c.hash ≠ d.hash := by
  intro hh
  simp [Contact.clash, hh, hcd ▸ hp, hcd] at h

/-- A contact keeps what represents it when its rows and its last body
stay. -/
theorem Represents.congr {c : Contact} {body : ContactBody} (h : Represents enc s c body)
    (hw : s'.written.get? c.uuid = s.written.get? c.uuid)
    (hf : fieldsOf s'.db.contactFields c.uuid = fieldsOf s.db.contactFields c.uuid) :
    Represents enc s' c body := by
  refine ⟨hw.trans h.written, h.hash, ?_⟩
  rw [hf]
  exact h.fields

/-- **A contact created keeps the invariant.** -/
theorem Kept.created (h : Kept enc s) {p : Phonebook} {w : WrittenContact}
    {fields : List ContactFields} (hfields : setContactFields enc w.uuid w.body = .ok fields)
    (hnew : ∀ c ∈ s.db.contacts, (contactRow enc p.uuid w).clash c = false) :
    Kept enc
      ⟨{ s.db with
          contacts := s.db.contacts ++ [contactRow enc p.uuid w]
          contactFields := s.db.contactFields ++ fields },
        note s.written (.created w)⟩ := by
  have huuid : ∀ c ∈ s.db.contacts, c.uuid ≠ w.uuid :=
    fun c hc => Contact.uuid_ne_of_clash (hnew c hc)
  obtain ⟨hown, texts, htexts, hof⟩ := setContactFields_ok hfields
  have hrows : ∀ f ∈ s.db.contactFields, f.contactUuid ≠ w.uuid := by
    intro f hf hfw
    obtain ⟨c, hc, hcf⟩ := h.owned f hf
    exact huuid c hc (hcf.trans hfw)
  refine ⟨keys_append h.uuids huuid, ?_, ?_, ?_⟩
  · intro f hf
    rcases List.mem_append.1 hf with hf | hf
    · obtain ⟨c, hc, hcf⟩ := h.owned f hf
      exact ⟨c, List.mem_append_left _ hc, hcf⟩
    · exact ⟨contactRow enc p.uuid w, by simp, (hown f hf).symm⟩
  · intro c hc hp
    rcases List.mem_append.1 hc with hc | hc
    · obtain ⟨body, hbody⟩ := h.stored c hc hp
      refine ⟨body, hbody.congr (Dict.get?_set_of_ne _ _ (huuid c hc).symm) ?_⟩
      have hnil : fieldsOf fields c.uuid = [] :=
        fieldsOf_eq_nil fun f hf hfc => huuid c hc (hfc.symm.trans (hown f hf))
      rw [fieldsOf_append, hnil, List.append_nil]
    · obtain rfl := List.mem_singleton.1 hc
      refine ⟨w.body, Dict.get?_set_self _ _ _, rfl, texts, htexts, ?_⟩
      rw [fieldsOf_append]
      simp only [contactRow]
      rw [fieldsOf_eq_nil hrows, List.nil_append, hof]
  · intro c hc d hd hp hcd hh
    rcases List.mem_append.1 hc with hc | hc
    · rcases List.mem_append.1 hd with hd | hd
      · exact h.hashes c hc d hd hp hcd hh
      · obtain rfl := List.mem_singleton.1 hd
        exact absurd hh.symm (hash_ne_of_clash (hnew c hc) (hcd ▸ hp) hcd.symm)
    · obtain rfl := List.mem_singleton.1 hc
      rcases List.mem_append.1 hd with hd | hd
      · exact absurd hh (hash_ne_of_clash (hnew d hd) hp hcd)
      · exact (List.mem_singleton.1 hd).symm

/-- **A contact edited keeps the invariant.** -/
theorem Kept.edited (h : Kept enc s) {c : Contact} (hc : c ∈ s.db.contacts) {body : ContactBody}
    {fields : List ContactFields} (hfields : setContactFields enc c.uuid body = .ok fields)
    (hnew : ∀ d ∈ s.db.contacts, d.uuid ≠ c.uuid →
      { c with hash := enc.computeContactHash body }.clash d = false) :
    Kept enc
      ⟨{ s.db with
          contacts := s.db.contacts.map fun d =>
            if d.uuid = c.uuid then { c with hash := enc.computeContactHash body } else d
          contactFields := s.db.contactFields.filter (·.contactUuid ≠ c.uuid) ++ fields },
        note s.written (.edited ⟨c.uuid, body⟩)⟩ := by
  obtain ⟨hown, texts, htexts, hof⟩ := setContactFields_ok hfields
  let c' : Contact := { c with hash := enc.computeContactHash body }
  -- the contacts afterwards: the one edited, and the others as they were
  have hcases : ∀ d ∈ s.db.contacts.map (fun d => if d.uuid = c.uuid then c' else d),
      d = c' ∨ d ∈ s.db.contacts ∧ d.uuid ≠ c.uuid := by
    intro d hd
    obtain ⟨d₀, hd₀, rfl⟩ := List.mem_map.1 hd
    split
    · exact Or.inl rfl
    · next hne => exact Or.inr ⟨hd₀, hne⟩
  have hmem : c' ∈ s.db.contacts.map fun d => if d.uuid = c.uuid then c' else d :=
    List.mem_map.2 ⟨c, hc, if_pos rfl⟩
  refine ⟨?_, ?_, ?_, ?_⟩
  · have hkeys : (s.db.contacts.map fun d => if d.uuid = c.uuid then c' else d).map Contact.uuid =
        s.db.contacts.map Contact.uuid := keys_replace rfl
    rw [hkeys]
    exact h.uuids
  · intro f hf
    rcases List.mem_append.1 hf with hf | hf
    · obtain ⟨hf, hne⟩ := List.mem_filter.1 hf
      obtain ⟨d, hd, hdf⟩ := h.owned f hf
      have hne : f.contactUuid ≠ c.uuid := by simpa using hne
      exact ⟨d, List.mem_map.2 ⟨d, hd, if_neg (hdf ▸ hne)⟩, hdf⟩
    · exact ⟨c', hmem, (hown f hf).symm⟩
  · intro d hd hp
    rcases hcases d hd with rfl | ⟨hd, hne⟩
    · refine ⟨body, Dict.get?_set_self _ _ _, rfl, texts, htexts, ?_⟩
      have hnil : fieldsOf (s.db.contactFields.filter (·.contactUuid ≠ c.uuid)) c.uuid = [] :=
        fieldsOf_eq_nil fun f hf => by simpa using (List.mem_filter.1 hf).2
      rw [fieldsOf_append]
      exact (congrArg (· ++ fieldsOf fields c.uuid) hnil).trans hof
    · obtain ⟨body', hbody⟩ := h.stored d hd hp
      refine ⟨body', hbody.congr (Dict.get?_set_of_ne _ _ hne.symm) ?_⟩
      have hnil : fieldsOf fields d.uuid = [] :=
        fieldsOf_eq_nil fun f hf hfd => hne (hfd.symm.trans (hown f hf))
      rw [fieldsOf_append, hnil, List.append_nil]
      exact fieldsOf_filter fun f _ hfd => by simpa [hfd] using hne
  · intro d hd e he hp hde hh
    rcases hcases d hd with rfl | ⟨hd, hdne⟩
    · rcases hcases e he with rfl | ⟨he, hene⟩
      · rfl
      · exact absurd hh (hash_ne_of_clash (hnew e he hene) hp hde)
    · rcases hcases e he with rfl | ⟨he, -⟩
      · exact absurd hh.symm (hash_ne_of_clash (hnew d hd hdne) (hde ▸ hp) hde.symm)
      · exact h.hashes d hd e he hp hde hh

/-- **Contacts dropped with their rows keep the invariant**, when the last
bodies of the others stay. -/
theorem Kept.dropped (h : Kept enc s) (q : Contact → Bool)
    (hcontacts : s'.db.contacts = s.db.contacts.filter fun c => !q c)
    (hfields : s'.db.contactFields = s.db.contactFields.filter fun f =>
      !(s.db.contacts.any fun c => q c && c.uuid = f.contactUuid))
    (hwritten : ∀ c ∈ s.db.contacts, q c = false →
      s'.written.get? c.uuid = s.written.get? c.uuid) :
    Kept enc s' := by
  have hmem : ∀ c ∈ s'.db.contacts, c ∈ s.db.contacts ∧ q c = false := by
    intro c hc
    rw [hcontacts] at hc
    exact ⟨(List.mem_filter.1 hc).1, by simpa using (List.mem_filter.1 hc).2⟩
  refine ⟨?_, ?_, ?_, ?_⟩
  · rw [hcontacts]
    exact keys_filter h.uuids _
  · intro f hf
    rw [hfields] at hf
    obtain ⟨hf, hkeep⟩ := List.mem_filter.1 hf
    obtain ⟨c, hc, hcf⟩ := h.owned f hf
    refine ⟨c, ?_, hcf⟩
    rw [hcontacts, List.mem_filter]
    refine ⟨hc, ?_⟩
    rw [Bool.not_eq_true', List.any_eq_false] at hkeep
    simpa [hcf] using hkeep c hc
  · intro c hc hp
    obtain ⟨hc, hq⟩ := hmem c hc
    obtain ⟨body, hbody⟩ := h.stored c hc hp
    refine ⟨body, hbody.congr (hwritten c hc hq) ?_⟩
    rw [hfields]
    exact fieldsOf_dropContacts h.uuids hc hq
  · intro c hc d hd
    exact h.hashes c (hmem c hc).1 d (hmem d hd).1

/-- **Every write keeps the invariant.** -/
theorem Kept.write (h : Kept enc s) {w : Write} {db' : Database} (hw : Writes enc s.db w db') :
    Kept enc ⟨db', note s.written w⟩ := by
  cases hw with
  | created _ hfields hnew => exact h.created hfields hnew
  | edited hc _ hfields hnew => exact h.edited hc hfields hnew
  | @deleted _ c hc _ =>
    refine h.dropped (fun d => d.uuid = c.uuid) rfl rfl fun d _ hd => ?_
    have hne : c.uuid ≠ d.uuid := fun hcd => by simp [hcd] at hd
    simp only [note]
    rw [Dict.get?_erase, if_neg hne]

/-! ## One call, and a run -/

/-- Writes one after the other keep the invariant. -/
theorem Kept.writes (h : Kept enc s) {ws : List Write} {db' : Database}
    (hrun : Run (Writes enc) s.db ws db') : Kept enc ⟨db', ws.foldl note s.written⟩ := by
  induction hrun with
  | nil => exact h
  | snoc _ hw ih =>
      rw [List.foldl_append]
      exact ih.write hw

/-- A call that did nothing, or made a run of writes, reports a run of
writes. -/
theorem run_report {α : Type} {db : Database} {f : α → List Write}
    {r : Except DirdError α × Database}
    (h : (∃ e, r.1 = .error e ∧ r.2 = db) ∨
      ∃ a, r.1 = .ok a ∧ Run (Writes enc) db (f a) r.2) :
    Run (Writes enc) db (report f r).1 (report f r).2 := by
  obtain ⟨r, db'⟩ := r
  rcases h with ⟨e, rfl, rfl⟩ | ⟨a, rfl, hrun⟩
  · exact Run.nil _
  · exact hrun

/-- A call that manages phonebooks and touches no contact keeps the
invariant. -/
theorem Kept.same (h : Kept enc s) {db' : Database} (hc : db'.contacts = s.db.contacts)
    (hf : db'.contactFields = s.db.contactFields) : Kept enc ⟨db', s.written⟩ := by
  refine h.dropped (fun _ => false) (by simp [hc]) ?_ fun _ _ _ => rfl
  show db'.contactFields = _
  rw [hf, List.filter_eq_self.2 fun f _ => by simp]

/-- **Every call keeps the invariant.** -/
theorem Kept.next (h : Kept enc s) (server : Server) (call : Call) :
    Kept enc (s.next enc server call) := by
  cases call with
  | create visibleTenants key body =>
      refine h.writes (run_report ?_)
      rcases create_cases (Prod.eta (create enc server s.db visibleTenants key body)).symm with
        herr | ⟨p, w, hr, -, hone⟩
      · exact Or.inl herr
      · exact Or.inr ⟨w, hr, Run.single (writes_of_createOne hone)⟩
  | createMany visibleTenants key bodies =>
      refine h.writes (run_report ?_)
      rcases createMany_cases (Prod.eta (createMany enc server s.db visibleTenants key bodies)).symm
        with herr | ⟨created, hr, -, hrun⟩
      · exact Or.inl herr
      · exact Or.inr ⟨(created, []), hr, hrun⟩
  | edit visibleTenants key uuid body =>
      refine h.writes (run_report ?_)
      rcases edit_cases (Prod.eta (edit enc server s.db visibleTenants key uuid body)).symm with
        herr | ⟨p, c, fields, hr, rfl, -, hc, hcp, hfields, hnew, hdb⟩
      · exact Or.inl herr
      · refine Or.inr ⟨_, hr, Run.single ?_⟩
        rw [hdb]
        exact .edited hc hcp hfields hnew
  | delete visibleTenants key uuid =>
      refine h.writes (run_report ?_)
      have hcases :
          _ ∨ _ ∧ Writes enc s.db (.deleted uuid) (delete s.db visibleTenants key uuid).2 :=
        delete_cases (Prod.eta (delete s.db visibleTenants key uuid)).symm
      rcases hcases with herr | ⟨hr, hw⟩
      · exact Or.inl herr
      · exact Or.inr ⟨_, hr, Run.single hw⟩
  | createPhonebook defaults tenantUuid body =>
      rcases PhonebookCRUD.create_cases
        (Prod.eta (PhonebookCRUD.create s.db defaults tenantUuid body)).symm with
        ⟨e, -, hdb⟩ | ⟨p, -, hdb, -⟩
      · exact h.same (congrArg Database.contacts hdb) (congrArg Database.contactFields hdb)
      · exact h.same ((congrArg Database.contacts hdb).trans (s.db.createTenant_contacts _))
          ((congrArg Database.contactFields hdb).trans (s.db.createTenant_contactFields _))
  | editPhonebook visibleTenants key body =>
      rcases PhonebookCRUD.edit_cases
        (Prod.eta (PhonebookCRUD.edit s.db (some visibleTenants) key body)).symm with
        ⟨e, -, hdb⟩ | ⟨p, -, p', -, -, -, -, hdb⟩
      · exact h.same (congrArg Database.contacts hdb) (congrArg Database.contactFields hdb)
      · exact h.same (congrArg Database.contacts hdb :) (congrArg Database.contactFields hdb :)
  | deletePhonebook visibleTenants key =>
      rcases PhonebookCRUD.delete_cases
        (Prod.eta (PhonebookCRUD.delete s.db (some visibleTenants) key)).symm with
        ⟨e, -, hdb⟩ | ⟨p, -, -, -, -, hdb⟩
      · exact h.same (congrArg Database.contacts hdb) (congrArg Database.contactFields hdb)
      · refine h.dropped _ (congrArg Database.contacts hdb) (congrArg Database.contactFields hdb)
          fun _ _ _ => rfl

/-! ## The bodies written -/

/-- The bodies contacts were last written with have a property. -/
def Store.BodiesAre (P : ContactBody → Prop) (s : Store) : Prop :=
  ∀ uuid body, s.written.get? uuid = some body → P body

/-- A write of a body with a property. -/
theorem Store.BodiesAre.note {P : ContactBody → Prop} {db : Database} (h : s.BodiesAre P)
    {w : Write} (hw : ∀ body, w.body = some body → P body) :
    (⟨db, note s.written w⟩ : Store).BodiesAre P := by
  intro uuid body hget
  have hset : ∀ c : WrittenContact, P c.body →
      (s.written.set c.uuid c.body).get? uuid = some body → P body := by
    intro c hc hget
    rw [Dict.get?_set] at hget
    split at hget
    · cases hget
      exact hc
    · exact h uuid body hget
  cases w with
  | created c => exact hset c (hw c.body rfl) hget
  | edited c => exact hset c (hw c.body rfl) hget
  | deleted uuid' =>
      simp only [PhonebookContacts.note, Dict.get?_erase] at hget
      split at hget
      · cases hget
      · exact h uuid body hget

/-- Writes of bodies with a property. -/
theorem Store.BodiesAre.foldl_note {P : ContactBody → Prop} {db : Database} (h : s.BodiesAre P)
    {ws : List Write} (hws : ∀ w ∈ ws, ∀ body, w.body = some body → P body) :
    (⟨db, ws.foldl PhonebookContacts.note s.written⟩ : Store).BodiesAre P := by
  induction ws generalizing s with
  | nil => exact h
  | cons w ws ih =>
      have hone : (⟨db, PhonebookContacts.note s.written w⟩ : Store).BodiesAre P :=
        h.note (hws w List.mem_cons_self)
      exact ih hone fun w' hw' => hws w' (List.mem_cons_of_mem _ hw')

/-- A write reported is one of a call that did not raise. -/
theorem mem_report {α : Type} {f : α → List Write} {r : Except DirdError α × Database} {w : Write}
    (hw : w ∈ (report f r).1) : ∃ a, r.1 = .ok a ∧ w ∈ f a := by
  obtain ⟨r, db'⟩ := r
  cases r with
  | error e => cases hw
  | ok a => exact ⟨a, rfl, hw⟩

/-- **A call writes bodies of its own.** -/
theorem mem_bodies_of_run {server : Server} {db : Database} {w : Write}
    (hw : w ∈ (call.run enc server db).1) {body : ContactBody} (hbody : w.body = some body) :
    body ∈ call.bodies := by
  cases call with
  | create visibleTenants key body₀ =>
      obtain ⟨c, hr, hw⟩ := mem_report hw
      rcases create_cases (Prod.eta (create enc server db visibleTenants key body₀)).symm with
        ⟨e, herr, -⟩ | ⟨p, c', hr', -, hone⟩
      · rw [hr] at herr
        cases herr
      · rw [hr] at hr'
        cases hr'
        obtain rfl := List.mem_singleton.1 hw
        cases hbody
        rw [(createOne_ok hone).1]
        exact List.mem_singleton_self _
  | createMany visibleTenants key bodies =>
      obtain ⟨r, hr, hw⟩ := mem_report hw
      rcases createMany_cases (Prod.eta (createMany enc server db visibleTenants key bodies)).symm
        with ⟨e, herr, -⟩ | ⟨created, hr', hsub, -⟩
      · rw [hr] at herr
        cases herr
      · rw [hr] at hr'
        cases hr'
        obtain ⟨c, hc, rfl⟩ := List.mem_map.1 hw
        cases hbody
        exact hsub.subset (List.mem_map_of_mem hc)
  | edit visibleTenants key uuid body₀ =>
      obtain ⟨c, hr, hw⟩ := mem_report hw
      rcases edit_cases (Prod.eta (edit enc server db visibleTenants key uuid body₀)).symm with
        ⟨e, herr, -⟩ | ⟨p, c', fields, hr', -⟩
      · rw [hr] at herr
        cases herr
      · rw [hr] at hr'
        cases hr'
        obtain rfl := List.mem_singleton.1 hw
        cases hbody
        exact List.mem_singleton_self _
  | delete visibleTenants key uuid =>
      obtain ⟨-, -, hw⟩ := mem_report hw
      obtain rfl := List.mem_singleton.1 hw
      cases hbody
  | createPhonebook | editPhonebook | deletePhonebook => cases hw

/-- **Every run keeps the invariant**, and what its calls' bodies have in
common. -/
theorem Kept.run {P : ContactBody → Prop} (hs : Start s)
    (hrun : Run (Guarded (fun _ call => ∀ body ∈ call.bodies, P body) (Step enc)) s calls s') :
    Kept enc s' ∧ s'.BodiesAre P := by
  have hnone : s.BodiesAre P := by
    intro uuid body hget
    rw [hs.unwritten] at hget
    cases hget
  refine hrun.invariant (I := fun s => Kept enc s ∧ s.BodiesAre P) ⟨hs.kept, hnone⟩ ?_
  rintro s call s' ⟨hkept, hbodies⟩ ⟨hguard, server, rfl⟩
  refine ⟨hkept.next server call, hbodies.foldl_note fun w hw body hbody => ?_⟩
  exact hguard body (mem_bodies_of_run hw hbody)

end PhonebookContacts

end WazoDird
