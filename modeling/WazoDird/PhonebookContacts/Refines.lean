import WazoDird.PhonebookContacts.CardReads
import WazoDird.PhonebookContacts.CardWrites

/-!
# The contacts of the phonebooks refine a book

Every call that writes the contacts of the phonebooks, or takes a phonebook
away with them, is a step of the book of cards with the answer that the
call gives, or none when its phonebook is not seen (`ShowsBook.step`); and
so every run of calls is a run of the book. What a book says of its runs
then holds of the store, whose readers show the cards that say something.
-/

namespace WazoDird

open PhonebookContactCRUD

namespace PhonebookContacts

/-! ## Calls with what they ask of the book -/

/-- **What a call asks of the book, and is answered**: nothing, when its
phonebook is not seen or it writes no contact. -/
def Call.told (enc : Encoding) (server : Server) (db : Database) :
    Call → Option (Book.Call Uuid Uuid Contents × Book.Answer)
  | create visibleTenants key body =>
      (getPhonebook db visibleTenants key).toOption.map fun p =>
        (.insert p.uuid (contentsOf body) none,
          answerOf (PhonebookContactCRUD.create enc server db visibleTenants key body).1)
  | createMany visibleTenants key bodies =>
      (getPhonebook db visibleTenants key).toOption.map fun p =>
        (.insertAll p.uuid (entriesOf bodies),
          answerOf (PhonebookContactCRUD.createMany enc server db visibleTenants key bodies).1)
  | edit visibleTenants key contactUuid body =>
      (getPhonebook db visibleTenants key).toOption.map fun p =>
        (.replace p.uuid contactUuid (contentsOf body),
          answerOf (PhonebookContactCRUD.edit enc server db visibleTenants key contactUuid body).1)
  | delete visibleTenants key contactUuid =>
      (getPhonebook db visibleTenants key).toOption.map fun p =>
        (.remove p.uuid contactUuid,
          answerOf (PhonebookContactCRUD.delete db visibleTenants key contactUuid).1)
  | createPhonebook .. | editPhonebook .. => none
  | deletePhonebook visibleTenants key =>
      (PhonebookCRUD.getByTenantAndId db (some visibleTenants) key).toOption.map fun p =>
        (.removeAll p.uuid, answerOf (PhonebookCRUD.delete db (some visibleTenants) key).1)

/-- The driver takes the uuid that a call is about, which has no null
character. -/
def Call.Sendable : Call → Prop
  | edit _ _ contactUuid _ | delete _ _ contactUuid => '\x00' ∉ contactUuid.toList
  | create .. | createMany .. | createPhonebook .. | editPhonebook .. | deletePhonebook .. => True

/-- **One call, with what it asks of the book and is answered**: of bodies
of texts that have no id. -/
def Answered (enc : Encoding) (s : Store)
    (a : Call × Option (Book.Call Uuid Uuid Contents × Book.Answer)) (s' : Store) : Prop :=
  ∃ server, a.1.Sendable ∧ (∀ body ∈ a.1.bodies, CardBody body) ∧
    a.2 = a.1.told enc server s.db ∧ s' = s.next enc server a.1

/-! ## A call is a step of the book -/

variable {enc : Encoding} {server : Server} {s s' : Store} {b b' : Book Uuid Uuid Contents}
  {visibleTenants : Option (List Uuid)} {key : PhonebookKey} {contactUuid : String}
  {body : ContactBody} {bodies : List ContactBody} {p : Phonebook} {call : Call}

/-- **A call is a step of the book**, or none, to what the store shows
next. -/
def Simulated (enc : Encoding) (server : Server) (s : Store) (b : Book Uuid Uuid Contents)
    (call : Call) : Prop :=
  ∃ b', Run Book.Step b (call.told enc server s.db).toList b' ∧
    ShowsBook enc (s.next enc server call) b'

/-- What the store shows after a call. -/
theorem ShowsBook.next (h : ShowsBook enc s b) (hbodies : ∀ body ∈ call.bodies, CardBody body)
    (hsole : Sole (s.next enc server call).db) :
    ∃ b', ShowsBook enc (s.next enc server call) b' := by
  have hnext : (s.next enc server call).BodiesAre CardBody :=
    h.bodies.foldl_note fun w hw body hbody => hbodies body (mem_bodies_of_run hw hbody)
  exact ⟨book _ (h.kept.next server call) hnext, h.kept.next server call, hnext, hsole, rfl⟩

/-- The store after a call is what the call reports. -/
theorem Store.next_eq {ws : List Write} {db' : Database}
    (h : call.run enc server s.db = (ws, db')) :
    s.next enc server call = ⟨db', ws.foldl note s.written⟩ := by
  rw [Store.next, h]

/-- A call that changes nothing and asks for nothing. -/
theorem ShowsBook.stays (h : ShowsBook enc s b) (hrun : call.run enc server s.db = ([], s.db))
    (htold : call.told enc server s.db = none) : Simulated enc server s b call := by
  rw [Simulated, htold, Store.next_eq hrun]
  exact ⟨b, Run.nil b, h⟩

/-- A call that changes nothing, whose answer is a step. -/
theorem ShowsBook.answered (h : ShowsBook enc s b) {c : Book.Call Uuid Uuid Contents}
    {answer : Book.Answer} (hrun : call.run enc server s.db = ([], s.db))
    (htold : call.told enc server s.db = some (c, answer)) (hstep : Book.Step b (c, answer) b) :
    Simulated enc server s b call := by
  rw [Simulated, htold, Store.next_eq hrun]
  exact ⟨b, Run.single hstep, h⟩

/-! ### Creations, outcome by outcome -/

section Create

variable {db' : Database} {w : WrittenContact}

/-- A creation in a phonebook that is seen. -/
theorem create_of_createOne (hp : getPhonebook s.db visibleTenants key = .ok p)
    {one : Except DirdError (Database × WrittenContact)}
    (hone : createOne enc server s.db 0 p.tenantUuid p.uuid body = one) :
    PhonebookContactCRUD.create enc server s.db visibleTenants key body = newSession s.db one ∧
      Call.told enc server s.db (.create visibleTenants key body) =
        some (.insert p.uuid (contentsOf body) none, answerOf (newSession s.db one).1) := by
  have hcreate : PhonebookContactCRUD.create enc server s.db visibleTenants key body =
      newSession s.db one := by
    rw [PhonebookContactCRUD.create, hp, ← hone]
    rfl
  refine ⟨hcreate, ?_⟩
  rw [Call.told, hp, hcreate]
  rfl

/-- A creation that raises: the phonebook has the contact, or it is
refused. -/
theorem ShowsBook.create_raised (hsha : Function.Injective enc.sha1) (h : ShowsBook enc s b)
    (hbody : CardBody body) (hp : getPhonebook s.db visibleTenants key = .ok p) {e : DirdError}
    (hone : createOne enc server s.db 0 p.tenantUuid p.uuid body = .error e) :
    Simulated enc server s b (.create visibleTenants key body) := by
  obtain ⟨hcreate, htold⟩ := create_of_createOne hp hone
  refine h.answered (by rw [Call.run, hcreate]; rfl) htold ?_
  by_cases hdup : e = .duplicatedContact
  · subst hdup
    exact .insertDuplicated ((h.has_iff hsha hbody).2 (createOne_duplicated hone))
  · have hrefused : answerOf (newSession s.db (.error e : Except DirdError
        (Database × WrittenContact))).1 = .refused := answerOf_createOne hone hdup
    rw [hrefused]
    refine .insertRefused fun hhas => ?_
    obtain ⟨c, hc, hcp, hhash⟩ := (h.has_iff hsha hbody).1 hhas
    exact new_of_createOne (exists_getPhonebook_uuid hp) hone hdup c hc hcp hhash

/-- A creation that is done inserts its contact. -/
theorem ShowsBook.create_done (hsha : Function.Injective enc.sha1) (h : ShowsBook enc s b)
    (hbody : CardBody body) (hp : getPhonebook s.db visibleTenants key = .ok p)
    (hone : createOne enc server s.db 0 p.tenantUuid p.uuid body = .ok (db', w)) :
    Simulated enc server s b (.create visibleTenants key body) := by
  obtain ⟨hcreate, htold⟩ := create_of_createOne hp hone
  have happ : Appended enc p.uuid s.db [w] db' := Appended.cons hone .nil
  have hnext : s.next enc server (.create visibleTenants key body) =
      afterImport s db' [w] := Store.next_eq (by rw [Call.run, hcreate]; rfl)
  have hsole : Sole (s.next enc server (.create visibleTenants key body)).db := by
    rw [hnext]
    exact happ.sole h.sole
  obtain ⟨b', h'⟩ := h.next (fun body' hbody' => by rwa [List.mem_singleton.1 hbody']) hsole
  refine ⟨b', ?_, h'⟩
  rw [hnext] at h'
  obtain ⟨rfl, -, -, q, fields, -, hq, -, hclash, hdb⟩ := createOne_ok hone
  have hcover : ∃ c ∈ db'.contacts, c.phonebookUuid = some p.uuid ∧
      c.hash = enc.computeContactHash w.body :=
    ⟨contactRow enc p.uuid w, by rw [happ.contacts]; simp, rfl, rfl⟩
  have hnew : ¬ b.Has p.uuid (contentsOf w.body) := by
    intro hhas
    obtain ⟨c, hc, hcp, hhash⟩ := (h.has_iff hsha hbody).1 hhas
    have hne := hash_ne_of_clash (hclash c hc) rfl
    exact hne (by rw [hcp, ← hq]; rfl) hhash.symm
  have hbodies : ∀ body' ∈ [w.body], CardBody body' := by
    intro body' hbody'
    rwa [List.mem_singleton.1 hbody']
  have hinserted : Book.Inserted b p.uuid (entriesOf [w.body]) b' := by
    refine h.inserted hsha h' happ (fun v hv => ?_) hbodies fun body' hbody' => ?_
    · rw [List.mem_singleton.1 hv]
      exact List.mem_singleton_self _
    · rwa [List.mem_singleton.1 hbody']
  rw [htold]
  exact Run.single (.inserted hnew hinserted)

/-- **A contact created.** -/
theorem ShowsBook.create (hsha : Function.Injective enc.sha1) (h : ShowsBook enc s b)
    (hbody : CardBody body) : Simulated enc server s b (.create visibleTenants key body) := by
  cases hp : getPhonebook s.db visibleTenants key with
  | error e =>
    refine h.stays ?_ ?_
    · rw [Call.run, PhonebookContactCRUD.create, hp]
      rfl
    · rw [Call.told, hp]
      rfl
  | ok p =>
    cases hone : createOne enc server s.db 0 p.tenantUuid p.uuid body with
    | error e => exact h.create_raised hsha hbody hp hone
    | ok r => exact h.create_done hsha hbody hp hone

end Create

/-! ### Batches, outcome by outcome -/

section CreateMany

variable {t : Created}

/-- What a batch asks, in a phonebook that is seen. -/
theorem told_createMany (hp : getPhonebook s.db visibleTenants key = .ok p) :
    Call.told enc server s.db (.createMany visibleTenants key bodies) =
      some (.insertAll p.uuid (entriesOf bodies), answerOf
        (PhonebookContactCRUD.createMany enc server s.db visibleTenants key bodies).1) := by
  rw [Call.told, hp]
  rfl

/-- What a batch does, once its loop has ended. -/
theorem createMany_of_loop (hp : getPhonebook s.db visibleTenants key = .ok p)
    {loop : Except DirdError Created}
    (hloop : bodies.zipIdx.foldlM (createNext enc server p.tenantUuid p.uuid) { db := s.db } =
      loop) :
    PhonebookContactCRUD.createMany enc server s.db visibleTenants key bodies =
      newSession s.db (loop >>= fun t => do
        raiseIf (t.errors ≠ []) (.contactsCreation "Failed to create contacts" t.errors)
        return (t.db, (t.good, t.errors))) := by
  rw [PhonebookContactCRUD.createMany, hp, ← hloop]
  rfl

/-- A batch that goes wrong had a contact to create that the phonebook has
not. -/
theorem ShowsBook.createMany_refused (hsha : Function.Injective enc.sha1) (h : ShowsBook enc s b)
    (hbodies : ∀ body ∈ bodies, CardBody body)
    (hp : getPhonebook s.db visibleTenants key = .ok p) {loop : Except DirdError Created}
    (hloop : bodies.zipIdx.foldlM (createNext enc server p.tenantUuid p.uuid) { db := s.db } =
      loop) (hwrong : (∃ e, loop = .error e) ∨ ∃ t, loop = .ok t ∧ t.errors ≠ [])
    {e : DirdError}
    (hraised : PhonebookContactCRUD.createMany enc server s.db visibleTenants key bodies =
      (.error e, s.db))
    (hrefused : answerOf (.error e : Except DirdError (List WrittenContact ×
      List ContactEntryError)) = .refused) :
    Simulated enc server s b (.createMany visibleTenants key bodies) := by
  refine h.answered (by rw [Call.run, hraised]; rfl) (told_createMany hp) ?_
  rw [hraised]
  obtain ⟨⟨body, i⟩, hentry, hnew⟩ :=
    exists_new_of_loop (exists_getPhonebook_uuid hp) rfl (hloop ▸ hwrong)
  have hbody : body ∈ bodies := List.fst_mem_of_mem_zipIdx hentry
  show Book.Step b (_, answerOf (.error e : Except DirdError (List WrittenContact ×
    List ContactEntryError))) b
  rw [hrefused]
  refine .insertAllRefused (List.mem_map_of_mem hbody) fun hhas => ?_
  obtain ⟨c, hc, hcp, hhash⟩ := (h.has_iff hsha (hbodies body hbody)).1 hhas
  exact hnew c hc hcp hhash

/-- A batch whose loop collects no error inserts what it created. -/
theorem ShowsBook.createMany_done (hsha : Function.Injective enc.sha1) (h : ShowsBook enc s b)
    (hbodies : ∀ body ∈ bodies, CardBody body)
    (hp : getPhonebook s.db visibleTenants key = .ok p)
    (hloop : bodies.zipIdx.foldlM (createNext enc server p.tenantUuid p.uuid) { db := s.db } =
      .ok t) (herrors : t.errors = []) :
    Simulated enc server s b (.createMany visibleTenants key bodies) := by
  have hcreate := createMany_of_loop hp hloop
  change _ = newSession s.db (raiseIf (t.errors ≠ []) _ >>= _) at hcreate
  rw [raiseIf, if_neg (not_not.2 herrors)] at hcreate
  obtain ⟨-, created, hgood, happ, hcover⟩ := loop_spec hloop herrors
  obtain ⟨created', hgood', hsub, -⟩ := writes_of_loop hloop
  obtain rfl : created = created' := List.append_cancel_left (hgood.symm.trans hgood')
  obtain rfl : t.good = created := hgood
  rw [List.zipIdx_map_fst] at hsub
  have hnext : s.next enc server (.createMany visibleTenants key bodies) =
      afterImport s t.db t.good := Store.next_eq (by rw [Call.run, hcreate]; rfl)
  have hsole : Sole (s.next enc server (.createMany visibleTenants key bodies)).db := by
    rw [hnext]
    exact happ.sole h.sole
  have hcall : ∀ body ∈ (Call.createMany visibleTenants key bodies).bodies, CardBody body :=
    hbodies
  obtain ⟨b', h'⟩ := h.next hcall hsole
  refine ⟨b', ?_, h'⟩
  rw [hnext] at h'
  rw [told_createMany hp, hcreate]
  refine Run.single (.insertedAll (h.inserted hsha h' happ (fun w hw => ?_) hbodies ?_))
  · exact hsub.subset (List.mem_map_of_mem hw)
  · intro body hbody
    obtain ⟨i, hi⟩ := List.mem_iff_getElem?.1 hbody
    exact hcover (body, i) (List.mk_mem_zipIdx_iff_getElem?.2 hi)

/-- **Contacts created in a batch.** -/
theorem ShowsBook.createMany (hsha : Function.Injective enc.sha1) (h : ShowsBook enc s b)
    (hbodies : ∀ body ∈ bodies, CardBody body) :
    Simulated enc server s b (.createMany visibleTenants key bodies) := by
  cases hp : getPhonebook s.db visibleTenants key with
  | error e =>
    refine h.stays ?_ ?_
    · rw [Call.run, PhonebookContactCRUD.createMany, hp]
      rfl
    · rw [Call.told, hp]
      rfl
  | ok p =>
    cases hloop : bodies.zipIdx.foldlM (createNext enc server p.tenantUuid p.uuid)
      { db := s.db } with
    | error e =>
      obtain ⟨⟨body, i⟩, -, t, hnext⟩ := mem_of_foldlM_eq_error hloop
      obtain ⟨hone, hne⟩ := createOne_of_createNext hnext
      exact h.createMany_refused hsha hbodies hp hloop (Or.inl ⟨e, rfl⟩)
        (createMany_of_loop hp hloop) (answerOf_createOne hone hne)
    | ok t =>
      by_cases herrors : t.errors = []
      · exact h.createMany_done hsha hbodies hp hloop herrors
      · have hcreate := createMany_of_loop hp hloop
        change _ = newSession s.db (raiseIf (t.errors ≠ []) _ >>= _) at hcreate
        rw [raiseIf, if_pos herrors] at hcreate
        exact h.createMany_refused hsha hbodies hp hloop (Or.inr ⟨t, rfl, herrors⟩) hcreate rfl

end CreateMany

/-! ### Edits, outcome by outcome -/

section Edit

variable {c : Contact} {r : Except DirdError WrittenContact} {db' : Database}

/-- What an edit asks, in a phonebook that is seen. -/
theorem told_edit (hp : getPhonebook s.db visibleTenants key = .ok p)
    (hedit : PhonebookContactCRUD.edit enc server s.db visibleTenants key contactUuid body =
      (r, db')) :
    Call.told enc server s.db (.edit visibleTenants key contactUuid body) =
      some (.replace p.uuid contactUuid (contentsOf body), answerOf r) := by
  rw [Call.told, hp, hedit]
  rfl

/-- A contact of a phonebook has the hash of a body when its card is of its
contents. -/
theorem ShowsBook.hash_eq_iff (hsha : Function.Injective enc.sha1) (h : ShowsBook enc s b)
    (hbody : CardBody body) (hc : c ∈ s.db.contacts) (hcp : c.phonebookUuid = some p.uuid) :
    c.hash = enc.computeContactHash body ↔ b.card c.uuid = some (p.uuid, contentsOf body) := by
  rw [h.card]
  exact h.kept.hash_eq_iff hsha h.bodies hc hcp hbody

/-- An edit of a contact that the phonebook has not. -/
theorem ShowsBook.edit_missing (h : ShowsBook enc s b)
    (hp : getPhonebook s.db visibleTenants key = .ok p)
    (hnone : ∀ c ∈ s.db.contacts, c.uuid = contactUuid → c.phonebookUuid ≠ some p.uuid)
    (hget : PhonebookContactCRUD.getContact s.db p.tenantUuid p.uuid contactUuid =
      .error (.noSuchContact contactUuid)) :
    Simulated enc server s b (.edit visibleTenants key contactUuid body) := by
  have hedit : PhonebookContactCRUD.edit enc server s.db visibleTenants key contactUuid body =
      (.error (.noSuchContact contactUuid), s.db) := by
    rw [PhonebookContactCRUD.edit, hp]
    change newSession s.db (PhonebookContactCRUD.getContact s.db p.tenantUuid p.uuid contactUuid
      >>= _) = _
    rw [hget]
    rfl
  refine h.answered (by rw [Call.run, hedit]; rfl) (told_edit hp hedit) ?_
  refine .replaceMissing fun howns => ?_
  obtain ⟨c, hc, huuid, hcp⟩ := h.owns_iff.1 howns
  exact hnone c hc huuid hcp

/-- An edit to the contents of another contact of the phonebook. -/
theorem ShowsBook.edit_duplicated (hsha : Function.Injective enc.sha1) (h : ShowsBook enc s b)
    (hbody : CardBody body) (hp : getPhonebook s.db visibleTenants key = .ok p)
    (hc : c ∈ s.db.contacts) (hcp : c.phonebookUuid = some p.uuid) {d : Contact}
    (hd : d ∈ s.db.contacts) (hne : d.uuid ≠ c.uuid)
    (hclash : { c with hash := enc.computeContactHash body }.clash d = true)
    (hedit : PhonebookContactCRUD.edit enc server s.db visibleTenants key c.uuid body =
      (.error .duplicatedContact, s.db)) :
    Simulated enc server s b (.edit visibleTenants key c.uuid body) := by
  refine h.answered (by rw [Call.run, hedit]; rfl) (told_edit hp hedit) ?_
  have huser := h.sole c hc (by rw [hcp]; rfl)
  simp only [Contact.clash, huser, hcp, Bool.or_eq_true, Bool.and_eq_true,
    decide_eq_true_eq] at hclash
  rcases hclash with huuid | ⟨hhash, ⟨hsome, -⟩ | ⟨-, hdp⟩⟩
  · exact absurd huuid.symm hne
  · cases hsome
  · exact .replaceDuplicated (h.owns_iff.2 ⟨c, hc, rfl, hcp⟩) hne
      ((h.hash_eq_iff hsha hbody hd hdp.symm).1 hhash.symm)

/-- An edit that clashes with no other contact is to contents that no other
has. -/
theorem ShowsBook.new_of_edit (hsha : Function.Injective enc.sha1) (h : ShowsBook enc s b)
    (hbody : CardBody body) (hcp : c.phonebookUuid = some p.uuid)
    (hnone : ∀ d ∈ s.db.contacts, d.uuid ≠ c.uuid →
      { c with hash := enc.computeContactHash body }.clash d = false) {j : Uuid}
    (hj : b.card j = some (p.uuid, contentsOf body)) : j = c.uuid := by
  by_contra hne
  have hcard := hj
  rw [h.card] at hcard
  obtain ⟨d, hd, rfl, hdp, -⟩ := (Database.cardOf_eq_some_iff h.kept.uuids).1 hcard
  have hhash := (h.hash_eq_iff hsha hbody hd hdp).2 hj
  exact hash_ne_of_clash (hnone d hd hne) (by rw [hcp]; rfl) (hcp.trans hdp.symm) hhash.symm

/-- An edit that the server refuses. -/
theorem ShowsBook.edit_refused (h : ShowsBook enc s b)
    (hp : getPhonebook s.db visibleTenants key = .ok p) (howns : b.Owns p.uuid contactUuid)
    (hnew : ∀ j, b.card j = some (p.uuid, contentsOf body) → j = contactUuid)
    (hrefused : answerOf r = .refused)
    (hedit : PhonebookContactCRUD.edit enc server s.db visibleTenants key contactUuid body =
      (r, s.db)) :
    Simulated enc server s b (.edit visibleTenants key contactUuid body) := by
  have hrun : (Call.edit visibleTenants key contactUuid body).run enc server s.db =
      ([], s.db) := by
    rw [Call.run, hedit]
    cases r with
    | error e => rfl
    | ok w => cases hrefused
  refine h.answered hrun (told_edit hp hedit) ?_
  rw [hrefused]
  exact .replaceRefused howns hnew

/-- An edit that is done. -/
theorem ShowsBook.edit_done (h : ShowsBook enc s b) (hbody : CardBody body)
    (hp : getPhonebook s.db visibleTenants key = .ok p) (hc : c ∈ s.db.contacts)
    (hcp : c.phonebookUuid = some p.uuid)
    (hnew : ∀ j, b.card j = some (p.uuid, contentsOf body) → j = c.uuid)
    {fields : List ContactFields} (hfields : setContactFields enc c.uuid body = .ok fields)
    (hedit : PhonebookContactCRUD.edit enc server s.db visibleTenants key c.uuid body =
      (.ok ⟨c.uuid, body⟩, db'))
    (hdb : db' = { s.db with
      contacts := s.db.contacts.map fun d =>
        if d.uuid = c.uuid then { c with hash := enc.computeContactHash body } else d
      contactFields := s.db.contactFields.filter (·.contactUuid ≠ c.uuid) ++ fields }) :
    Simulated enc server s b (.edit visibleTenants key c.uuid body) := by
  have hrun : (Call.edit visibleTenants key c.uuid body).run enc server s.db =
      ([.edited ⟨c.uuid, body⟩], db') := by rw [Call.run, hedit]; rfl
  have hnext : s.next enc server (.edit visibleTenants key c.uuid body) =
      ⟨db', s.written.set c.uuid body⟩ := Store.next_eq hrun
  have hcontacts := congrArg Database.contacts hdb
  have hsole : Sole (s.next enc server (.edit visibleTenants key c.uuid body)).db := by
    rw [hnext]
    intro d hd hdp
    obtain ⟨d₀, hd₀, rfl⟩ := List.mem_map.1 (hcontacts ▸ hd)
    split at hdp
    · next heq =>
      rw [if_pos heq]
      exact h.sole c hc hdp
    · next hne =>
      rw [if_neg hne]
      exact h.sole d₀ hd₀ hdp
  obtain ⟨b', h'⟩ := h.next (fun body' hbody' => by rwa [List.mem_singleton.1 hbody']) hsole
  refine ⟨b', ?_, h'⟩
  rw [hnext] at h'
  rw [told_edit hp hedit]
  refine Run.single (.replaced (h.owns_iff.2 ⟨c, hc, rfl, hcp⟩) hnew ?_ fun j hj => ?_)
  · have hmem : { c with hash := enc.computeContactHash body } ∈ db'.contacts := by
      rw [hcontacts]
      exact List.mem_map.2 ⟨c, hc, if_pos rfl⟩
    obtain ⟨own, hrep, hown, hcard⟩ := h'.kept.exists_card h'.bodies hmem hcp
    have hwritten := hrep.written.symm.trans (Dict.get?_set_self s.written c.uuid body)
    obtain rfl : own = body := Option.some.inj hwritten
    rw [h'.card]
    exact hcard
  · rw [h'.card, h.card]
    exact @cardOf_edited s.db db' c { c with hash := enc.computeContactHash body } _ _ rfl
      (setContactFields_ok hfields).1 hcontacts (congrArg Database.contactFields hdb) _ hj

/-- **A contact edited.** -/
theorem ShowsBook.edit (hsha : Function.Injective enc.sha1) (h : ShowsBook enc s b)
    (hbody : CardBody body) :
    Simulated enc server s b (.edit visibleTenants key contactUuid body) := by
  cases hp : getPhonebook s.db visibleTenants key with
  | error e =>
    refine h.stays ?_ ?_
    · rw [Call.run, PhonebookContactCRUD.edit, hp]
      rfl
    · rw [Call.told, hp]
      rfl
  | ok p =>
    rcases (getContact_cases hp : (∃ c ∈ s.db.contacts, c.uuid = contactUuid ∧ _) ∨ _) with
      ⟨c, hc, rfl, hcp, hget⟩ | ⟨hnone, hget⟩
    · cases hedit : PhonebookContactCRUD.edit enc server s.db visibleTenants key c.uuid body with
      | mk r db' =>
      rcases edit_outcome hp hget hedit with
        ⟨d, hd, hne, hclash, rfl, rfl⟩ | ⟨hnone, houtcome⟩
      · exact h.edit_duplicated hsha hbody hp hc hcp hd hne hclash hedit
      · have hnew := fun j => h.new_of_edit (j := j) hsha hbody hcp hnone
        rcases houtcome with ⟨hrefused, rfl⟩ | ⟨fields, hfields, rfl, hdb⟩
        · exact h.edit_refused hp (h.owns_iff.2 ⟨c, hc, rfl, hcp⟩) hnew hrefused hedit
        · exact h.edit_done hbody hp hc hcp hnew hfields hedit hdb
    · exact h.edit_missing hp hnone hget

end Edit

/-- What is left when contacts are dropped with their rows. -/
theorem ShowsBook.card_dropped (h : ShowsBook enc s b) (h' : ShowsBook enc s' b')
    {q : Contact → Bool} (hcontacts : s'.db.contacts = (s.db.dropContacts q).contacts)
    (hfields : s'.db.contactFields = (s.db.dropContacts q).contactFields) {i : Uuid}
    {x : Uuid × Contents} : b'.card i = some x ↔
      b.card i = some x ∧ ∀ c ∈ s.db.contacts, c.uuid = i → q c = false := by
  rw [h'.card, h.card, Database.cardOf_congr hcontacts hfields]
  exact Database.cardOf_dropContacts h.kept.uuids

/-- **A contact deleted.** -/
theorem ShowsBook.delete (h : ShowsBook enc s b) :
    Simulated enc server s b (.delete visibleTenants key contactUuid) := by
  cases hp : getPhonebook s.db visibleTenants key with
  | error e =>
    refine h.stays ?_ ?_
    · rw [Call.run, PhonebookContactCRUD.delete, hp]
      rfl
    · rw [Call.told, hp]
      rfl
  | ok p =>
    have htold : Call.told enc server s.db (.delete visibleTenants key contactUuid) =
        some (.remove p.uuid contactUuid,
          answerOf (PhonebookContactCRUD.delete s.db visibleTenants key contactUuid).1) := by
      rw [Call.told, hp]
      rfl
    have hdelete : PhonebookContactCRUD.delete s.db visibleTenants key contactUuid =
        newSession s.db (getContact s.db p.tenantUuid p.uuid contactUuid >>= fun c =>
          pure (s.db.dropContacts (·.uuid = c.uuid), ())) := by
      rw [PhonebookContactCRUD.delete, hp]
      rfl
    rcases (getContact_cases hp : (∃ c ∈ s.db.contacts, c.uuid = contactUuid ∧ _) ∨ _) with
      ⟨c, hc, rfl, hcp, hget⟩ | ⟨hnone, hget⟩
    · rw [hget] at hdelete
      have hrun : (Call.delete visibleTenants key c.uuid).run enc server s.db =
          ([.deleted c.uuid], s.db.dropContacts (·.uuid = c.uuid)) := by
        rw [Call.run, hdelete]
        rfl
      have hnext := Store.next_eq hrun
      have hcall : ∀ body ∈ (Call.delete visibleTenants key c.uuid).bodies, CardBody body := by
        intro body hbody
        cases hbody
      obtain ⟨b', h'⟩ := h.next hcall (h.sole.filter (by rw [hnext]; rfl))
      have hcards := fun i x => h.card_dropped (i := i) (x := x) h' (by rw [hnext]) (by rw [hnext])
      refine ⟨b', ?_, h'⟩
      rw [htold, hdelete]
      refine Run.single (.removed (h.owns_iff.2 ⟨c, hc, rfl, hcp⟩) ?_ fun j hj => ?_)
      · refine Option.eq_none_iff_forall_ne_some.2 fun x hx => ?_
        have hkept := ((hcards c.uuid x).1 hx).2 c hc rfl
        simp at hkept
      · refine Option.ext fun x => ?_
        rw [hcards j x]
        refine and_iff_left fun d hd hdj => ?_
        simpa [hdj] using hj
    · rw [hget] at hdelete
      rw [hdelete] at htold
      refine h.answered (by rw [Call.run, hdelete]; rfl) htold (.removeMissing fun howns => ?_)
      obtain ⟨c, hc, huuid, hcp⟩ := h.owns_iff.1 howns
      exact hnone c hc huuid hcp

/-- **A phonebook deleted**, with its contacts. -/
theorem ShowsBook.deletePhonebook {tenants : List Uuid} (h : ShowsBook enc s b) :
    Simulated enc server s b (.deletePhonebook tenants key) := by
  cases hp : PhonebookCRUD.getByTenantAndId s.db (some tenants) key with
  | error e =>
    refine h.stays ?_ ?_
    · rw [Call.run, PhonebookCRUD.delete, hp]
      rfl
    · rw [Call.told, hp]
      rfl
  | ok p =>
    let gone (c : Contact) : Bool := c.phonebookUuid.elim false fun uuid =>
      s.db.phonebooks.any fun q => decide (q.uuid = p.uuid) && decide (q.uuid = uuid)
    have hgone : ∀ c, gone c = true ↔ c.phonebookUuid = some p.uuid := by
      intro c
      simp only [gone]
      cases c.phonebookUuid with
      | none => simp
      | some uuid =>
          simp only [Option.elim_some, List.any_eq_true, Bool.and_eq_true, decide_eq_true_eq,
            Option.some.injEq]
          constructor
          · rintro ⟨q, -, hqp, hqu⟩
            exact hqu.symm.trans hqp
          · rintro rfl
            exact ⟨p, (PhonebookCRUD.getByTenantAndId_ok hp).1, rfl, rfl⟩
    have hrun : (Call.deletePhonebook tenants key).run enc server s.db =
        ([], PhonebookCRUD.dropPhonebooks s.db (·.uuid = p.uuid)) := by
      rw [Call.run, PhonebookCRUD.delete, hp]
      rfl
    have htold : Call.told enc server s.db (.deletePhonebook tenants key) =
        some (.removeAll p.uuid, .done) := by
      rw [Call.told, PhonebookCRUD.delete, hp]
      rfl
    have hnext := Store.next_eq hrun
    have hcall : ∀ body ∈ (Call.deletePhonebook tenants key).bodies, CardBody body := by
      intro body hbody
      cases hbody
    obtain ⟨b', h'⟩ := h.next hcall (h.sole.filter (by rw [hnext]; rfl))
    have hcards := fun i x => h.card_dropped (i := i) (x := x) (q := gone) h' (by rw [hnext]; rfl)
      (by rw [hnext]; rfl)
    refine ⟨b', ?_, h'⟩
    rw [htold]
    refine Run.single (.removedAll fun i x => ?_)
    rw [hcards i x]
    refine and_congr_right fun hcard => ?_
    rw [h.card] at hcard
    obtain ⟨c, hc, rfl, hcp, -⟩ := (Database.cardOf_eq_some_iff h.kept.uuids).1 hcard
    have hkept : gone c = false ↔ x.1 ≠ p.uuid := by
      rw [Bool.eq_false_iff, ne_eq, hgone, hcp, Option.some.injEq]
    rw [← hkept]
    refine ⟨fun hall => hall c hc rfl, fun hnot d hd hdc => ?_⟩
    rwa [eq_of_key h.kept.uuids hd hc hdc]

/-- **A phonebook created, or edited**, is no call of the book. -/
theorem ShowsBook.unchanged (h : ShowsBook enc s b)
    (hcontacts : (call.run enc server s.db).2.contacts = s.db.contacts)
    (hfields : (call.run enc server s.db).2.contactFields = s.db.contactFields)
    (hbodies : call.bodies = []) (htold : call.told enc server s.db = none) :
    Simulated enc server s b call := by
  have hsole : Sole (s.next enc server call).db := by
    rw [Sole, show (s.next enc server call).db.contacts = s.db.contacts from hcontacts]
    exact h.sole
  obtain ⟨b', h'⟩ := h.next (fun body hbody => by rw [hbodies] at hbody; cases hbody) hsole
  have hsame : b' = b := by
    refine Book.ext (h'.card.trans (Eq.trans ?_ h.card.symm))
    exact Database.cardOf_congr hcontacts hfields
  rw [Simulated, htold]
  exact ⟨b', hsame ▸ Run.nil b', h'⟩

/-- **Every call is a step of the book**, or none. -/
theorem ShowsBook.step (hsha : Function.Injective enc.sha1) (h : ShowsBook enc s b)
    (hbodies : ∀ body ∈ call.bodies, CardBody body) : Simulated enc server s b call := by
  cases call with
  | create => exact h.create hsha (hbodies _ (List.mem_singleton_self _))
  | createMany => exact h.createMany hsha hbodies
  | edit => exact h.edit hsha (hbodies _ (List.mem_singleton_self _))
  | delete => exact h.delete
  | createPhonebook defaults tenantUuid body =>
      rcases PhonebookCRUD.create_cases
        (Prod.eta (PhonebookCRUD.create s.db defaults tenantUuid body)).symm with
        ⟨e, -, hdb⟩ | ⟨p, -, hdb, -⟩
      · exact h.unchanged (congrArg Database.contacts hdb) (congrArg Database.contactFields hdb)
          rfl rfl
      · exact h.unchanged
          ((congrArg Database.contacts hdb).trans (s.db.createTenant_contacts _))
          ((congrArg Database.contactFields hdb).trans (s.db.createTenant_contactFields _)) rfl rfl
  | editPhonebook tenants key body =>
      rcases PhonebookCRUD.edit_cases
        (Prod.eta (PhonebookCRUD.edit s.db (some tenants) key body)).symm with
        ⟨e, -, hdb⟩ | ⟨p, -, p', -, -, -, -, hdb⟩
      · exact h.unchanged (congrArg Database.contacts hdb) (congrArg Database.contactFields hdb)
          rfl rfl
      · exact h.unchanged (congrArg Database.contacts hdb :) (congrArg Database.contactFields hdb :)
          rfl rfl
  | deletePhonebook => exact h.deletePhonebook

/-! ## Every run -/

section Run

variable {s₀ : Store} {calls : List (Call × Option (Book.Call Uuid Uuid Contents × Book.Answer))}
  {o : RowOrder ContactFields}

/-- Where a run starts, the book is empty. -/
theorem Start.showsBook (hs : Start s₀) :
    ∃ b₀, ShowsBook enc s₀ b₀ ∧ ∀ i, b₀.card i = none := by
  have hbodies : s₀.BodiesAre CardBody := by
    intro uuid body hget
    rw [hs.unwritten] at hget
    cases hget
  have hsole : Sole s₀.db := by
    intro c hc hp
    rw [hs.personal c hc] at hp
    cases hp
  have hkept : Kept enc s₀ := hs.kept
  refine ⟨book s₀ hkept hbodies, ⟨hkept, hbodies, hsole, rfl⟩, fun i => ?_⟩
  refine Option.eq_none_iff_forall_ne_some.2 fun x hx => ?_
  obtain ⟨c, hc, -, hp, -⟩ := (Database.cardOf_eq_some_iff hs.uuids).1 hx
  rw [hs.personal c hc] at hp
  cases hp

/-- A run of calls is a run of the book, from any book that is shown. -/
theorem ShowsBook.run (hsha : Function.Injective enc.sha1) (h : ShowsBook enc s b)
    (hrun : Run (Answered enc) s calls s') :
    ∃ b', Run Book.Step b (calls.filterMap Prod.snd) b' ∧ ShowsBook enc s' b' := by
  refine hrun.simulates_filterMap (R := fun s b => ShowsBook enc s b) (fun h ha => ?_) h
  obtain ⟨server, -, hbodies, htold, rfl⟩ := ha
  rw [htold]
  exact h.step hsha hbodies

/-- **Every run of the writers is a run of a book**, call by call and answer
by answer but for those that ask nothing of it, and what the readers return
where it ends is the cards. -/
theorem calls_refine_book (hsha : Function.Injective enc.sha1) (hs : Start s₀)
    (hrun : Run (Answered enc) s₀ calls s) :
    ∃ b₀ b : Book Uuid Uuid Contents, (∀ i, b₀.card i = none) ∧
      Run Book.Step b₀ (calls.filterMap Prod.snd) b ∧ ∀ lower, ReadsBook lower s.db b := by
  obtain ⟨b₀, h₀, hempty⟩ := hs.showsBook
  obtain ⟨b, hbook, h⟩ := h₀.run hsha hrun
  exact ⟨b₀, b, hempty, hbook, h.reads⟩

/-- **A call writes a contact of a phonebook under a uuid**: it is done, it
is of the phonebook and of what is then read there, by who sees it, and what
was read there before, if anything, is what it edits. -/
structure WritesUnder (enc : Encoding) (s₁ : Store) (call : Call)
    (c : Book.Call Uuid Uuid Contents) (s₂ : Store) (phonebookUuid : Uuid) (contactUuid : String)
    (k : Contents) : Prop where
  answered : Answered enc s₁ (call, some (c, .done)) s₂
  writes : c.Writes phonebookUuid contactUuid k
  new : c.Drops phonebookUuid contactUuid ∨
    ∀ (o : RowOrder ContactFields) visibleTenants key contact,
      PhonebookContactCRUD.get o s₁.db visibleTenants key contactUuid ≠ .ok contact
  read : ∀ (o : RowOrder ContactFields) visibleTenants key p,
    getPhonebook s₂.db visibleTenants key = .ok p → p.uuid = phonebookUuid →
    ∃ contact, PhonebookContactCRUD.get o s₂.db visibleTenants key contactUuid = .ok contact ∧
      readContents contact = k

/-- **What is read in a phonebook was last written in it**: under its uuid,
by a call on this very phonebook, and no call done since took it away; and
it is read so, whoever sees the phonebook, as long as none does. -/
theorem get_reads_last_write (hsha : Function.Injective enc.sha1) (hs : Start s₀)
    {calls : List (Store × Call × Option (Book.Call Uuid Uuid Contents × Book.Answer))}
    (hrun : Run (Recorded (Answered enc)) s₀ calls s)
    (hp : getPhonebook s.db visibleTenants key = .ok p) {contact : ContactInfo}
    (hget : PhonebookContactCRUD.get o s.db visibleTenants key contactUuid = .ok contact) :
    (∃ before s₁ call c s₂ after, calls = before ++ (s₁, call, some (c, .done)) :: after ∧
      Run (Recorded (Answered enc)) s₂ after s ∧
      WritesUnder enc s₁ call c s₂ p.uuid contactUuid (readContents contact) ∧
      ∀ sᵢ call' c', (sᵢ, call', some (c', .done)) ∈ after → ¬ c'.Drops p.uuid contactUuid) ∧
    ∀ calls' s', Run (Answered enc) s calls' s' →
      (∀ call' c', (call', some (c', .done)) ∈ calls' → ¬ c'.Drops p.uuid contactUuid) →
      ∀ (o' : RowOrder ContactFields) visibleTenants' key' p',
        getPhonebook s'.db visibleTenants' key' = .ok p' → p'.uuid = p.uuid →
        ∃ contact', PhonebookContactCRUD.get o' s'.db visibleTenants' key' contactUuid =
            .ok contact' ∧ readContents contact' = readContents contact := by
  obtain ⟨b₀, h₀, hempty⟩ := hs.showsBook
  obtain ⟨b, h, hlast⟩ := Book.lastWritten_of_run (fun s b => ShowsBook enc s b) Prod.snd
    (fun h ha => by
      obtain ⟨server, -, hbodies, htold, rfl⟩ := ha
      rw [htold]
      exact h.step hsha hbodies) h₀ hempty hrun
  obtain ⟨hcard, hsays⟩ := (h.get_iff hp).1 ⟨contact, hget, rfl⟩
  constructor
  · obtain ⟨before, s₁, ⟨call, told⟩, s₂, after, c, b₁, b₂, hcalls, hanswered, hafter, htold,
      hwrites, h₁, hnew, h₂, hcard₂, hsince⟩ := hlast _ _ _ hcard
    have htold : told = some (c, .done) := htold
    subst htold
    refine ⟨before, s₁, call, c, s₂, after, hcalls, hafter, ⟨hanswered, hwrites, ?_, ?_⟩,
      fun sᵢ call' c' hmem => hsince _ hmem _ rfl⟩
    · refine hnew.symm.imp_right fun hnone o visibleTenants key contact' hread => ?_
      obtain ⟨q, hq, -⟩ := bind_eq_ok.1 hread
      have hold := ((h₁.get_iff hq).1 ⟨contact', hread, rfl⟩).1
      rw [hnone] at hold
      cases hold
    · intro o visibleTenants key q hq huuid
      rw [← huuid] at hcard₂
      exact (h₂.get_iff hq).2 ⟨hcard₂, hsays⟩
  · intro calls' s' hrun' hnot o' visibleTenants' key' p' hp' huuid
    obtain ⟨b', hbook', h'⟩ := h.run hsha hrun'
    have hstays : b'.card contactUuid = some (p.uuid, readContents contact) := by
      refine Book.card_stays hbook' hcard fun c hmem => ?_
      obtain ⟨⟨call', told⟩, hcall, htold⟩ := List.mem_filterMap.1 hmem
      have htold : told = some (c, .done) := htold
      subst htold
      exact hnot call' c hcall
    rw [← huuid] at hstays
    exact (h'.get_iff hp').2 ⟨hstays, hsays⟩

/-- A contact created in a phonebook. -/
def createClient : Call := .create (some ["t"]) (.uuid "p") (oneItem (.str "Alice"))

/-- The phonebook with that contact. -/
def oneClient : Store := onePhonebook.next .plain .plain createClient

/-- What is asked of the book for it, and answered. -/
def insertClient : Book.Call Uuid Uuid Contents × Book.Answer :=
  (.insert "p" (contentsOf (oneItem (.str "Alice"))) none, .done)

/-- It is created by a run. -/
theorem answered_createClient :
    Run (Answered .plain) onePhonebook [(createClient, some insertClient)] oneClient := by
  refine Run.single ⟨.plain, trivial, fun body hbody => ?_, rfl, rfl⟩
  rw [List.mem_singleton.1 hbody]
  exact ⟨rfl, within_oneItem ⟨"Alice", rfl⟩⟩

/-- The book of it has one card, which is what is read. -/
theorem calls_refine_book_createClient : ∃ b₀ b : Book Uuid Uuid Contents,
    (∃ k, b.card "x" = some ("p", k) ∧ k "a" = some "Alice") ∧ (∀ i, b₀.card i = none) ∧
      Run Book.Step b₀ [insertClient] b ∧ ∀ lower, ReadsBook lower oneClient.db b := by
  obtain ⟨b₀, b, hempty, hrun, hreads⟩ :=
    calls_refine_book Function.injective_id start_onePhonebook answered_createClient
  have hget : ∃ contact, PhonebookContactCRUD.get .asStored oneClient.db none (.uuid "p") "x" =
      .ok contact ∧ readContents contact "a" = some "Alice" := ⟨_, rfl, by decide⟩
  obtain ⟨contact, hget, hname⟩ := hget
  have hp : getPhonebook oneClient.db none (.uuid "p") = .ok _ := rfl
  exact ⟨b₀, b, ⟨readContents contact,
    (((hreads id).get .asStored none _ _ hp "x" _).1 ⟨contact, hget, rfl⟩).1, hname⟩, hempty, hrun,
    hreads⟩

/-- It was written under its uuid by its creation. -/
theorem get_reads_last_write_createClient : ∃ contact,
    PhonebookContactCRUD.get .asStored oneClient.db none (.uuid "p") "x" = .ok contact ∧
      (∃ before s₁ call c s₂ after,
        [(onePhonebook, createClient, some insertClient)] =
          before ++ (s₁, call, some (c, .done)) :: after ∧
        Run (Recorded (Answered .plain)) s₂ after oneClient ∧
        WritesUnder .plain s₁ call c s₂ "p" "x" (readContents contact) ∧
        ∀ sᵢ call' c', (sᵢ, call', some (c', .done)) ∈ after → ¬ c'.Drops "p" "x") ∧
      ∀ calls' s', Run (Answered .plain) oneClient calls' s' →
        (∀ call' c', (call', some (c', .done)) ∈ calls' → ¬ c'.Drops "p" "x") →
        ∀ (o' : RowOrder ContactFields) visibleTenants' key' p',
          getPhonebook s'.db visibleTenants' key' = .ok p' → p'.uuid = "p" →
          ∃ contact', PhonebookContactCRUD.get o' s'.db visibleTenants' key' "x" =
              .ok contact' ∧ readContents contact' = readContents contact := by
  have hget : PhonebookContactCRUD.get .asStored oneClient.db none (.uuid "p") "x" = .ok _ := rfl
  have hp : getPhonebook oneClient.db none (.uuid "p") = .ok _ := rfl
  have hanswered := Run.step_of_single answered_createClient
  exact ⟨_, hget, get_reads_last_write Function.injective_id start_onePhonebook
    (Run.single ⟨rfl, hanswered⟩) hp hget⟩

end Run

end PhonebookContacts

end WazoDird
