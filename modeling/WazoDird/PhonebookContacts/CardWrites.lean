import WazoDird.PhonebookContacts.Cards

/-!
# The writers of the phonebooks, by the cards

What each writer of `PhonebookContactCRUD` makes of the cards: contacts
created are cards inserted, and what the loop of a batch raises or collects
is a refusal of something new; one contact edited is a card written anew,
and one deleted a card gone.
-/

namespace WazoDird

open PhonebookContactCRUD

namespace PhonebookContacts

/-- What a batch asks for, contact by contact: none has an id of its own. -/
def entriesOf (bodies : List ContactBody) : List (Contents × Option Uuid) :=
  bodies.map fun body => (contentsOf body, none)

/-- **A body that no contact of the phonebook has the hash of.** -/
def New (enc : Encoding) (db : Database) (phonebookUuid : Uuid) (body : ContactBody) : Prop :=
  ∀ c ∈ db.contacts, c.phonebookUuid = some phonebookUuid → c.hash ≠ enc.computeContactHash body

variable {enc : Encoding} {server : Server} {s : Store} {db db' : Database}
  {b b' : Book Uuid Uuid Contents} {tenantUuid phonebookUuid : Uuid} {p : Phonebook}
  {visibleTenants : Option (List Uuid)} {key : PhonebookKey} {contactUuid : String}
  {body : ContactBody} {bodies : List ContactBody} {created : List WrittenContact} {i : ℕ}
  {e : DirdError}

/-- A session whose body raises raises that, and changes nothing; any other
leaves what its body did. -/
theorem newSession_cases {α : Type} {x : Except DirdError (Database × α)} {r : Except DirdError α}
    (h : newSession db x = (r, db')) :
    (∃ e, x = .error e ∧ r = .error e ∧ db' = db) ∨ ∃ a, x = .ok (db', a) ∧ r = .ok a := by
  cases x with
  | error e => exact Or.inl ⟨e, rfl, (Prod.mk.inj h).1.symm, (Prod.mk.inj h).2.symm⟩
  | ok x =>
      obtain ⟨rfl, rfl⟩ := Prod.mk.inj h
      exact Or.inr ⟨x.2, rfl, rfl⟩

/-! ## What is refused -/

/-- The phonebook a key names is found again by its uuid, in its tenant. -/
theorem exists_getPhonebook_uuid (hp : getPhonebook db visibleTenants key = .ok p) :
    ∃ q, getPhonebook db (some [p.tenantUuid]) (.uuid p.uuid) = .ok q := by
  have hmem := (getPhonebook_ok hp).1
  cases hfind : db.phonebooks.find? (phonebookSelector (some [p.tenantUuid]) (.uuid p.uuid)) with
  | none =>
      have hnot := List.find?_eq_none.1 hfind p hmem
      simp [phonebookSelector, phonebookKeyToFilter] at hnot
  | some q => exact ⟨q, by rw [getPhonebook, hfind]⟩

/-- A contact that is not created, and not for a duplicate, is refused. -/
theorem answerOf_createOne {α : Type}
    (h : createOne enc server db i tenantUuid phonebookUuid body = .error e)
    (hne : e ≠ .duplicatedContact) : answerOf (.error e : Except DirdError α) = .refused := by
  rcases bind_eq_error.1 h with h | ⟨p, -, h⟩
  · unfold getPhonebook at h
    split at h
    · cases h
      rfl
    · cases h
  rcases bind_eq_error.1 h with h | ⟨⟨⟩, -, h⟩
  · exact absurd (raiseIf_error.1 h).2.symm hne
  rcases bind_eq_error.1 h with h | ⟨⟨⟩, -, h⟩
  · exact answerOf_raiseFault (fun _ => rfl) h
  rcases bind_eq_error.1 h with h | ⟨⟨⟩, -, h⟩
  · rw [← (raiseIf_error.1 h).2]
    rfl
  rcases bind_eq_error.1 h with h | ⟨fields, -, h⟩
  · rcases bind_eq_error.1 h with h | ⟨texts, -, h⟩
    · obtain ⟨_, rfl⟩ := Encoding.columnTexts_error h
      rfl
    · cases h
  rcases bind_eq_error.1 h with h | ⟨⟨⟩, -, h⟩
  · exact answerOf_raiseFault (fun _ => rfl) h
  · cases h

/-- And it is new: the hash is looked up before anything else can fail. -/
theorem new_of_createOne
    (hq : ∃ q, getPhonebook db (some [tenantUuid]) (.uuid phonebookUuid) = .ok q)
    (h : createOne enc server db i tenantUuid phonebookUuid body = .error e)
    (hne : e ≠ .duplicatedContact) : New enc db phonebookUuid body := by
  obtain ⟨q, hq⟩ := hq
  rcases bind_eq_error.1 h with h | ⟨p, hp, h⟩
  · rw [hq] at h
    cases h
  rcases bind_eq_error.1 h with h | ⟨⟨⟩, hclash, -⟩
  · exact absurd (raiseIf_error.1 h).2.symm hne
  intro c hc hcp hhash
  refine raiseIf_ok.1 hclash (List.any_eq_true.2 ⟨c, hc, ?_⟩)
  simp [Contact.clash, hhash, hcp, uuid_of_getPhonebook hp]

/-- What a turn of the loop raises, or collects, creating the contact did. -/
theorem createOne_of_createNext {t : Created}
    (h : createNext enc server tenantUuid phonebookUuid t (body, i) = .error e) :
    createOne enc server t.db i tenantUuid phonebookUuid body = .error e ∧
      e ≠ .duplicatedContact := by
  simp only [createNext] at h
  split at h
  · cases h
  · cases h
  · cases h
  · next hnot _ hone =>
    cases h
    exact ⟨hone, fun hdup => hnot hdup⟩

/-- **A loop that goes wrong had something new to create.** -/
theorem exists_new_of_loop {t : Created} {entries : List (ContactBody × ℕ)}
    (hq : ∃ q, getPhonebook t.db (some [tenantUuid]) (.uuid phonebookUuid) = .ok q)
    (hnone : t.errors = [])
    (hwrong : (∃ e, entries.foldlM (createNext enc server tenantUuid phonebookUuid) t = .error e) ∨
      ∃ t', entries.foldlM (createNext enc server tenantUuid phonebookUuid) t = .ok t' ∧
        t'.errors ≠ []) :
    ∃ entry ∈ entries, New enc t.db phonebookUuid entry.1 := by
  induction entries generalizing t with
  | nil =>
      rcases hwrong with ⟨e, he⟩ | ⟨t', ht', herrors⟩
      · cases he
      · cases ht'
        exact absurd hnone herrors
  | cons entry entries ih =>
      obtain ⟨body, i⟩ := entry
      rw [List.foldlM_cons] at hwrong
      cases hnext : createNext enc server tenantUuid phonebookUuid t (body, i) with
      | error e =>
          obtain ⟨hone, hne⟩ := createOne_of_createNext hnext
          exact ⟨_, List.mem_cons_self, new_of_createOne hq hone hne⟩
      | ok t₁ =>
          rw [hnext] at hwrong
          rcases createNext_cases hnext with
            ⟨w, hone, -, herrors⟩ | ⟨-, rfl⟩ | ⟨m, a, k, d, hone, -⟩
          · obtain ⟨-, -, -, q, fields, -, -, -, -, hdb⟩ := createOne_ok hone
            have hq₁ :
                ∃ q, getPhonebook t₁.db (some [tenantUuid]) (.uuid phonebookUuid) = .ok q := by
              rwa [getPhonebook_congr (congrArg Database.phonebooks hdb)]
            obtain ⟨entry, hentry, hnew⟩ := ih hq₁ (herrors.trans hnone) hwrong
            refine ⟨entry, List.mem_cons_of_mem _ hentry, fun c hc => hnew c ?_⟩
            rw [hdb]
            exact List.mem_append_left _ hc
          · obtain ⟨entry, hentry, hnew⟩ := ih hq hnone hwrong
            exact ⟨entry, List.mem_cons_of_mem _ hentry, hnew⟩
          · exact ⟨_, List.mem_cons_self, new_of_createOne hq hone (by simp)⟩

/-! ## Contacts created -/

/-- A contact is no user's, created as those before. -/
theorem Appended.sole (happ : Appended enc phonebookUuid db created db') (h : Sole db) :
    Sole db' := by
  intro c hc hp
  rw [happ.contacts] at hc
  rcases List.mem_append.1 hc with hc | hc
  · exact h c hc hp
  · obtain ⟨w, -, rfl⟩ := List.mem_map.1 hc
    rfl

/-- **Contacts added to a phonebook that end with the hash of each body of
a list are its cards inserted.** -/
theorem ShowsBook.inserted (hsha : Function.Injective enc.sha1) (h : ShowsBook enc s b)
    (h' : ShowsBook enc (afterImport s db' created) b')
    (happ : Appended enc phonebookUuid s.db created db')
    (hsub : ∀ w ∈ created, w.body ∈ bodies) (hbodies : ∀ body ∈ bodies, CardBody body)
    (hcover : ∀ body ∈ bodies, ∃ c ∈ db'.contacts, c.phonebookUuid = some phonebookUuid ∧
      c.hash = enc.computeContactHash body) :
    Book.Inserted b phonebookUuid (entriesOf bodies) b' := by
  refine ⟨fun j x hj => ?_, fun entry hentry => ?_, fun j x hj hx => ?_⟩
  · rw [h.card] at hj
    obtain ⟨c, hc, rfl, hp, hcontents⟩ := (Database.cardOf_eq_some_iff h.kept.uuids).1 hj
    rw [h'.card]
    refine (Database.cardOf_eq_some_iff h'.kept.uuids).2 ⟨c, ?_, rfl, hp, ?_⟩
    · show c ∈ db'.contacts
      rw [happ.contacts]
      exact List.mem_append_left _ hc
    · rw [← hcontents, Database.contents, Database.contents]
      exact congrArg (fun l => readContents (Dict.ofList l))
        (represents_old happ h'.kept.uuids hc).1
  · obtain ⟨body, hbody, rfl⟩ := List.mem_map.1 hentry
    exact (h'.has_iff hsha (hbodies body hbody)).2 (hcover body hbody)
  · rw [h'.card] at hx
    obtain ⟨c, hc, rfl, hp, hcontents⟩ := (Database.cardOf_eq_some_iff h'.kept.uuids).1 hx
    have hmem : c ∈ s.db.contacts ++ created.map (contactRow enc phonebookUuid) := by
      rw [← happ.contacts]
      exact hc
    rcases List.mem_append.1 hmem with hold | hnew
    · obtain ⟨k, hk⟩ := (Database.exists_cardOf_iff h.kept.uuids).2 ⟨c, hold, rfl, hp⟩
      rw [← h.card, hj] at hk
      cases hk
    · obtain ⟨w, hw, rfl⟩ := List.mem_map.1 hnew
      obtain ⟨own, hrep, hown, hcard⟩ := h'.kept.exists_card h'.bodies hc rfl
      have hwritten := written_created (s := s) happ h'.kept.uuids hw
      obtain rfl : own = w.body := Option.some.inj (hrep.written.symm.trans hwritten)
      rw [hcard] at hx
      cases hx
      have hentry : (contentsOf w.body, none) ∈ entriesOf bodies :=
        List.mem_map.2 ⟨w.body, hsub w hw, rfl⟩
      refine ⟨rfl, none, Book.Stands.of_mem hentry fun e he => ?_, fun j hj => by cases hj⟩
      obtain ⟨_, -, rfl⟩ := List.mem_map.1 he
      rfl

/-! ## Contacts edited and dropped -/

/-- A contact of the phonebook that a key names is found under its uuid, and
no other is. -/
theorem getContact_cases (hp : getPhonebook db visibleTenants key = .ok p) :
    (∃ c ∈ db.contacts, c.uuid = contactUuid ∧ c.phonebookUuid = some p.uuid ∧
      getContact db p.tenantUuid p.uuid contactUuid = .ok c) ∨
    (∀ c ∈ db.contacts, c.uuid = contactUuid → c.phonebookUuid ≠ some p.uuid) ∧
      getContact db p.tenantUuid p.uuid contactUuid = .error (.noSuchContact contactUuid) := by
  have hmem := (getPhonebook_ok hp).1
  cases hfind : db.contacts.find? (newContactFilter db p.tenantUuid p.uuid contactUuid) with
  | some c =>
      have hget : getContact db p.tenantUuid p.uuid contactUuid = .ok c := by
        rw [getContact, hfind]
      obtain ⟨hc, huuid, hcp⟩ := getContact_ok hget
      exact Or.inl ⟨c, hc, huuid, hcp, hget⟩
  | none =>
      refine Or.inr ⟨fun c hc huuid hcp => ?_, by rw [getContact, hfind]⟩
      refine List.find?_eq_none.1 hfind c hc ?_
      simp only [newContactFilter, Bool.and_eq_true, decide_eq_true_eq, List.any_eq_true]
      exact ⟨⟨huuid, hcp⟩, p, hmem, hcp, rfl⟩

/-- **What becomes of an edit** of a contact that is found: another contact
clashes with it; or none does, and it is refused, or written. -/
theorem edit_outcome {c : Contact} {r : Except DirdError WrittenContact}
    (hp : getPhonebook db visibleTenants key = .ok p)
    (hget : getContact db p.tenantUuid p.uuid contactUuid = .ok c)
    (hedit : edit enc server db visibleTenants key contactUuid body = (r, db')) :
    (∃ d ∈ db.contacts, d.uuid ≠ c.uuid ∧
      { c with hash := enc.computeContactHash body }.clash d = true ∧
      r = .error .duplicatedContact ∧ db' = db) ∨
    (∀ d ∈ db.contacts, d.uuid ≠ c.uuid →
      { c with hash := enc.computeContactHash body }.clash d = false) ∧
      (answerOf r = .refused ∧ db' = db ∨
        ∃ fields, setContactFields enc c.uuid body = .ok fields ∧ r = .ok ⟨c.uuid, body⟩ ∧
          db' = { db with
            contacts := db.contacts.map fun d =>
              if d.uuid = c.uuid then { c with hash := enc.computeContactHash body } else d
            contactFields := db.contactFields.filter (·.contactUuid ≠ c.uuid) ++ fields }) := by
  have hnone : ∀ {e' : DirdError}, raiseIf ((db.contacts.filter (·.uuid ≠ c.uuid)).any
      { c with hash := enc.computeContactHash body }.clash) e' = .ok () →
      ∀ d ∈ db.contacts, d.uuid ≠ c.uuid →
        { c with hash := enc.computeContactHash body }.clash d = false := by
    intro e' hraise d hd hne
    have hclash := raiseIf_ok.1 hraise
    rw [Bool.not_eq_true, List.any_eq_false] at hclash
    exact Bool.eq_false_iff.2 (hclash d (List.mem_filter.2 ⟨hd, by simpa using hne⟩))
  rcases newSession_cases hedit with ⟨e, hbody, rfl, rfl⟩ | ⟨w, hbody, rfl⟩
  · rcases bind_eq_error.1 hbody with h | ⟨q, hq, hbody⟩
    · rw [hp] at h
      cases h
    rw [hp] at hq
    cases hq
    rcases bind_eq_error.1 hbody with h | ⟨d, hd, hbody⟩
    · rw [hget] at h
      cases h
    rw [hget] at hd
    cases hd
    rcases bind_eq_error.1 hbody with h | ⟨⟨⟩, hclash, hbody⟩
    · obtain ⟨hany, rfl⟩ := raiseIf_error.1 h
      obtain ⟨d, hd, hcd⟩ := List.any_eq_true.1 hany
      obtain ⟨hd, hne⟩ := List.mem_filter.1 hd
      exact Or.inl ⟨d, hd, of_decide_eq_true hne, hcd, rfl, rfl⟩
    refine Or.inr ⟨hnone hclash, Or.inl ⟨?_, rfl⟩⟩
    rcases bind_eq_error.1 hbody with h | ⟨⟨⟩, -, hbody⟩
    · exact answerOf_raiseFault (fun _ => rfl) h
    rcases bind_eq_error.1 hbody with h | ⟨⟨⟩, -, hbody⟩
    · rw [← (raiseIf_error.1 h).2]
      rfl
    rcases bind_eq_error.1 hbody with h | ⟨fields, -, hbody⟩
    · rcases bind_eq_error.1 h with h | ⟨texts, -, h⟩
      · obtain ⟨_, rfl⟩ := Encoding.columnTexts_error h
        rfl
      · cases h
    rcases bind_eq_error.1 hbody with h | ⟨⟨⟩, -, hbody⟩
    · exact answerOf_raiseFault (fun _ => rfl) h
    · cases hbody
  · obtain ⟨q, hq, hbody⟩ := bind_eq_ok.1 hbody
    rw [hp] at hq
    cases hq
    obtain ⟨d, hd, hbody⟩ := bind_eq_ok.1 hbody
    rw [hget] at hd
    cases hd
    obtain ⟨⟨⟩, hclash, hbody⟩ := bind_eq_ok.1 hbody
    obtain ⟨⟨⟩, -, hbody⟩ := bind_eq_ok.1 hbody
    obtain ⟨⟨⟩, -, hbody⟩ := bind_eq_ok.1 hbody
    obtain ⟨fields, hfields, hbody⟩ := bind_eq_ok.1 hbody
    obtain ⟨⟨⟩, -, hbody⟩ := bind_eq_ok.1 hbody
    cases hbody
    exact Or.inr ⟨hnone hclash, Or.inr ⟨fields, hfields, rfl, rfl⟩⟩

/-- Contacts that are left were there. -/
theorem Sole.filter (h : Sole db) {q : Contact → Bool}
    (hcontacts : db'.contacts = db.contacts.filter q) : Sole db' := by
  intro c hc
  rw [hcontacts] at hc
  exact h c (List.mem_filter.1 hc).1

/-- **A contact edited changes no other card.** -/
theorem cardOf_edited {c c' : Contact} {fields : List ContactFields} {owner : Contact → Option Uuid}
    (hc' : c'.uuid = c.uuid) (hown : ∀ f ∈ fields, f.contactUuid = c.uuid)
    (hcontacts : db'.contacts = db.contacts.map fun d => if d.uuid = c.uuid then c' else d)
    (hfields : db'.contactFields = db.contactFields.filter (·.contactUuid ≠ c.uuid) ++ fields)
    {j : Uuid} (hj : j ≠ c.uuid) : db'.cardOf owner j = db.cardOf owner j := by
  have hfind : db'.contacts.find? (·.uuid = j) = db.contacts.find? (·.uuid = j) := by
    have hkeys : ((fun d : Contact => decide (d.uuid = j)) ∘
        fun d => if d.uuid = c.uuid then c' else d) = fun d => decide (d.uuid = j) := by
      funext d
      rw [Function.comp_apply, key_replace hc']
    rw [hcontacts, List.find?_map, hkeys]
    cases hd : db.contacts.find? (·.uuid = j) with
    | none => rfl
    | some d =>
        have hdj : d.uuid = j := by simpa using List.find?_some hd
        rw [Option.map_some, if_neg (hdj ▸ hj)]
  have hcontents : db'.contents j = db.contents j := by
    have hnil : fieldsOf fields j = [] :=
      fieldsOf_eq_nil fun f hf hfj => hj (hfj.symm.trans (hown f hf))
    rw [Database.contents, Database.contents, hfields, fieldsOf_append, hnil, List.append_nil]
    rw [fieldsOf_filter fun f _ hfj => by simpa [hfj] using hj]
  rw [Database.cardOf, Database.cardOf, hfind, hcontents]

end PhonebookContacts

end WazoDird
