import WazoDird.PhonebookContacts.Refines

/-!
# A phonebook is its tenant's

Over any run of calls of tenants that do not see a phonebook, whatever they
name, nothing that is read in the phonebook changes: the phonebook stays
(`phonebooks_cases`), no call asks for one of its cards, and what is read is
its cards.
-/

namespace WazoDird

open PhonebookContactCRUD

namespace PhonebookContacts

/-- A call sees the phonebooks of a tenant: no tenant is asked for, or it is
among those that are. -/
def Call.Sees (tenantUuid : Uuid) : Call → Prop
  | create visibleTenants _ _ | createMany visibleTenants _ _ | edit visibleTenants _ _ _
  | delete visibleTenants _ _ => ∀ tenants, visibleTenants = some tenants → tenantUuid ∈ tenants
  | createPhonebook .. => False
  | editPhonebook tenants _ _ | deletePhonebook tenants _ => tenantUuid ∈ tenants

variable {enc : Encoding} {server : Server} {db db' : Database} {s s' s₀ : Store} {call : Call}
  {b b' : Book Uuid Uuid Contents} {visibleTenants : Option (List Uuid)} {key : PhonebookKey}
  {p q : Phonebook}
  {calls calls' : List (Call × Option (Book.Call Uuid Uuid Contents × Book.Answer))}

/-! ## The phonebooks after a call -/

/-- A write of a contact leaves the phonebooks. -/
theorem phonebooks_of_writes {ws : List Write} (h : Run (Writes enc) db ws db') :
    db'.phonebooks = db.phonebooks := by
  refine h.invariant (I := fun d => d.phonebooks = db.phonebooks) rfl fun hd hw => ?_
  cases hw with
  | created | edited | deleted => exact hd

/-- **The phonebooks after a call** are those there were; or one more, of a
new uuid; or one that the call sees is written anew, or is gone. -/
theorem phonebooks_cases (enc : Encoding) (server : Server) (db : Database) (call : Call) :
    (call.run enc server db).2.phonebooks = db.phonebooks ∨
    (∃ q, (∀ r ∈ db.phonebooks, r.uuid ≠ q.uuid) ∧
      (call.run enc server db).2.phonebooks = db.phonebooks ++ [q]) ∨
    ∃ q ∈ db.phonebooks, call.Sees q.tenantUuid ∧
      ((∃ q', q'.uuid = q.uuid ∧ (call.run enc server db).2.phonebooks =
        db.phonebooks.map fun r => if r.uuid = q.uuid then q' else r) ∨
      (call.run enc server db).2.phonebooks =
        db.phonebooks.filter fun r => !(r.uuid = q.uuid)) := by
  cases call with
  | create visibleTenants key body =>
      rcases create_cases (Prod.eta (create enc server db visibleTenants key body)).symm with
        ⟨e, -, hdb⟩ | ⟨p, w, -, -, hone⟩
      · exact Or.inl (congrArg Database.phonebooks hdb)
      · exact Or.inl (phonebooks_of_writes (Run.single (writes_of_createOne hone)))
  | createMany visibleTenants key bodies =>
      rcases createMany_cases (Prod.eta (createMany enc server db visibleTenants key bodies)).symm
        with ⟨e, -, hdb⟩ | ⟨created, -, -, hrun⟩
      · exact Or.inl (congrArg Database.phonebooks hdb)
      · exact Or.inl (phonebooks_of_writes hrun)
  | edit visibleTenants key uuid body =>
      rcases edit_cases (Prod.eta (edit enc server db visibleTenants key uuid body)).symm with
        ⟨e, -, hdb⟩ | ⟨p, c, fields, -, -, -, -, -, -, -, hdb⟩
      · exact Or.inl (congrArg Database.phonebooks hdb)
      · exact Or.inl (congrArg Database.phonebooks hdb :)
  | delete visibleTenants key uuid =>
      have hcases : _ ∨ _ ∧ Writes enc db (.deleted uuid) (delete db visibleTenants key uuid).2 :=
        delete_cases (Prod.eta (delete db visibleTenants key uuid)).symm
      rcases hcases with ⟨e, -, hdb⟩ | ⟨-, hw⟩
      · exact Or.inl (congrArg Database.phonebooks hdb)
      · exact Or.inl (phonebooks_of_writes (Run.single hw))
  | createPhonebook defaults tenantUuid body =>
      rcases PhonebookCRUD.create_cases
        (Prod.eta (PhonebookCRUD.create db defaults tenantUuid body)).symm with
        ⟨e, -, hdb⟩ | ⟨q, -, hdb, -, -, hnew⟩
      · exact Or.inl (congrArg Database.phonebooks hdb)
      · exact Or.inr (Or.inl ⟨q, hnew, congrArg Database.phonebooks hdb⟩)
  | editPhonebook tenants key body =>
      rcases PhonebookCRUD.edit_cases
        (Prod.eta (PhonebookCRUD.edit db (some tenants) key body)).symm with
        ⟨e, -, hdb⟩ | ⟨q, hq, q', -, hsees, -, hq', hdb⟩
      · exact Or.inl (congrArg Database.phonebooks hdb)
      · refine Or.inr (Or.inr ⟨q, hq, hsees, Or.inl ⟨q', by rw [hq'], ?_⟩⟩)
        exact congrArg Database.phonebooks hdb
  | deletePhonebook tenants key =>
      rcases PhonebookCRUD.delete_cases
        (Prod.eta (PhonebookCRUD.delete db (some tenants) key)).symm with
        ⟨e, -, hdb⟩ | ⟨q, hq, -, hsees, -, hdb⟩
      · exact Or.inl (congrArg Database.phonebooks hdb)
      · exact Or.inr (Or.inr ⟨q, hq, hsees, Or.inr (congrArg Database.phonebooks hdb)⟩)

/-- A uuid names one phonebook, after any call. -/
theorem nodup_phonebooks (h : (db.phonebooks.map Phonebook.uuid).Nodup) :
    ((call.run enc server db).2.phonebooks.map Phonebook.uuid).Nodup := by
  rcases phonebooks_cases enc server db call with
    heq | ⟨q, hnew, heq⟩ | ⟨q, -, -, ⟨q', hq', heq⟩ | heq⟩
  · rwa [heq]
  · rw [heq]
    exact keys_append h hnew
  · rw [heq, keys_replace hq']
    exact h
  · rw [heq]
    exact keys_filter h _

/-- **A phonebook that a call does not see stays.** -/
theorem mem_phonebooks_of_unseen (h : (db.phonebooks.map Phonebook.uuid).Nodup)
    (hp : p ∈ db.phonebooks) (hunseen : ¬ call.Sees p.tenantUuid) :
    p ∈ (call.run enc server db).2.phonebooks := by
  have hne : ∀ q ∈ db.phonebooks, call.Sees q.tenantUuid → p.uuid ≠ q.uuid := by
    intro q hq hsees huuid
    rw [eq_of_key h hp hq huuid] at hunseen
    exact hunseen hsees
  rcases phonebooks_cases enc server db call with
    heq | ⟨q, hnew, heq⟩ | ⟨q, hq, hsees, ⟨q', hq', heq⟩ | heq⟩
  · rwa [heq]
  · rw [heq]
    exact List.mem_append_left _ hp
  · rw [heq]
    exact List.mem_map.2 ⟨p, hp, if_neg (hne q hq hsees)⟩
  · rw [heq]
    exact List.mem_filter.2 ⟨hp, by simpa using hne q hq hsees⟩

/-! ## What a call asks for -/

/-- A phonebook that is found is seen. -/
theorem mem_of_selector {tenants : List Uuid}
    (h : phonebookSelector (some tenants) key p = true) : p.tenantUuid ∈ tenants := by
  cases tenants with
  | nil => simp [phonebookSelector] at h
  | cons t ts =>
      simp only [phonebookSelector, Bool.and_eq_true, decide_eq_true_eq] at h
      exact h.2

/-- What is made of a phonebook that is found. -/
theorem exists_of_toOption_map {α : Type} {r : Except DirdError Phonebook} {f : Phonebook → α}
    {a : α} (h : r.toOption.map f = some a) : ∃ q, r = .ok q ∧ f q = a := by
  cases r with
  | error e => cases h
  | ok q => exact ⟨q, rfl, Option.some.inj h⟩

/-- **A call asks for cards of a phonebook that it sees.** -/
theorem exists_of_told {c : Book.Call Uuid Uuid Contents} {answer : Book.Answer}
    (h : call.told enc server db = some (c, answer)) :
    ∃ q ∈ db.phonebooks, c.owner = q.uuid ∧ call.Sees q.tenantUuid := by
  have hfound : ∀ {visibleTenants key q}, getPhonebook db visibleTenants key = .ok q →
      q ∈ db.phonebooks ∧ ∀ tenants, visibleTenants = some tenants → q.tenantUuid ∈ tenants := by
    intro visibleTenants key q hq
    obtain ⟨hmem, hsel⟩ := getPhonebook_ok hq
    refine ⟨hmem, ?_⟩
    rintro tenants rfl
    exact mem_of_selector hsel
  cases call with
  | create | createMany | edit | delete =>
      obtain ⟨q, hq, heq⟩ := exists_of_toOption_map h
      cases heq
      exact ⟨q, (hfound hq).1, rfl, (hfound hq).2⟩
  | createPhonebook | editPhonebook => cases h
  | deletePhonebook =>
      obtain ⟨q, hq, heq⟩ := exists_of_toOption_map h
      cases heq
      obtain ⟨hmem, htenant⟩ := PhonebookCRUD.getByTenantAndId_ok hq
      exact ⟨q, hmem, rfl, htenant⟩

/-! ## Every run -/

/-- **A run that does not see a phonebook** leaves it, and asks for none of
its cards. -/
theorem unseen_run (hrun : Run (Answered enc) s calls s')
    (hnodup : (s.db.phonebooks.map Phonebook.uuid).Nodup) (hp : p ∈ s.db.phonebooks)
    (hunseen : ∀ a ∈ calls, ¬ a.1.Sees p.tenantUuid) :
    (s'.db.phonebooks.map Phonebook.uuid).Nodup ∧ p ∈ s'.db.phonebooks ∧
      ∀ a ∈ calls.filterMap Prod.snd, p.uuid ≠ a.1.owner := by
  induction hrun with
  | nil => exact ⟨hnodup, hp, fun a ha => by cases ha⟩
  | @snoc t u l a _ hs ih =>
      obtain ⟨hnodup', hp', hasks⟩ := ih fun a ha => hunseen a (List.mem_append_left _ ha)
      have ha : ¬ a.1.Sees p.tenantUuid := hunseen a (by simp)
      obtain ⟨server, -, -, htold, rfl⟩ := hs
      refine ⟨nodup_phonebooks hnodup', mem_phonebooks_of_unseen hnodup' hp' ha, fun x hx => ?_⟩
      rw [List.filterMap_append, List.mem_append] at hx
      rcases hx with hx | hx
      · exact hasks x hx
      · obtain ⟨a', ha', hasked⟩ := List.mem_filterMap.1 hx
        rw [List.mem_singleton.1 ha'] at hasked
        obtain ⟨q, hq, howner, hsees⟩ := exists_of_told (htold.symm.trans hasked)
        intro huuid
        rw [eq_of_key hnodup' hp' hq (huuid.trans howner)] at ha
        exact ha hsees

/-- **The same is read in a phonebook**, by tenants who see it. -/
structure SameReads (db db' : Database) (p : Phonebook) (visibleTenants : Option (List Uuid)) :
    Prop where
  phonebook : getPhonebook db' visibleTenants (.uuid p.uuid) = .ok p
  get : ∀ (o o' : RowOrder ContactFields) contactUuid k,
    (∃ contact, PhonebookContactCRUD.get o' db' visibleTenants (.uuid p.uuid) contactUuid =
      .ok contact ∧ readContents contact = k) ↔
    ∃ contact, PhonebookContactCRUD.get o db visibleTenants (.uuid p.uuid) contactUuid =
      .ok contact ∧ readContents contact = k
  list : ∀ lower (o o' : RowOrder ContactFields) search, NullFree search.toList →
    ∃ contacts contacts',
      PhonebookContactCRUD.list lower o db visibleTenants (.uuid p.uuid) search = .ok contacts ∧
      PhonebookContactCRUD.list lower o' db' visibleTenants (.uuid p.uuid) search =
        .ok contacts' ∧
      (contacts'.map readContents).Perm (contacts.map readContents)
  refused : ∀ lower (o o' : RowOrder ContactFields) search, ¬ NullFree search.toList →
    PhonebookContactCRUD.list lower o db visibleTenants (.uuid p.uuid) search =
        .error (.python .valueError) ∧
      PhonebookContactCRUD.list lower o' db' visibleTenants (.uuid p.uuid) search =
        .error (.python .valueError)
  count : ∀ lower search,
    PhonebookContactCRUD.count lower db' visibleTenants (.uuid p.uuid) search =
      PhonebookContactCRUD.count lower db visibleTenants (.uuid p.uuid) search

/-- A phonebook is found by its uuid, by tenants who see it. -/
theorem getPhonebook_of_mem (hnodup : (db.phonebooks.map Phonebook.uuid).Nodup)
    (hp : p ∈ db.phonebooks)
    (hsees : ∀ tenants, visibleTenants = some tenants → p.tenantUuid ∈ tenants) :
    getPhonebook db visibleTenants (.uuid p.uuid) = .ok p := by
  have hsel : phonebookSelector visibleTenants (.uuid p.uuid) p = true := by
    cases visibleTenants with
    | none => simp [phonebookSelector, phonebookKeyToFilter]
    | some tenants =>
        have hmem := hsees tenants rfl
        cases tenants with
        | nil => cases hmem
        | cons t ts => simpa [phonebookSelector, phonebookKeyToFilter] using hmem
  cases hfind : db.phonebooks.find? (phonebookSelector visibleTenants (.uuid p.uuid)) with
  | none => exact absurd hsel (List.find?_eq_none.1 hfind p hp)
  | some q =>
      have hget : getPhonebook db visibleTenants (.uuid p.uuid) = .ok q := by
        rw [getPhonebook, hfind]
      rw [hget, eq_of_key hnodup (getPhonebook_ok hget).1 hp (uuid_of_getPhonebook hget)]

/-- Cards listed twice are the same contents, in some order. -/
theorem perm_of_cards {uuids uuids' : List Uuid} {contacts contacts' : List ContactInfo} {w : Uuid}
    (hcards : ∀ i k, b'.card i = some (w, k) ↔ b.card i = some (w, k))
    (hperm : uuids'.Perm uuids)
    (hall : List.Forall₂ (fun i contact => b.card i = some (w, readContents contact))
      uuids contacts)
    (hall' : List.Forall₂ (fun i contact => b'.card i = some (w, readContents contact))
      uuids' contacts') :
    (contacts'.map readContents).Perm (contacts.map readContents) := by
  have hmap : ∀ {uuids contacts},
      List.Forall₂ (fun i contact => b.card i = some (w, readContents contact)) uuids contacts →
      contacts.map readContents =
        uuids.map fun i => ((b.card i).map Prod.snd).getD fun _ => none := by
    intro uuids contacts hall
    induction hall with
    | nil => rfl
    | cons hcard _ ih => rw [List.map_cons, List.map_cons, ih, hcard]; rfl
  rw [hmap hall, hmap (hall'.imp fun i contact => (hcards i _).1)]
  exact hperm.map _

/-- **Nothing that tenants do changes a phonebook that they do not see.**
Over any run of calls none of which sees it, the phonebook stays, and the
same is read in it. -/
theorem unseen_reads_same (hsha : Function.Injective enc.sha1) (hs : Start s₀)
    (hnodup : (s₀.db.phonebooks.map Phonebook.uuid).Nodup)
    (hrun : Run (Answered enc) s₀ calls s) (hp : p ∈ s.db.phonebooks)
    (hrun' : Run (Answered enc) s calls' s')
    (hunseen : ∀ a ∈ calls', ¬ a.1.Sees p.tenantUuid)
    (hsees : ∀ tenants, visibleTenants = some tenants → p.tenantUuid ∈ tenants) :
    SameReads s.db s'.db p visibleTenants := by
  obtain ⟨b₀, h₀, -⟩ := hs.showsBook
  obtain ⟨b, -, h⟩ := h₀.run hsha hrun
  obtain ⟨b', hbook, h'⟩ := h.run hsha hrun'
  have hnodup₁ : (s.db.phonebooks.map Phonebook.uuid).Nodup := by
    refine hrun.invariant (I := fun s => (s.db.phonebooks.map Phonebook.uuid).Nodup) hnodup ?_
    rintro s a s' hnodup ⟨server, -, -, -, rfl⟩
    exact nodup_phonebooks hnodup
  obtain ⟨hnodup', hp', hasks⟩ := unseen_run hrun' hnodup₁ hp hunseen
  have hcards : ∀ i k, b'.card i = some (p.uuid, k) ↔ b.card i = some (p.uuid, k) :=
    fun i k => Book.card_of_others hbook hasks
  have hget := getPhonebook_of_mem hnodup₁ hp hsees
  have hget' := getPhonebook_of_mem hnodup' hp' hsees
  refine ⟨hget', fun o o' contactUuid k => ?_, fun lower o o' search htexts => ?_,
    fun lower o o' search htexts => ?_, fun lower search => ?_⟩
  · rw [h'.get_iff hget', h.get_iff hget, hcards]
  · obtain ⟨uuids, contacts, hlist, hunique, hmem, hall⟩ :=
      (h.reads lower).list o visibleTenants _ p search hget htexts
    obtain ⟨uuids', contacts', hlist', hunique', hmem', hall'⟩ :=
      (h'.reads lower).list o' visibleTenants _ p search hget' htexts
    refine ⟨contacts, contacts', hlist, hlist', perm_of_cards hcards ?_ hall hall'⟩
    refine (List.perm_ext_iff_of_nodup hunique' hunique).2 fun i => ?_
    simp only [hmem, hmem', hcards]
  · exact ⟨((h.reads lower).refused o visibleTenants _ p search hget htexts).1,
      ((h'.reads lower).refused o' visibleTenants _ p search hget' htexts).1⟩
  · by_cases htexts : NullFree search.toList
    swap
    · rw [((h.reads lower).refused .asStored visibleTenants _ p search hget htexts).2,
        ((h'.reads lower).refused .asStored visibleTenants _ p search hget' htexts).2]
    obtain ⟨uuids, hcount, hunique, hmem⟩ :=
      (h.reads lower).count visibleTenants _ p search hget htexts
    obtain ⟨uuids', hcount', hunique', hmem'⟩ :=
      (h'.reads lower).count visibleTenants _ p search hget' htexts
    have hperm : uuids'.Perm uuids := by
      refine (List.perm_ext_iff_of_nodup hunique' hunique).2 fun i => ?_
      simp only [hmem, hmem', hcards]
    rw [hcount, hcount', hperm.length_eq]

/-- Another tenant creates a phonebook of the same name. -/
def createOther : Call := .createPhonebook ⟨"q", 2⟩ "other" ⟨"clients", none⟩

/-- And the contact of the first is read as before. -/
theorem unseen_reads_same_createOther :
    SameReads oneClient.db (oneClient.next .plain .plain createOther).db
      { id := 1, uuid := "p", name := "clients", tenantUuid := "t" } (some ["t"]) := by
  have hrun : Run (Answered .plain) oneClient [(createOther, none)]
      (oneClient.next .plain .plain createOther) := by
    refine Run.single ⟨.plain, trivial, fun body hbody => ?_, rfl, rfl⟩
    cases hbody
  refine unseen_reads_same Function.injective_id start_onePhonebook (by decide)
    answered_createClient (by decide) hrun (fun a ha => ?_) ?_
  · rw [List.mem_singleton.1 ha]
    exact id
  · rintro tenants ⟨⟩
    exact List.mem_singleton_self _

end PhonebookContacts

end WazoDird
