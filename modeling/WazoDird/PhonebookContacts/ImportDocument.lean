import WazoDird.PersonalContacts.Export
import WazoDird.PhonebookContacts.ImportEndpoints

/-!
# Importing a document

What a request of the import endpoint leaves, in any state a run of the
service's writes reaches: a request that is not answered 201 leaves the
database as it was (`post_allOrNothing`), and the document the language's
writer makes of contacts stores these contacts (`post_written`).
-/

namespace WazoDird

open Excel PhonebookContactCRUD PhonebookService

namespace PhonebookContacts

variable {enc : Encoding} {server : Server} {s s₀ : Store} {calls : List Call}
  {db db' : Database} {visibleTenants : List Uuid} {key : PhonebookKey}

/-! ## When an import fails -/

/-- The loop raises, or collects an error, at a row that fails. -/
theorem rowFails_of_loop {p : Phonebook} {bodies : List ContactBody}
    (hp : getPhonebook db (some visibleTenants) key = .ok p)
    (h : ∀ t, bodies.zipIdx.foldlM (createNext enc server p.tenantUuid p.uuid) { db := db } = .ok t →
      t.errors ≠ []) :
    RowFails enc server db visibleTenants key bodies := by
  suffices hloop : ∀ (done rest : List (ContactBody × ℕ)) (t : Created),
      bodies.zipIdx = done ++ rest →
      done.foldlM (createNext enc server p.tenantUuid p.uuid) { db := db } = .ok t →
      t.errors = [] →
      (∀ t', rest.foldlM (createNext enc server p.tenantUuid p.uuid) t = .ok t' → t'.errors ≠ []) →
      RowFails enc server db visibleTenants key bodies from
    hloop [] bodies.zipIdx _ rfl rfl rfl h
  intro done rest
  induction rest generalizing done with
  | nil =>
      intro t _ _ hnone hrest
      exact absurd hnone (hrest t rfl)
  | cons entry rest ih =>
      obtain ⟨body, i⟩ := entry
      intro t hsplit hdone hnone hrest
      by_cases hfails : ∃ e, createOne enc server t.db i p.tenantUuid p.uuid body = .error e ∧
          e ≠ .duplicatedContact
      · obtain ⟨e, hone, hne⟩ := hfails
        exact ⟨p, done, body, i, rest, t, e, hp, hsplit, hdone, hone, hne⟩
      -- the row is created or passed over, and the loop goes on
      · cases hnext : createNext enc server p.tenantUuid p.uuid t (body, i) with
        | error e =>
            simp only [createNext] at hnext
            split at hnext
            · cases hnext
            · cases hnext
            · cases hnext
            · next e' hdup _ hone => exact absurd ⟨_, hone, hdup⟩ hfails
        | ok t₁ =>
            have hnone₁ : t₁.errors = [] := by
              rcases createNext_cases hnext with ⟨w, -, -, herrors⟩ | ⟨-, rfl⟩ | ⟨m, a, k, d, hone, -⟩
              · rw [herrors, hnone]
              · exact hnone
              · exact absurd ⟨_, hone, by simp⟩ hfails
            refine ih (done ++ [(body, i)]) t₁ (by simp [hsplit]) ?_ hnone₁ fun t' ht' => ?_
            · rw [List.foldlM_append, hdone]
              exact bind_eq_ok.2 ⟨t, rfl, bind_eq_ok.2 ⟨t₁, hnext, rfl⟩⟩
            · exact hrest t' (bind_eq_ok.2 ⟨t₁, hnext, ht'⟩)

/-- **An import of contacts that pass the check raises** where the phonebook
is not seen or a row fails, and nowhere else. -/
theorem importContacts_raises {raws : List RawContact} (hvalid : importErrors raws = [])
    {e : DirdError} (h : importContacts enc server db visibleTenants key raws = (.error e, db')) :
    ImportFails enc server db visibleTenants key raws := by
  rw [importContacts, if_neg (not_not.2 hvalid), importBodies_eq hvalid] at h
  cases hp : getPhonebook db (some visibleTenants) key with
  | error e' =>
      refine .notVisible fun p hmem => Bool.eq_false_iff.2 fun hsel => ?_
      unfold getPhonebook at hp
      split at hp
      · next hnone => exact List.find?_eq_none.1 hnone p hmem hsel
      · cases hp
  | ok p =>
      refine .row (rowFails_of_loop hp fun t hloop hnone => ?_)
      rw [createMany, hp] at h
      have hbody : (do
          let t ← (raws.map fun raw => raw.named.erase "id").zipIdx.foldlM
            (createNext enc server p.tenantUuid p.uuid) { db := db }
          raiseIf (t.errors ≠ []) (.contactsCreation "Failed to create contacts" t.errors)
          return (t.db, (t.good, t.errors)) : Except DirdError _) = .ok (t.db, (t.good, t.errors)) :=
        bind_eq_ok.2 ⟨t, hloop, bind_eq_ok.2 ⟨(), raiseIf_ok.2 (by simpa using hnone), rfl⟩⟩
      simp only [bind, Except.bind] at h hbody
      rw [hbody] at h
      cases h

/-- **What an import comes to**: it fails, and must; or it is answered without
an error. -/
theorem importContacts_cases {raws : List RawContact}
    {r : Except DirdError (List ContactBody × List ContactEntryError)}
    (h : importContacts enc server db visibleTenants key raws = (r, db')) :
    (ImportFailed db (r, db') ∧ ImportFails enc server db visibleTenants key raws) ∨
      ∃ answer, r = .ok (answer, []) := by
  by_cases hvalid : importErrors raws = []
  · cases r with
    | error e =>
        refine Or.inl ⟨⟨?_, Or.inl ⟨e, rfl⟩⟩, importContacts_raises hvalid h⟩
        have hfailed := importFailed_of_fails (importContacts_raises hvalid h)
        rw [h] at hfailed
        exact hfailed.1
    | ok r =>
        obtain ⟨created, failed⟩ := r
        by_cases hnone : failed = []
        · exact Or.inr ⟨created, by rw [hnone]⟩
        · -- errors are those of contacts that do not pass the check
          rw [importContacts, if_neg (not_not.2 hvalid)] at h
          cases hcreate : createMany enc server db (some visibleTenants) key (importBodies raws) with
          | mk r db₁ =>
          rw [hcreate] at h
          cases r with
          | error e => cases h
          | ok r =>
            obtain ⟨p, t, -, -, -, rfl, -⟩ := createMany_ok hcreate
            cases h
            exact absurd rfl hnone
  · have hexists : ∃ raw ∈ raws, ∃ e, validateContact raw = .error e := by
      by_contra hnone
      refine hvalid (importErrors_eq_nil.2 fun raw hraw => ?_)
      cases hbody : validateContact raw with
      | error e => exact absurd ⟨raw, hraw, e, hbody⟩ hnone
      | ok body => exact ⟨body, rfl⟩
    obtain ⟨raw, hraw, e, he⟩ := hexists
    rw [importContacts, if_pos hvalid] at h
    obtain ⟨rfl, rfl⟩ := Prod.mk.inj h
    exact Or.inl ⟨⟨rfl, Or.inr ⟨_, hvalid, rfl⟩⟩, .invalid hraw he⟩

/-! ## What a body that is read says -/

section Read

variable {codecs : Codecs} {o : RowOrder String} {request : ImportRequest}

/-- No column is reported when every name stands once. -/
theorem duplicateColumns_eq_nil {fields : List (List Char)} :
    duplicateColumns o fields = [] ↔ fields.Nodup := by
  have hnil : ∀ l, o.order l = [] ↔ l = [] := fun l => by
    rw [← List.length_eq_zero_iff, (o.perm l).length_eq, List.length_eq_zero_iff]
  rw [duplicateColumns, hnil, List.map_eq_nil_iff, List.dedup_eq_nil, List.filter_eq_nil_iff,
    List.nodup_iff_count_le_one]
  simp only [decide_eq_true_eq, Nat.not_lt]
  refine ⟨fun h f => ?_, fun h f _ => h f⟩
  by_cases hf : f ∈ fields
  · exact h f hf
  · rw [List.count_eq_zero_of_not_mem hf]
    exact Nat.zero_le 1

/-- **A body that is read**: it is the text of a document whose first record
repeats no name, and whose other records, less the empty ones, are the
contacts. -/
structure ReadAs (codecs : Codecs) (request : ImportRequest) (names : List (List Char))
    (contacts : List RawContact) (text : String) : Prop where
  decoded : codecs request.codec request.data = .ok text
  header : firstRecord fieldSizeLimit {} (text.toList.splitOn '\n') = .ok (some names)
  rows : (dictReader fieldSizeLimit (text.toList.splitOn '\n')).map (·.map Prod.snd) = .ok contacts
  nodup : names.Nodup
  nonempty : contacts ≠ []

/-- Lines are read as these contacts. -/
theorem readLines_eq_ok {byteCount : ℕ} {line : List Char} {lines : List (List Char)}
    {contacts : List RawContact} :
    PhonebookContactImport.readLines o byteCount (line :: lines) = .ok contacts ↔
      ∃ names, firstRecord fieldSizeLimit {} (line :: lines) = .ok (some names) ∧ names.Nodup ∧
        (dictReader fieldSizeLimit (line :: lines)).map (·.map Prod.snd) = .ok contacts ∧
        contacts ≠ [] := by
  unfold PhonebookContactImport.readLines
  cases hfirst : firstRecord fieldSizeLimit {} (line :: lines) with
  | error e =>
      refine iff_of_false (fun h => by cases h) ?_
      rintro ⟨names, hnames, -⟩
      cases hnames
  | ok first =>
      obtain ⟨names, rfl⟩ := Option.isSome_iff_exists.1 (firstRecord_isSome hfirst)
      simp only [Except.ok.injEq, Option.some.injEq, exists_eq_left',
        ← duplicateColumns_eq_nil (o := o)]
      show (if duplicateColumns o names ≠ [] then _ else _) = _ ↔ _
      by_cases hduplicates : duplicateColumns o names = []
      · rw [if_neg (not_not.2 hduplicates)]
        simp only [hduplicates, true_and]
        cases dictReader fieldSizeLimit (line :: lines) with
        | error e => exact iff_of_false (fun h => by cases h) (fun h => by cases h.1)
        | ok rows =>
            show (if rows = [] then _ else _) = _ ↔ _
            by_cases hrows : rows = []
            · rw [if_pos hrows, hrows]
              refine iff_of_false (fun h => by cases h) ?_
              rintro ⟨h, hne⟩
              exact hne (Except.ok.inj h).symm
            · rw [if_neg hrows]
              constructor
              · rintro ⟨⟩
                exact ⟨rfl, by simpa using hrows⟩
              · rintro ⟨h, -⟩
                exact congrArg Except.ok (Except.ok.inj h)
      · rw [if_pos hduplicates]
        exact iff_of_false (fun h => by cases h) fun h => hduplicates h.1

/-- **The endpoint reads a body as its contacts.** -/
theorem toAdd_eq_ok {contacts : List RawContact} :
    PhonebookContactImport.toAdd codecs o request = .ok contacts ↔
      ∃ text names, ReadAs codecs request names contacts text := by
  unfold PhonebookContactImport.toAdd PhonebookContactImport.decode
  cases htext : codecs request.codec request.data with
  | error e =>
      have hnot : ¬ ∃ text names, ReadAs codecs request names contacts text := by
        rintro ⟨text, names, hread⟩
        rw [hread.decoded] at htext
        cases htext
      refine iff_of_false ?_ hnot
      cases e with
      | lookup message =>
          dsimp only
          split <;> exact fun h => by cases h
      | unicode => exact fun h => by cases h
  | ok text =>
      show PhonebookContactImport.readLines o request.data.length (text.toList.splitOn '\n') = _ ↔ _
      constructor
      · intro h
        obtain ⟨line, lines, hlines⟩ := List.exists_cons_of_ne_nil
          (List.splitOn_ne_nil '\n' text.toList)
        rw [hlines] at h
        obtain ⟨names, hheader, hnodup, hrows, hne⟩ := readLines_eq_ok.1 h
        exact ⟨text, names, htext, hlines ▸ hheader, hlines ▸ hrows, hnodup, hne⟩
      · rintro ⟨text', names, hdecoded, hheader, hrows, hnodup, hne⟩
        obtain rfl : text = text' := Except.ok.inj (htext.symm.trans hdecoded)
        obtain ⟨line, lines, hlines⟩ := List.exists_cons_of_ne_nil
          (List.splitOn_ne_nil '\n' text.toList)
        rw [hlines] at hheader hrows ⊢
        exact readLines_eq_ok.2 ⟨names, hheader, hnodup, hrows, hne⟩

end Read

/-! ## What a request leaves -/

section Post

variable {codecs : Codecs} {o : RowOrder String} {request : ImportRequest}
  {phonebookUuid : Uuid} {r : Except ImportRaised (List ContactBody)}

/-- Only one list of contacts is read of a body. -/
theorem ReadAs.eq {text text' : String} {names names' : List (List Char)}
    {contacts contacts' : List RawContact} (h : ReadAs codecs request names contacts text)
    (h' : ReadAs codecs request names' contacts' text') : contacts' = contacts := by
  obtain rfl : text = text' := Except.ok.inj (h.decoded.symm.trans h'.decoded)
  exact Except.ok.inj (h'.rows.symm.trans h.rows)

/-- **What `post` does**: it does not read the body, or its import fails and
must, and it leaves the database; or its import is answered without an
error. -/
theorem post_cases
    (h : PhonebookContactImport.post codecs o enc server db visibleTenants phonebookUuid request =
      (r, db')) :
    (db' = db ∧ (∃ e, r = .error e) ∧ ∀ text names contacts,
      ReadAs codecs request names contacts text →
        ImportFails enc server db visibleTenants (.uuid phonebookUuid) contacts) ∨
    ∃ text names contacts answer, ReadAs codecs request names contacts text ∧ r = .ok answer ∧
      importContacts enc server db visibleTenants (.uuid phonebookUuid) contacts =
        (.ok (answer, []), db') := by
  unfold PhonebookContactImport.post at h
  cases hread : PhonebookContactImport.toAdd codecs o request with
  | error e =>
      rw [hread] at h
      cases h
      refine Or.inl ⟨rfl, ⟨e, rfl⟩, fun text names contacts hreadAs => ?_⟩
      rw [toAdd_eq_ok.2 ⟨text, names, hreadAs⟩] at hread
      cases hread
  | ok contacts =>
      simp only [hread] at h
      obtain ⟨text, names, hreadAs⟩ := toAdd_eq_ok.1 hread
      cases himport : importContacts enc server db visibleTenants (.uuid phonebookUuid)
        contacts with
      | mk imported db₁ =>
      rw [himport] at h
      rcases importContacts_cases himport with ⟨⟨rfl, hfailed⟩, hfails⟩ | ⟨answer, rfl⟩
      · have hraised : ∃ e, r = .error e ∧ db' = db₁ := by
          rcases hfailed with ⟨e, rfl⟩ | ⟨errors, herrors, rfl⟩
          · cases h
            exact ⟨_, rfl, rfl⟩
          · simp only [ne_eq, herrors, not_false_eq_true, if_true] at h
            cases h
            exact ⟨_, rfl, rfl⟩
        obtain ⟨e, rfl, rfl⟩ := hraised
        refine Or.inl ⟨rfl, ⟨e, rfl⟩, fun text' names' contacts' hreadAs' => ?_⟩
        rwa [hreadAs.eq hreadAs']
      · cases h
        exact Or.inr ⟨text, names, contacts, answer, hreadAs, rfl, himport⟩

/-- **A request is answered 201 exactly when its import need not fail**, and
leaves the database as it was when it is not. In every state a run of the
service's writes reaches, one that is answered leaves what `Imported` says
of the contacts its body is read as, and is answered what `Returned` says,
when no row of it is short. -/
theorem post_allOrNothing (hsha : Function.Injective enc.sha1) (hs : Start s₀)
    (hrun : Run (Guarded (fun _ call => ∀ body ∈ call.bodies, body.get? "id" = none) (Step enc))
      s₀ calls s)
    (h : PhonebookContactImport.post codecs o enc server s.db visibleTenants phonebookUuid request =
      (r, db')) :
    ((∃ answer, r = .ok answer) ↔ ∃ text names contacts,
      ReadAs codecs request names contacts text ∧
        ¬ ImportFails enc server s.db visibleTenants (.uuid phonebookUuid) contacts) ∧
    ((∃ e, r = .error e) → db' = s.db) ∧
    ∀ text names contacts answer, ReadAs codecs request names contacts text → r = .ok answer →
      (∀ raw ∈ contacts, ∀ k v, (some k, v) ∈ raw.entries → ∃ a, v = .str a) →
      ∃ created, answer = created.map WrittenContact.fieldsDict ∧
        Imported enc s phonebookUuid (contacts.map fun raw => raw.named.erase "id") created
          (afterImport s db' created) ∧
        Returned enc s phonebookUuid (contacts.map fun raw => raw.named.erase "id") answer
          (afterImport s db' created) := by
  rcases post_cases h with ⟨rfl, ⟨e, rfl⟩, hfails⟩ |
    ⟨text, names, contacts, answer, hread, rfl, himport⟩
  · refine ⟨iff_of_false (fun hok => by cases hok.choose_spec) ?_, fun _ => rfl, ?_⟩
    · rintro ⟨text, names, contacts, hread, hnot⟩
      exact hnot (hfails text names contacts hread)
    · intro _ _ _ _ _ hok
      cases hok
  · obtain ⟨-, p, created, hp, hanswer, himported⟩ := importContacts_ok hsha hs hrun himport
    refine ⟨iff_of_true ⟨answer, rfl⟩ ⟨text, names, contacts, hread, fun hfails => ?_⟩, ?_, ?_⟩
    · -- an import that must fail would have
      have hfailed := importFailed_of_fails hfails
      rw [himport] at hfailed
      rcases hfailed.2 with ⟨e, he⟩ | ⟨errors, hne, he⟩
      · cases he
      · exact hne (congrArg Prod.snd (Except.ok.inj he)).symm
    · rintro ⟨e, he⟩
      cases he
    · intro text' names' contacts' answer' hread' hok htexts
      obtain rfl := Except.ok.inj hok
      obtain rfl := hread.eq hread'
      obtain rfl := uuid_of_getPhonebook hp
      exact ⟨created, hanswer, himported htexts⟩

/-- The document of one contact is imported. -/
theorem post_allOrNothing_oneContact : ∃ answer db' created,
    PhonebookContactImport.post latin1 RowOrder.asStored Encoding.plain Server.plain
        onePhonebook.db ["t"] "p" oneContact = (.ok answer, db') ∧
      answer = created.map WrittenContact.fieldsDict ∧
      Imported Encoding.plain onePhonebook "p" [(rawText "name" "Alice").named.erase "id"] created
        (afterImport onePhonebook db' created) ∧
      Returned Encoding.plain onePhonebook "p" [(rawText "name" "Alice").named.erase "id"] answer
        (afterImport onePhonebook db' created) := by
  obtain ⟨answer, db', hpost⟩ := post_oneContact
  have hread : ReadAs latin1 oneContact ["name".toList] [rawText "name" "Alice"]
      "name\r\nAlice\r\n" := ⟨rfl, rfl, rfl, by decide, by simp⟩
  have htexts : ∀ raw ∈ [rawText "name" "Alice"], ∀ k v, (some k, v) ∈ raw.entries →
      ∃ a, v = .str a := by
    intro raw hraw k v hkv
    obtain rfl := List.mem_singleton.1 hraw
    exact texts_rawText "name" "Alice" _ hkv
  obtain ⟨created, hanswer, himported⟩ := (post_allOrNothing Function.injective_id
    start_onePhonebook (Run.nil _) hpost).2.2 _ _ _ _ hread rfl htexts
  exact ⟨answer, db', created, hpost, hanswer, himported⟩

end Post

/-! ## A document that was written -/

/-- What the language's writer makes of column names and of the cells of
contacts under them. -/
def writtenDocument (names : List String) (rows : List (List String)) : String :=
  String.ofList (((names :: rows).map (·.map String.toList)).flatMap writeRow)

/-- A contact, by its cells: what a phonebook stores of it is without the id. -/
def contactOf (names row : List String) : ContactBody :=
  (Dict.ofList ((names.zip row).map fun (name, cell) => (name, Value.str cell))).erase "id"

/-- **Contacts that can be written and read**: columns of different names that
are not empty, a cell in each, and nothing a reader does not give back. -/
structure Written (names : List String) (rows : List (List String)) : Prop where
  nodup : names.Nodup
  named : names ≠ [] ∧ "" ∉ names
  filled : rows ≠ [] ∧ ∀ row ∈ rows, row.length = names.length
  readable : (∀ name ∈ names, PersonalAll.Readable name) ∧
    ∀ row ∈ rows, ∀ cell ∈ row, PersonalAll.Readable cell

section Written

variable {names row : List String} {rows : List (List String)}

/-- A row of readable cells is read as it is. -/
theorem map_joined_eq_self {cells : List String} (h : ∀ cell ∈ cells, PersonalAll.Readable cell) :
    (cells.map String.toList).map joined = cells.map String.toList := by
  rw [List.map_map]
  exact List.map_congr_left fun cell hcell => joined_eq_self.2 (h cell hcell).1

/-- The row a `DictReader` gives of a contact. -/
def rawOf (names row : List String) : RawContact :=
  dictRow (names.map String.toList) (row.map String.toList)

/-- Nothing is lost of the cells of a document written. -/
theorem Written.mapM_readField (h : Written names rows) :
    (((names :: rows).map (·.map String.toList)).mapM fun row : List (List Char) =>
      row.mapM (readField fieldSizeLimit)) = .ok ((names :: rows).map (·.map String.toList)) := by
  have hcells : ∀ cells ∈ names :: rows, ∀ cell ∈ cells, PersonalAll.Readable cell :=
    List.forall_mem_cons.2 h.readable
  refine mapM_readField_eq_ok.2 ⟨?_, ?_⟩
  · refine List.forall_mem_map.2 fun cells hmem => List.forall_mem_map.2 fun cell hcell => ?_
    have hreadable := hcells cells hmem cell hcell
    rw [joined_eq_self.2 hreadable.1]
    exact hreadable.2
  · rw [List.map_map]
    exact List.map_congr_left fun cells hmem => (map_joined_eq_self (hcells cells hmem)).symm

/-- The first record of the document written is its names. -/
theorem Written.header (h : Written names rows) :
    firstRecord fieldSizeLimit {} ((writtenDocument names rows).toList.splitOn '\n') =
      .ok (some (names.map String.toList)) := by
  have hrecords := @records_splitOn_rows fieldSizeLimit 0
    ((names :: rows).map (·.map String.toList))
  rw [h.mapM_readField] at hrecords
  rw [writtenDocument, String.toList_ofList]
  cases hall : records fieldSizeLimit {} 0
    ((((names :: rows).map (·.map String.toList)).flatMap writeRow).splitOn '\n') with
  | error e =>
      rw [hall] at hrecords
      cases hrecords
  | ok all =>
      rw [hall] at hrecords
      have hsnd : all.map Prod.snd = (names :: rows).map (·.map String.toList) ++ [[]] :=
        Except.ok.inj hrecords
      rw [firstRecord_of_records hall, ← List.head?_map, hsnd]
      rfl

/-- Its other records are the contacts. -/
theorem Written.contacts (h : Written names rows) :
    (dictReader fieldSizeLimit ((writtenDocument names rows).toList.splitOn '\n')).map
      (·.map Prod.snd) = .ok (rows.map (rawOf names)) := by
  have hall := h.mapM_readField
  rw [List.map_cons, List.mapM_cons] at hall
  obtain ⟨names', hnames, hall⟩ := bind_eq_ok.1 hall
  obtain ⟨rows', hrows, hall⟩ := bind_eq_ok.1 hall
  obtain ⟨rfl, rfl⟩ := List.cons.inj (Except.ok.inj hall)
  -- no row is empty, for there is a name
  have hfilter : (rows.map (·.map String.toList)).filter (· ≠ []) =
      rows.map (·.map String.toList) := by
    refine List.filter_eq_self.2 (List.forall_mem_map.2 fun row hrow => ?_)
    have hlen := h.filled.2 row hrow
    have hpos := List.length_pos_iff.2 h.named.1
    simp only [ne_eq, List.map_eq_nil_iff, decide_eq_true_eq]
    rintro rfl
    rw [List.length_nil] at hlen
    omega
  rw [writtenDocument, String.toList_ofList, List.map_cons, dictReader_rows, hnames]
  refine bind_eq_ok.2 ⟨_, rfl, bind_eq_ok.2 ⟨_, hrows, ?_⟩⟩
  rw [hfilter, List.map_map]
  rfl

/-- A contact read of the document written has its cells under their names. -/
theorem rawOf_eq (hlen : row.length = names.length) :
    rawOf names row = Dict.ofList ((names.zip row).map fun (name, cell) =>
      (some name, Value.str cell)) := by
  rw [rawOf, dictRow_of_length (by simpa using hlen), List.zip_map, List.map_map]
  simp only [Function.comp_def, String.ofList_toList, Prod.map]

/-- What is stored of it is the contact. -/
theorem named_rawOf (hnodup : names.Nodup) (hlen : row.length = names.length) :
    (rawOf names row).named.erase "id" = contactOf names row := by
  have hfst : (names.zip row).map Prod.fst = names := List.map_fst_zip (Nat.le_of_eq hlen.symm)
  have hkeys : (((names.zip row).map fun (name, cell) => (name, Value.str cell)).map
      Prod.fst).Nodup := by
    rw [List.map_map]
    exact hfst.symm ▸ hnodup
  have hraw : (((names.zip row).map fun (name, cell) => (some name, Value.str cell)).map
      Prod.fst).Nodup := by
    have h := hnodup.map (Option.some_injective String)
    rw [← hfst, List.map_map] at h
    rw [List.map_map]
    exact h
  refine congrArg (Dict.erase · "id") (Dict.ext_entries ?_)
  show (rawOf names row).entries.filterMap (fun e => e.1.map (·, e.2)) = _
  rw [rawOf_eq hlen, Dict.entries_ofList hraw, Dict.entries_ofList hkeys, List.filterMap_map,
    ← List.filterMap_eq_map]
  rfl

/-- The contacts of the document written pass the check. -/
theorem Written.importErrors (h : Written names rows) :
    importErrors (rows.map (rawOf names)) = [] := by
  refine importErrors_eq_nil.2 (List.forall_mem_map.2 fun row hrow => ?_)
  have hlen := h.filled.2 row hrow
  have hkeys : ∀ k, k ∈ (rawOf names row).keys ↔ ∃ name ∈ names, some name = k := by
    intro k
    rw [rawOf_eq hlen, Dict.mem_keys_ofList, List.map_map]
    have hfst : (names.zip row).map Prod.fst = names := List.map_fst_zip (Nat.le_of_eq hlen.symm)
    have hmap : (names.zip row).map (Prod.fst ∘ fun (name, cell) => (some name, Value.str cell)) =
        names.map some := by
      calc _ = ((names.zip row).map Prod.fst).map some := by
            rw [List.map_map]
            rfl
        _ = names.map some := by rw [hfst]
    rw [hmap, List.mem_map]
  obtain ⟨name, hname⟩ := List.exists_mem_of_ne_nil _ h.named.1
  have hne : (rawOf names row).isEmpty = false := by
    rw [Dict.isEmpty, List.isEmpty_eq_false_iff]
    have hmem : some name ∈ (rawOf names row).entries.map Prod.fst := (hkeys _).2 ⟨name, hname, rfl⟩
    exact fun hnil => by simp [hnil] at hmem
  have hempty : some "" ∉ (rawOf names row).keys := fun hmem => by
    obtain ⟨name, hname, heq⟩ := (hkeys _).1 hmem
    exact h.named.2 (Option.some.inj heq ▸ hname)
  have hnull : none ∉ (rawOf names row).keys := fun hmem => by
    obtain ⟨name, -, heq⟩ := (hkeys _).1 hmem
    cases heq
  exact ⟨_, by rw [validateContact, if_neg (by simp [hne]), if_neg hempty, if_neg hnull]⟩

/-- Their cells are texts. -/
theorem texts_rawOf (hlen : row.length = names.length) :
    ∀ k v, (some k, v) ∈ (rawOf names row).entries → ∃ a, v = .str a := by
  intro k v hmem
  rw [rawOf_eq hlen] at hmem
  obtain ⟨⟨name, cell⟩, -, heq⟩ := List.mem_map.1
    (Dict.mem_of_get?_ofList (Dict.get?_eq_some_iff.2 hmem))
  exact ⟨cell, (Prod.mk.inj heq).2.symm⟩

variable {codecs : Codecs} {o : RowOrder String} {request : ImportRequest}
  {phonebookUuid : Uuid} {r : Except ImportRaised (List ContactBody)}

/-- **What was written is imported.** In every state a run of the service's
writes reaches, a request whose body is the document written of contacts
stores these contacts without their ids, as `Imported` says, and is
answered what `Returned` says; or it is refused, and leaves the database
as it was, as its phonebook is not seen or a row cannot be created. -/
theorem post_written (hsha : Function.Injective enc.sha1) (hs : Start s₀)
    (hrun : Run (Guarded (fun _ call => ∀ body ∈ call.bodies, body.get? "id" = none) (Step enc))
      s₀ calls s)
    (hwritten : Written names rows)
    (hdecoded : codecs request.codec request.data = .ok (writtenDocument names rows))
    (h : PhonebookContactImport.post codecs o enc server s.db visibleTenants phonebookUuid request =
      (r, db')) :
    (∃ created, r = .ok (created.map WrittenContact.fieldsDict) ∧
      Imported enc s phonebookUuid (rows.map (contactOf names)) created
        (afterImport s db' created) ∧
      Returned enc s phonebookUuid (rows.map (contactOf names))
        (created.map WrittenContact.fieldsDict) (afterImport s db' created)) ∨
    ((∃ e, r = .error e) ∧ db' = s.db ∧
      ((∀ p ∈ s.db.phonebooks, phonebookSelector (some visibleTenants) (.uuid phonebookUuid) p =
          false) ∨
        RowFails enc server s.db visibleTenants (.uuid phonebookUuid)
          (rows.map (contactOf names)))) := by
  have hread : ReadAs codecs request (names.map String.toList) (rows.map (rawOf names))
      (writtenDocument names rows) :=
    ⟨hdecoded, hwritten.header, hwritten.contacts,
      hwritten.nodup.map fun _ _ => String.toList_injective, by simpa using hwritten.filled.1⟩
  have hbodies : (rows.map (rawOf names)).map (fun raw => raw.named.erase "id") =
      rows.map (contactOf names) := by
    rw [List.map_map]
    exact List.map_congr_left fun row hrow =>
      named_rawOf hwritten.nodup (hwritten.filled.2 row hrow)
  rcases post_cases h with ⟨rfl, herror, hfails⟩ |
    ⟨text', names', contacts', answer, hread', rfl, himport⟩
  · refine Or.inr ⟨herror, rfl, ?_⟩
    cases hfails _ _ _ hread with
    | @invalid raw e hraw he =>
        obtain ⟨body, hbody⟩ := importErrors_eq_nil.1 hwritten.importErrors raw hraw
        rw [he] at hbody
        cases hbody
    | notVisible hp => exact Or.inl hp
    | row hrow => exact Or.inr (hbodies ▸ hrow)
  · obtain rfl := hread.eq hread'
    obtain ⟨-, p, created, hp, rfl, himported⟩ := importContacts_ok hsha hs hrun himport
    obtain rfl := uuid_of_getPhonebook hp
    refine Or.inl ⟨created, rfl, hbodies ▸ himported ?_⟩
    exact List.forall_mem_map.2 fun row hrow => texts_rawOf (hwritten.filled.2 row hrow)

/-- The document of one contact is one that was written. -/
theorem written_oneContact : Written ["name"] [["Alice"]] where
  nodup := by decide
  named := by decide
  filled := by decide
  readable := by
    have hshort : ∀ text ∈ ["name", "Alice"],
        '\n' ∉ text.toList ∧ text.toList.length ≤ 5 := by decide
    have hread : ∀ text ∈ ["name", "Alice"], PersonalAll.Readable text := fun text htext =>
      ⟨(hshort text htext).1, (hshort text htext).2.trans (Nat.le_of_ble_eq_true rfl)⟩
    simpa using hread

/-- It stores its contact. -/
theorem post_written_oneContact : ∃ created db',
    PhonebookContactImport.post latin1 RowOrder.asStored Encoding.plain Server.plain
        onePhonebook.db ["t"] "p" oneContact = (.ok (created.map WrittenContact.fieldsDict), db') ∧
      Imported Encoding.plain onePhonebook "p" [contactOf ["name"] ["Alice"]] created
        (afterImport onePhonebook db' created) ∧
      Returned Encoding.plain onePhonebook "p" [contactOf ["name"] ["Alice"]]
        (created.map WrittenContact.fieldsDict) (afterImport onePhonebook db' created) := by
  obtain ⟨answer, db', hpost⟩ := post_oneContact
  rcases post_written Function.injective_id start_onePhonebook (Run.nil _) written_oneContact rfl
    hpost with ⟨created, hanswer, himported⟩ | ⟨⟨e, he⟩, -⟩
  · exact ⟨created, db', hpost.trans (congrArg (·, db') hanswer), himported⟩
  · cases he

end Written

end PhonebookContacts

end WazoDird
