import Mathlib.Data.List.Dedup
import WazoDird.Database.Queries.Columns
import WazoDird.PhonebookContacts.Distinct

/-!
# What the readers make of the rows

Get and list make a contact of its rows, in whatever order they come,
and show none that has no row; count counts the contacts themselves.
-/

namespace WazoDird

open PhonebookContactCRUD

namespace PhonebookContacts

variable {enc : Encoding} {s : Store} {c : Contact} {body : ContactBody}

/-- What the rows of a contact say, in whatever order: its id, when its
body has an item, and the texts of its values. -/
theorem Represents.mem_fields (h : Represents enc s c body) {k : String} {t : Option String} :
    (k, t) ∈ fieldsOf s.db.contactFields c.uuid ↔
      (k = "id" ∧ t = some c.uuid ∧ body.entries ≠ []) ∨
        ∃ v, body.get? k = some v ∧ enc.columnText v = .ok t := by
  obtain ⟨texts, htexts, hfields⟩ := h.fields
  rw [hfields, List.mem_append, List.mem_replicate, or_comm]
  have hitems : body.entries.length ≠ 0 ↔ body.entries ≠ [] := by
    rw [ne_eq, List.length_eq_zero_iff]
  refine or_congr ?_ ⟨Encoding.mem_columnTexts htexts, ?_⟩
  · rw [hitems, Prod.mk.injEq]
    tauto
  · rintro ⟨v, hv, ht⟩
    obtain ⟨t', hmem, ht'⟩ := Encoding.exists_mem_columnTexts htexts hv
    rw [ht] at ht'
    cases ht'
    exact hmem

/-- A contact without an id in its body has one value under each name. -/
theorem Represents.fields_functional (h : Represents enc s c body) (hid : body.get? "id" = none)
    (k : String) (t t' : Option String) (ht : (k, t) ∈ fieldsOf s.db.contactFields c.uuid)
    (ht' : (k, t') ∈ fieldsOf s.db.contactFields c.uuid) : t = t' := by
  rcases h.mem_fields.1 ht with ⟨rfl, rfl, -⟩ | ⟨v, hv, hvt⟩
  · rcases h.mem_fields.1 ht' with ⟨-, rfl, -⟩ | ⟨v, hv, -⟩
    · rfl
    · rw [hid] at hv
      cases hv
  · rcases h.mem_fields.1 ht' with ⟨rfl, -, -⟩ | ⟨v', hv', hvt'⟩
    · rw [hid] at hv
      cases hv
    · rw [hv] at hv'
      cases hv'
      rw [hvt] at hvt'
      exact Except.ok.inj hvt'

/-- **The contact its rows make**, in whatever order they come. -/
theorem Represents.get?_read (h : Represents enc s c body) (hid : body.get? "id" = none)
    {fields : List (String × Option String)}
    (hperm : fields.Perm (fieldsOf s.db.contactFields c.uuid)) {k : String} {t : Option String} :
    (Dict.ofList fields).get? k = some t ↔
      (k = "id" ∧ t = some c.uuid ∧ body.entries ≠ []) ∨
        ∃ v, body.get? k = some v ∧ enc.columnText v = .ok t := by
  rw [Dict.get?_ofList_eq_some_iff fun k t t' ht ht' =>
    h.fields_functional hid k t t' (hperm.mem_iff.1 ht) (hperm.mem_iff.1 ht'), hperm.mem_iff]
  exact h.mem_fields

/-- What a write returns: the id, when the body has an item, and the
body. -/
theorem get?_fieldsDict {w : WrittenContact} (hid : w.body.get? "id" = none) {k : String}
    {v : Value} :
    w.fieldsDict.get? k = some v ↔
      (k = "id" ∧ v = .str w.uuid ∧ w.body.entries ≠ []) ∨ w.body.get? k = some v := by
  have hmem : ∀ {k v},
      (k, v) ∈ w.body.entries ++ w.body.entries.map (fun _ => ("id", Value.str w.uuid)) ↔
      (k = "id" ∧ v = .str w.uuid ∧ w.body.entries ≠ []) ∨ w.body.get? k = some v := by
    intro k v
    rw [List.mem_append, ← Dict.get?_eq_some_iff, or_comm, List.map_const', List.mem_replicate,
      ne_eq, List.length_eq_zero_iff, Prod.mk.injEq]
    tauto
  rw [WrittenContact.fieldsDict, Dict.get?_ofList_eq_some_iff, hmem]
  intro k v v' hv hv'
  rcases hmem.1 hv with ⟨rfl, rfl, -⟩ | hv
  · rcases hmem.1 hv' with ⟨-, rfl, -⟩ | hv'
    · rfl
    · rw [hid] at hv'
      cases hv'
  · rcases hmem.1 hv' with ⟨rfl, -, -⟩ | hv'
    · rw [hid] at hv
      cases hv
    · exact Option.some.inj (hv.symm.trans hv')

/-- Without the id, what a write returns is the body. -/
theorem erase_fieldsDict {w : WrittenContact} (hid : w.body.get? "id" = none) :
    w.fieldsDict.erase "id" = w.body := by
  have hids : ∀ e ∈ w.body.entries.map (fun _ => ("id", Value.str w.uuid)), e.1 = "id" := by
    simp
  have hdict : w.fieldsDict =
      w.body.setAll (w.body.entries.map fun _ => ("id", Value.str w.uuid)) := by
    rw [WrittenContact.fieldsDict, Dict.ofList, Dict.setAll_append]
    exact congrArg (Dict.setAll · _) (Dict.ofList_entries w.body)
  rw [hdict, Dict.erase_setAll hids, Dict.erase_of_get?_eq_none hid]

/-- **A contact of texts reads as what its write returned.** -/
theorem Represents.same_fieldsDict (h : Represents enc s c body) (hid : body.get? "id" = none)
    (htexts : Within (fun v => ∃ a, v = .str a) body) {fields : List (String × Option String)}
    (hperm : fields.Perm (fieldsOf s.db.contactFields c.uuid)) :
    ((Dict.ofList fields).map Value.ofText).Same (WrittenContact.fieldsDict ⟨c.uuid, body⟩) := by
  rw [Dict.same_iff]
  intro k
  refine Option.ext fun v => ?_
  rw [Dict.get?_map, Option.map_eq_some_iff, get?_fieldsDict hid]
  constructor
  · rintro ⟨t, ht, rfl⟩
    rcases (h.get?_read hid hperm).1 ht with ⟨rfl, rfl, hne⟩ | ⟨v, hv, hvt⟩
    · exact Or.inl ⟨rfl, rfl, hne⟩
    · obtain ⟨a, rfl⟩ := htexts k v hv
      rw [Encoding.columnText_str_ok hvt]
      exact Or.inr hv
  · rintro (⟨rfl, rfl, hne⟩ | hv)
    · exact ⟨some c.uuid, (h.get?_read hid hperm).2 (Or.inl ⟨rfl, rfl, hne⟩), rfl⟩
    · obtain ⟨a, rfl⟩ := htexts k v hv
      obtain ⟨t, ht⟩ := h.exists_text hv
      refine ⟨t, (h.get?_read hid hperm).2 (Or.inr ⟨_, hv, ht⟩), ?_⟩
      rw [Encoding.columnText_str_ok ht]
      rfl

/-! ## The three readers -/

section Readers

variable {lower : String → String} {o : RowOrder ContactFields}
  {visibleTenants : Option (List Uuid)} {key : PhonebookKey} {p : Phonebook}
  {search : Option String}

/-- **`get` reads a contact of the phonebook that has a row.** -/
theorem get_eq_ok (hc : c ∈ s.db.contacts) (hcp : c.phonebookUuid = some p.uuid)
    (hp : getPhonebook s.db visibleTenants key = .ok p) (hrep : Represents enc s c body)
    (hid : body.get? "id" = none) (hne : body.entries ≠ []) :
    ∃ fields, fields.Perm (fieldsOf s.db.contactFields c.uuid) ∧
      PhonebookContactCRUD.get o s.db visibleTenants key c.uuid = .ok (Dict.ofList fields) := by
  have hpmem := (getPhonebook_ok hp).1
  let q (f : ContactFields) : Bool := s.db.contacts.any fun d =>
    d.uuid = f.contactUuid && newContactFilter s.db p.tenantUuid p.uuid c.uuid d
  have hq : ∀ f, q f = true ↔ f.contactUuid = c.uuid := by
    intro f
    simp only [q, newContactFilter, List.any_eq_true, Bool.and_eq_true, decide_eq_true_eq]
    constructor
    · rintro ⟨d, -, hdf, ⟨hdc, -⟩, -⟩
      exact hdf.symm.trans hdc
    · intro hf
      exact ⟨c, hc, hf.symm, ⟨rfl, hcp⟩, p, hpmem, hcp, rfl⟩
  let rows := o.order (s.db.contactFields.filter q)
  have hown : ∀ f ∈ rows, f.contactUuid = c.uuid := fun f hf =>
    (hq f).1 (List.mem_filter.1 (o.mem_order.1 hf)).2
  have hperm : (rows.map fun f => (f.name, f.value)).Perm (fieldsOf s.db.contactFields c.uuid) := by
    rw [← fieldsOf_of_forall hown]
    exact fieldsOf_selected fun f _ hf => (hq f).2 hf
  have hidrow :
      (Dict.ofList (rows.map fun f => (f.name, f.value))).get? "id" = some (some c.uuid) :=
    (hrep.get?_read hid hperm).2 (Or.inl ⟨rfl, rfl, hne⟩)
  refine ⟨_, hperm, bind_eq_ok.2 ⟨p, hp, bind_eq_ok.2 ⟨(), raiseIf_ok.2 ?_, ?_⟩⟩⟩
  · intro hnil
    have hnone : rows = [] := hnil
    rw [hnone] at hidrow
    cases hidrow
  · refine bind_eq_ok.2 ⟨(), raiseIf_ok.2 ?_, rfl⟩
    show ¬ ((Dict.ofList (rows.map fun f => (f.name, f.value))).get? "id").isNone = true
    rw [hidrow]
    simp

/-- A contact has a row when its body has an item. -/
theorem Represents.fields_ne_nil (h : Represents enc s c body) :
    fieldsOf s.db.contactFields c.uuid ≠ [] ↔ body.entries ≠ [] := by
  obtain ⟨texts, htexts, hfields⟩ := h.fields
  have hlen : texts.length = body.entries.length := by
    have hkeys := congrArg List.length (Encoding.map_fst_columnTexts htexts)
    simpa [Dict.keys] using hkeys
  rw [hfields, ne_eq, ne_eq, not_iff_not, ← List.length_eq_zero_iff, ← List.length_eq_zero_iff,
    List.length_append, List.length_replicate, hlen]
  omega

/-- **What the writers keep is a store of contacts**, when no body has an
id of its own. -/
def Kept.phonebookStore (h : Kept enc s) (hids : s.BodiesAre fun body => body.get? "id" = none) :
    PhonebookStore where
  db := s.db
  uuids := h.uuids
  oneValued c hc hp := by
    obtain ⟨body, hrep⟩ := h.stored c hc hp
    exact hrep.fields_functional (hids c.uuid body hrep.written)
  ids c hc hp hne := by
    obtain ⟨body, hrep⟩ := h.stored c hc hp
    exact ⟨c.uuid, hrep.mem_fields.2 (Or.inl ⟨rfl, rfl, hrep.fields_ne_nil.1 hne⟩)⟩

/-- **What any run of the writers leaves is a store of contacts**, when no
body has an id of its own. -/
theorem exists_phonebookStore {s' : Store} {calls : List Call} (hs : Start s)
    (hrun : Run (Guarded (fun _ call => ∀ body ∈ call.bodies, body.get? "id" = none) (Step enc))
      s calls s') : ∃ store : PhonebookStore, store.db = s'.db :=
  ⟨(Kept.run hs hrun).1.phonebookStore (Kept.run hs hrun).2, rfl⟩

variable (lower o search) in
/-- **`list` reads the contacts that have a row**, each once, from its own
rows. -/
theorem list_eq_ok (hsearch : NullFree search.toList)
    (hp : getPhonebook s.db visibleTenants key = .ok p) :
    ∃ contacts : Dict Uuid ContactInfo,
      PhonebookContactCRUD.list lower o s.db visibleTenants key search = .ok contacts.values ∧
      (∀ uuid, uuid ∈ contacts.keys ↔ ∃ c ∈ s.db.contacts, c.uuid = uuid ∧
        queryContacts lower s.db p.uuid search c = true ∧
        fieldsOf s.db.contactFields uuid ≠ []) ∧
      ∀ uuid info, contacts.get? uuid = some info → ∃ fields,
        fields.Perm (fieldsOf s.db.contactFields uuid) ∧ info = Dict.ofList fields := by
  let q (f : ContactFields) : Bool := s.db.contacts.any fun c =>
    c.uuid = f.contactUuid && queryContacts lower s.db p.uuid search c
  have hq : ∀ f, q f = true ↔ ∃ c ∈ s.db.contacts, c.uuid = f.contactUuid ∧
      queryContacts lower s.db p.uuid search c = true := by
    intro f
    simp [q]
  let rows := o.order (s.db.contactFields.filter q)
  have hget : ∀ uuid, (rows.foldl (readRow fun _ => ∅) ∅).get? uuid =
      if rows.any (·.contactUuid = uuid) then some (Dict.ofList (fieldsOf rows uuid)) else none :=
    fun uuid => get?_foldl_readRow (fun _ => ∅) ∅ rows uuid
  have hany : ∀ uuid, rows.any (·.contactUuid = uuid) = true ↔ ∃ c ∈ s.db.contacts,
      c.uuid = uuid ∧ queryContacts lower s.db p.uuid search c = true ∧
      fieldsOf s.db.contactFields uuid ≠ [] := by
    intro uuid
    simp only [List.any_eq_true, decide_eq_true_eq, rows, RowOrder.mem_order, List.mem_filter, hq,
      fieldsOf_ne_nil]
    constructor
    · rintro ⟨f, ⟨hf, c, hc, hcf, hquery⟩, rfl⟩
      exact ⟨c, hc, hcf, hquery, f, hf, rfl⟩
    · rintro ⟨c, hc, rfl, hquery, f, hf, hfc⟩
      exact ⟨f, ⟨hf, c, hc, hfc.symm, hquery⟩, hfc⟩
  refine ⟨rows.foldl (readRow fun _ => ∅) ∅,
    bind_eq_ok.2 ⟨p, hp, takeTexts_bind_of hsearch _⟩, fun uuid => ?_, ?_⟩
  · rw [Dict.mem_keys_iff, hget, ← hany]
    split
    · next hrows => simp [hrows]
    · next hrows => simp [hrows]
  · intro uuid info hinfo
    rw [hget] at hinfo
    split at hinfo
    · next hrows =>
      cases hinfo
      obtain ⟨c, hc, rfl, hquery, -⟩ := (hany uuid).1 hrows
      exact ⟨_, fieldsOf_selected fun f _ hf => (hq f).2 ⟨c, hc, hf.symm, hquery⟩, rfl⟩
    · cases hinfo

/-- **`count` counts the contacts**, whether they have a row or not. -/
theorem count_eq_ok (h : Kept enc s) (hsearch : NullFree search.toList)
    (hp : getPhonebook s.db visibleTenants key = .ok p) :
    PhonebookContactCRUD.count lower s.db visibleTenants key search =
      .ok (s.db.contacts.filter (queryContacts lower s.db p.uuid search)).length := by
  have hnodup : ((s.db.contacts.filter (queryContacts lower s.db p.uuid search)).map
      Contact.uuid).Nodup := keys_filter h.uuids _
  refine bind_eq_ok.2 ⟨p, hp, (takeTexts_bind_of hsearch _).trans ?_⟩
  rw [List.dedup_eq_self.2 hnodup, List.length_map]
  rfl

variable (lower o search) in
/-- **A search that the driver does not take** is refused by both. -/
theorem list_of_not_nullFree (hsearch : ¬ NullFree search.toList)
    (hp : getPhonebook s.db visibleTenants key = .ok p) :
    PhonebookContactCRUD.list lower o s.db visibleTenants key search =
        .error (.python .valueError) ∧
      PhonebookContactCRUD.count lower s.db visibleTenants key search =
        .error (.python .valueError) := by
  rw [PhonebookContactCRUD.list, PhonebookContactCRUD.count, hp]
  exact ⟨takeTexts_bind.trans (if_neg hsearch), takeTexts_bind.trans (if_neg hsearch)⟩

end Readers

end PhonebookContacts

end WazoDird
