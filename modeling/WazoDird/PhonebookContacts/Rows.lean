import WazoDird.PhonebookContacts.Distinct

/-!
# The rows of a contact, and its id

The rows of a contact are those of its last body, none is left of an
earlier one, and none of a contact that is gone. What is not as it reads
in `_set_contact_fields` is the id: a row for it is made once for each
item of the body, so the rows are exact for bodies of one item alone.
-/

namespace WazoDird

open PhonebookContactCRUD

namespace PhonebookContacts

/-- A body as the service hands it on: of texts, without an id, and with
some item. -/
structure TextBody (body : ContactBody) : Prop where
  texts : Within (fun v => ∃ s, v = .str s) body
  no_id : body.get? "id" = none
  nonempty : body.entries ≠ []

/-- **The rows of a contact are exact**: one for each name of the body
with the value there, one named `id` with the contact's uuid, no other. -/
structure ExactRows (db : Database) (uuid : Uuid) (body : ContactBody) : Prop where
  field : ∀ name s, body.get? name = some (.str s) →
    (fieldsOf db.contactFields uuid).filter (·.1 = name) = [(name, some s)]
  id : (fieldsOf db.contactFields uuid).filter (·.1 = "id") = [("id", some uuid)]
  other : ∀ row ∈ fieldsOf db.contactFields uuid, row.1 = "id" ∨ row.1 ∈ body.keys

/-- **What is stored is exact**: the rows of each contact of a phonebook,
for its last body, and no row is left of a contact that is gone. -/
structure RowsExact (s : Store) : Prop where
  rows : ∀ c ∈ s.db.contacts, c.phonebookUuid.isSome →
    ∃ body, s.written.get? c.uuid = some body ∧ ExactRows s.db c.uuid body
  owned : ∀ f ∈ s.db.contactFields, ∃ c ∈ s.db.contacts, c.uuid = f.contactUuid

variable {enc : Encoding} {s s' : Store} {calls : List Call} {c : Contact} {body : ContactBody}

/-- The rows of a name that is not the id are those of the texts. -/
theorem filter_name {texts : List (String × Option String)} {n : ℕ} {name : String} {uuid : Uuid}
    (hname : name ≠ "id") :
    (texts ++ List.replicate n ("id", some uuid)).filter (·.1 = name) =
      texts.filter (·.1 = name) := by
  rw [List.filter_append, List.filter_replicate, if_neg (by simpa using hname.symm),
    List.append_nil]

/-- The rows of the id, where no text is named so. -/
theorem filter_id {texts : List (String × Option String)} {n : ℕ} {uuid : Uuid}
    (hid : "id" ∉ texts.map Prod.fst) :
    (texts ++ List.replicate n ("id", some uuid)).filter (·.1 = "id") =
      List.replicate n ("id", some uuid) := by
  have hnil : texts.filter (·.1 = "id") = [] := by
    rw [List.filter_eq_nil_iff]
    intro t ht htid
    exact hid (List.mem_map.2 ⟨t, ht, of_decide_eq_true htid⟩)
  rw [List.filter_append, hnil, List.nil_append, List.filter_replicate, if_pos (by simp)]

/-- **The rows of a contact are exact when its last body has one item**,
and only then. -/
theorem Represents.exactRows_iff (h : Represents enc s c body) (hbody : TextBody body) :
    ExactRows s.db c.uuid body ↔ body.entries.length = 1 := by
  obtain ⟨texts, htexts, hfields⟩ := h.fields
  have hkeys := Encoding.map_fst_columnTexts htexts
  have hid : "id" ∉ texts.map Prod.fst := by
    rw [hkeys, Dict.mem_keys_iff, hbody.no_id]
    simp
  constructor
  · intro hexact
    have hone := hexact.id
    rw [hfields, filter_id hid] at hone
    simpa using congrArg List.length hone
  · intro hlen
    refine ⟨fun name s hget => ?_, ?_, fun row hrow => ?_⟩
    · have hname : name ≠ "id" := by
        rintro rfl
        rw [hbody.no_id] at hget
        cases hget
      obtain ⟨t, hmem, ht⟩ := Encoding.exists_mem_columnTexts htexts hget
      rw [hfields, filter_name hname, ← Encoding.columnText_str_ok ht]
      refine filter_key (a := (name, t)) ?_ hmem
      rw [hkeys]
      exact body.nodup
    · rw [hfields, filter_id hid, hlen]
      rfl
    · rw [hfields] at hrow
      rcases List.mem_append.1 hrow with hrow | hrow
      · exact Or.inr (hkeys ▸ List.mem_map_of_mem hrow)
      · rw [List.eq_of_mem_replicate hrow]
        exact Or.inl rfl

/-- What is stored is exact when the last body of each contact has one
item, and only then. -/
theorem Kept.rowsExact_iff (h : Kept enc s) (hbodies : s.BodiesAre TextBody) :
    RowsExact s ↔ ∀ c ∈ s.db.contacts, c.phonebookUuid.isSome →
      ∃ body, s.written.get? c.uuid = some body ∧ body.entries.length = 1 := by
  have hexact : ∀ c ∈ s.db.contacts, c.phonebookUuid.isSome →
      ∀ body, s.written.get? c.uuid = some body →
        (ExactRows s.db c.uuid body ↔ body.entries.length = 1) := by
    intro c hc hp body hwritten
    obtain ⟨body', hbody'⟩ := h.stored c hc hp
    obtain rfl : body' = body := Option.some.inj (hbody'.written.symm.trans hwritten)
    exact hbody'.exactRows_iff (hbodies _ _ hwritten)
  constructor
  · intro hrows c hc hp
    obtain ⟨body, hwritten, hbody⟩ := hrows.rows c hc hp
    exact ⟨body, hwritten, (hexact c hc hp body hwritten).1 hbody⟩
  · intro hone
    refine ⟨fun c hc hp => ?_, h.owned⟩
    obtain ⟨body, hwritten, hlen⟩ := hone c hc hp
    exact ⟨body, hwritten, (hexact c hc hp body hwritten).2 hlen⟩

/-- **What is stored is exact for bodies of one item.** In every run of
such bodies the rows of each contact are exact, in every state; in a run
of any others they are exactly where the last body of each contact stored
has one item. -/
theorem rowsExact_of_one_item :
    (∀ s calls s', Start s →
      Run (Guarded (fun _ call => ∀ body ∈ call.bodies, TextBody body ∧ body.entries.length = 1)
        (Step enc)) s calls s' → RowsExact s') ∧
    ∀ s calls s', Start s →
      Run (Guarded (fun _ call => ∀ body ∈ call.bodies, TextBody body) (Step enc)) s calls s' →
      (RowsExact s' ↔ ∀ c ∈ s'.db.contacts, c.phonebookUuid.isSome →
        ∃ body, s'.written.get? c.uuid = some body ∧ body.entries.length = 1) := by
  constructor
  · intro s calls s' hs hrun
    obtain ⟨hkept, hbodies⟩ := Kept.run hs hrun
    refine (hkept.rowsExact_iff fun uuid body h => (hbodies uuid body h).1).2 fun c hc hp => ?_
    obtain ⟨body, hbody⟩ := hkept.stored c hc hp
    exact ⟨body, hbody.written, (hbodies _ _ hbody.written).2⟩
  · intro s calls s' hs hrun
    obtain ⟨hkept, hbodies⟩ := Kept.run hs hrun
    exact hkept.rowsExact_iff hbodies

/-- Bodies of texts with the given items. -/
theorem textBody_ofList {l : List (String × String)} (hne : l ≠ []) (hid : "id" ∉ l.map Prod.fst)
    (hnodup : (l.map Prod.fst).Nodup) :
    TextBody (Dict.ofList (l.map fun e => (e.1, .str e.2))) := by
  have hkeys : (l.map fun e => (e.1, Value.str e.2)).map Prod.fst = l.map Prod.fst := by
    rw [List.map_map]
    rfl
  refine ⟨fun k v hget => ?_, ?_, fun hnil => ?_⟩
  · obtain ⟨e, -, he⟩ := List.mem_map.1 (Dict.mem_of_get?_ofList hget)
    cases he
    exact ⟨e.2, rfl⟩
  · rw [← Option.not_isSome_iff_eq_none, ← Dict.mem_keys_iff, Dict.mem_keys_ofList, hkeys]
    exact hid
  · have hnone := congrArg (List.map Prod.fst) hnil
    rw [← Dict.keys, Dict.keys_ofList_of_nodup (hkeys ▸ hnodup), hkeys] at hnone
    exact hne (List.map_eq_nil_iff.1 hnone)

/-- A contact created in the phonebook. -/
def createText (l : List (String × String)) : Call :=
  .create none (.uuid "p") (Dict.ofList (l.map fun e => (e.1, .str e.2)))

/-- A contact of one item has one row for it and one for its id. -/
theorem rowsExact_of_one_item_create :
    RowsExact (onePhonebook.next Encoding.plain Server.plain (createText [("name", "Alice")])) := by
  refine rowsExact_of_one_item.1 onePhonebook _ _ start_onePhonebook
    (Run.single ⟨?_, Server.plain, rfl⟩)
  intro body hbody
  rw [List.mem_singleton.1 hbody]
  exact ⟨textBody_ofList (by decide) (by decide) (by decide), rfl⟩

/-- A contact of two items has two rows for its id. -/
theorem not_rowsExact_two_items :
    ¬ ∀ s calls s', Start s →
      Run (Guarded (fun _ call => ∀ body ∈ call.bodies, TextBody body) (Step Encoding.plain))
        s calls s' → RowsExact s' := by
  intro h
  let call := createText [("name", "Alice"), ("number", "1234")]
  have hrows := h onePhonebook [call] _ start_onePhonebook <| Run.single ⟨fun body hbody => by
    rw [List.mem_singleton.1 hbody]
    exact textBody_ofList (by decide) (by decide) (by decide), Server.plain, rfl⟩
  have hcontact : ∃ c ∈ (onePhonebook.next Encoding.plain Server.plain call).db.contacts,
      c.uuid = "x" ∧ c.phonebookUuid.isSome := by decide
  obtain ⟨c, hc, huuid, hp⟩ := hcontact
  obtain ⟨body, -, hexact⟩ := hrows.rows c hc hp
  have hid := hexact.id
  rw [huuid] at hid
  exact absurd hid (by decide)

end PhonebookContacts

end WazoDird
