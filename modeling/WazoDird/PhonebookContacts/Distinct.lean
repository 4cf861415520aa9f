import WazoDird.PhonebookContacts.Store

/-!
# Stored contacts are distinct, where a text has one kind

A contact's hash is made of the body as it came, its rows of what the
text column keeps of it. So two contacts of one phonebook have different
bodies, and their rows still agree when the bodies differ in nothing but
the kind of a value: `1` and `"1"` are one text and two hashes.
-/

namespace WazoDird

open PhonebookContactCRUD

namespace PhonebookContacts

/-- **The stored field map of a contact, apart from its id.** -/
def storedBody (db : Database) (uuid : Uuid) : ContactInfo :=
  (Dict.ofList (fieldsOf db.contactFields uuid)).erase "id"

/-- **No two contacts of a phonebook have the same stored field map**,
apart from the id. -/
def Distinct (db : Database) : Prop :=
  ∀ c ∈ db.contacts, ∀ d ∈ db.contacts, c.phonebookUuid.isSome →
    c.phonebookUuid = d.phonebookUuid →
    (∀ k, (storedBody db c.uuid).get? k = (storedBody db d.uuid).get? k) → c = d

/-- **One text, one kind**: values of a class that the text column keeps
as the same text are written as the same JSON. It holds of the texts, and
none, alone, and fails where a number and its digits are both let in. -/
def OneKind (enc : Encoding) (V : Value → Prop) : Prop :=
  ∀ v w t, V v → V w → enc.columnText v = .ok t → enc.columnText w = .ok t →
    Json.dumps enc.floats v = Json.dumps enc.floats w

/-- The values of a body are of a class. -/
def Within (V : Value → Prop) (body : ContactBody) : Prop :=
  ∀ k v, body.get? k = some v → V v

variable {enc : Encoding} {V : Value → Prop} {s s' : Store} {calls : List Call}

/-- What is stored of a contact under a name is the text of the value
there. -/
theorem Represents.get?_storedBody {c : Contact} {body : ContactBody}
    (h : Represents enc s c body) {k : String} (hk : k ≠ "id") {t : Option String} :
    (storedBody s.db c.uuid).get? k = some t ↔
      ∃ v, body.get? k = some v ∧ enc.columnText v = .ok t := by
  obtain ⟨texts, htexts, hfields⟩ := h.fields
  have hids : (List.replicate body.entries.length ("id", some c.uuid)).filter
      (fun e : String × Option String => e.1 = k) = [] := by
    rw [List.filter_eq_nil_iff]
    intro e he
    rw [List.eq_of_mem_replicate he]
    simpa using Ne.symm hk
  have hofList : (storedBody s.db c.uuid).get? k = (Dict.ofList texts).get? k := by
    rw [storedBody, Dict.get?_erase, if_neg (Ne.symm hk), hfields, Dict.ofList, Dict.ofList,
      Dict.setAll_append, Dict.get?_setAll, hids]
    rfl
  have hnodup : (texts.map Prod.fst).Nodup := by
    rw [Encoding.map_fst_columnTexts htexts]
    exact body.nodup
  rw [hofList, Dict.get?_ofList_eq_some_iff fun _ _ _ => Dict.eq_of_nodup_keys hnodup]
  constructor
  · exact Encoding.mem_columnTexts htexts
  · rintro ⟨v, hv, ht⟩
    obtain ⟨t', hmem, ht'⟩ := Encoding.exists_mem_columnTexts htexts hv
    rw [ht] at ht'
    cases ht'
    exact hmem

/-- Every value of a stored body has a text. -/
theorem Represents.exists_text {c : Contact} {body : ContactBody} (h : Represents enc s c body)
    {k : String} {v : Value} (hv : body.get? k = some v) : ∃ t, enc.columnText v = .ok t := by
  obtain ⟨texts, htexts, -⟩ := h.fields
  obtain ⟨t, -, ht⟩ := Encoding.exists_mem_columnTexts htexts hv
  exact ⟨t, ht⟩

/-- Contacts that store the same have values written alike: a value of
one is there in the other, with the same text. -/
theorem dumps_of_same {c d : Contact} {body body' : ContactBody} (hone : OneKind enc V)
    (hc : Represents enc s c body) (hd : Represents enc s d body') (hV : Within V body)
    (hV' : Within V body')
    (hsame : ∀ k, (storedBody s.db c.uuid).get? k = (storedBody s.db d.uuid).get? k)
    {k : String} (hk : k ≠ "id") {v : Value} (hv : body.get? k = some v) :
    ∃ w, body'.get? k = some w ∧ Json.dumps enc.floats v = Json.dumps enc.floats w := by
  obtain ⟨t, ht⟩ := hc.exists_text hv
  have hstored : (storedBody s.db d.uuid).get? k = some t :=
    (hsame k).symm.trans ((hc.get?_storedBody hk).2 ⟨v, hv, ht⟩)
  obtain ⟨w, hw, htw⟩ := (hd.get?_storedBody hk).1 hstored
  exact ⟨w, hw, hone v w t (hV k v hv) (hV' k w hw) ht htw⟩

/-- **Where a text has one kind, what is stored is distinct.** -/
theorem Kept.distinct (h : Kept enc s) (hV : s.BodiesAre (Within V)) (hone : OneKind enc V) :
    Distinct s.db := by
  intro c hc d hd hp hcd hsame
  obtain ⟨body, hbody⟩ := h.stored c hc hp
  obtain ⟨body', hbody'⟩ := h.stored d hd (hcd ▸ hp)
  have hVc := hV _ _ hbody.written
  have hVd := hV _ _ hbody'.written
  refine h.hashes c hc d hd hp hcd ?_
  rw [hbody.hash, hbody'.hash]
  refine Encoding.computeContactHash_congr fun k hk => ?_
  cases hv : body.get? k with
  | some v =>
      obtain ⟨w, hw, hvw⟩ := dumps_of_same hone hbody hbody' hVc hVd hsame hk hv
      rw [hw, Option.map_some, Option.map_some, hvw]
  | none =>
      cases hw : body'.get? k with
      | none => rfl
      | some w =>
          obtain ⟨v, hv', -⟩ := dumps_of_same hone hbody' hbody hVd hVc
            (fun k => (hsame k).symm) hk hw
          rw [hv] at hv'
          cases hv'

/-! ## Where a text has two kinds -/

/-- A phonebook without a contact. -/
def onePhonebook : Store where
  db := { phonebooks := [{ id := 1, uuid := "p", name := "clients", tenantUuid := "t" }] }

theorem start_onePhonebook : Start onePhonebook where
  uuids := List.nodup_nil
  owned f hf := by cases hf
  personal c hc := by cases hc
  unwritten := rfl

/-- A body of one item. -/
def oneItem (v : Value) : ContactBody := Dict.ofList [("a", v)]

theorem within_oneItem {v : Value} (hv : V v) : Within V (oneItem v) := by
  intro k w hget
  have hmem : (k, w) ∈ [("a", v)] := Dict.get?_eq_some_iff.1 hget
  cases List.mem_singleton.1 hmem
  exact hv

end PhonebookContacts

end WazoDird
