import WazoDird.Common.Table
import WazoDird.Database.Queries.Base

/-!
# A batch of extensions, from rows in any order

`build_exten_contact_map` goes over the rows once, filling two
dictionaries: the contacts, and the contact each extension was first seen
with. What it answers is read off them at the end, so that a contact is
complete whatever rows come between its own, and after the one that has
the extension. `GroupsRows` says what the answer is in terms of the rows
alone.
-/

namespace WazoDird

variable {rows : List ContactFields} {extens columns : List String} {e : String} {uuid : Uuid}
  {row : ContactFields} {c c' : ContactInfo} {m m' : Dict String ContactInfo}

/-- A row has an extension in one of the columns. -/
def HasExten (columns : List String) (e : String) (row : ContactFields) : Prop :=
  row.name ∈ columns ∧ row.value = some e

/-- The first row that has an extension. -/
def FirstWith (rows : List ContactFields) (columns : List String) (e : String)
    (row : ContactFields) : Prop :=
  ∃ before later, rows = before ++ row :: later ∧ HasExten columns e row ∧
    ∀ r ∈ before, ¬ HasExten columns e r

/-- **The complete field map of a contact**: each name has what the last
of the contact's rows of that name has, `id` is the contact's own where no
row has it, and there is nothing else. -/
structure FieldMap (rows : List ContactFields) (uuid : Uuid) (c : ContactInfo) : Prop where
  last : ∀ row later, (row :: later) <:+ rows → row.contactUuid = uuid →
    (∀ r ∈ later, r.contactUuid = uuid → r.name ≠ row.name) → c.get? row.name = some row.value
  id : (∀ r ∈ rows, r.contactUuid = uuid → r.name ≠ "id") → c.get? "id" = some (some uuid)
  absent : ∀ name ≠ "id", (∀ r ∈ rows, r.contactUuid = uuid → r.name ≠ name) →
    c.get? name = none

/-- **A map groups the rows**: its keys are the extensions asked for that
a row has, and it has under each the complete field map of the contact
whose row is the first to have it. -/
structure GroupsRows (rows : List ContactFields) (extens columns : List String)
    (m : Dict String ContactInfo) : Prop where
  mem_keys : ∀ e, e ∈ m.keys ↔ e ∈ extens ∧ ∃ row ∈ rows, HasExten columns e row
  contact : ∀ e c, m.get? e = some c →
    ∃ row, FirstWith rows columns e row ∧ FieldMap rows row.contactUuid c

/-! ## What a contact's rows make -/

/-- What a contact has from the start. -/
theorem get?_newContact (name : String) :
    (newContact uuid).get? name = if name = "id" then some (some uuid) else none := by
  rw [newContact, Dict.get?_set]
  by_cases h : name = "id"
  · simp [h]
  · simp [h, Ne.symm h]

/-- **The rows of a contact make its complete field map.** -/
theorem fieldMap_contactOf : FieldMap rows uuid (contactOf rows uuid) := by
  have hnone : ∀ name, (∀ r ∈ rows, r.contactUuid = uuid → r.name ≠ name) →
      (contactOf rows uuid).get? name = (newContact uuid).get? name := by
    intro name h
    have hnil : (rows.filter fun r => r.contactUuid = uuid ∧ r.name = name) = [] := by
      rw [List.filter_eq_nil_iff]
      intro r hr hboth
      obtain ⟨hu, hn⟩ := of_decide_eq_true hboth
      exact h r hr hu hn
    rw [get?_contactOf, hnil]
    rfl
  refine ⟨fun row later hsuffix hu hlast => ?_, fun h => ?_, fun name hne h => ?_⟩
  · have hkey : ∀ r ∈ later, (r.contactUuid, r.name) ≠ (row.contactUuid, row.name) := by
      intro r hr hpair
      obtain ⟨hru, hrn⟩ := Prod.mk.inj hpair
      exact hlast r hr (hru.trans hu) hrn
    have hfilter : (rows.filter fun r => r.contactUuid = uuid ∧ r.name = row.name) =
        rows.filter fun r => (r.contactUuid, r.name) = (row.contactUuid, row.name) := by
      refine List.filter_congr fun r _ => ?_
      rw [hu]
      simp
    rw [get?_contactOf, hfilter, getLast?_filter_key hsuffix hkey]
    rfl
  · rw [hnone _ h, get?_newContact, if_pos rfl]
  · rw [hnone _ h, get?_newContact, if_neg hne]

/-! ## What the rows determine -/

/-- Two complete field maps of a contact have the same names and values. -/
theorem FieldMap.get?_eq (h : FieldMap rows uuid c) (h' : FieldMap rows uuid c')
    (name : String) : c.get? name = c'.get? name := by
  by_cases hnamed : ∃ r ∈ rows, (r.contactUuid, r.name) = (uuid, name)
  · obtain ⟨row, later, hsuffix, hkey, hlast⟩ := exists_last hnamed
    obtain ⟨hu, rfl⟩ := Prod.mk.inj hkey
    have hlater : ∀ r ∈ later, r.contactUuid = uuid → r.name ≠ row.name :=
      fun r hr hru hrn => hlast r hr (by rw [hru, hrn])
    rw [h.last row later hsuffix hu hlater, h'.last row later hsuffix hu hlater]
  · have hnone : ∀ r ∈ rows, r.contactUuid = uuid → r.name ≠ name :=
      fun r hr hru hrn => hnamed ⟨r, hr, by rw [hru, hrn]⟩
    by_cases hid : name = "id"
    · subst hid
      rw [h.id hnone, h'.id hnone]
    · rw [h.absent name hid hnone, h'.absent name hid hnone]

/-- One row is the first that has an extension. -/
theorem FirstWith.eq {row' : ContactFields} (h : FirstWith rows columns e row)
    (h' : FirstWith rows columns e row') : row = row' := by
  classical
  have hfind : ∀ {r}, FirstWith rows columns e r →
      rows.find? (fun r => decide (HasExten columns e r)) = some r := by
    rintro r ⟨before, later, heq, hr, hbefore⟩
    refine List.find?_eq_some_iff_append.2 ⟨decide_eq_true hr, before, later, heq, fun x hx => ?_⟩
    rw [decide_eq_false (hbefore x hx)]
    rfl
  exact Option.some.inj ((hfind h).symm.trans (hfind h'))

/-- **What a map that groups the rows answers** for an extension is
determined by the rows. -/
theorem GroupsRows.get?_eq (h : GroupsRows rows extens columns m)
    (h' : GroupsRows rows extens columns m') (hc : m.get? e = some c) :
    ∃ c', m'.get? e = some c' ∧ ∀ name, c.get? name = c'.get? name := by
  have hmem : e ∈ m'.keys := by
    rw [h'.mem_keys, ← h.mem_keys, Dict.mem_keys_iff, hc]
    rfl
  obtain ⟨c', hc'⟩ := Option.isSome_iff_exists.1 (Dict.mem_keys_iff.1 hmem)
  obtain ⟨row, hrow, hfields⟩ := h.contact e c hc
  obtain ⟨row', hrow', hfields'⟩ := h'.contact e c' hc'
  obtain rfl := hrow.eq hrow'
  exact ⟨c', hc', hfields.get?_eq hfields'⟩

/-! ## What the batch makes of the rows -/

/-- A row that carries an extension is one that has it, where it is asked
for. -/
theorem carriesExten_eq_true : carriesExten extens columns e row = true ↔
    e ∈ extens ∧ HasExten columns e row := by
  simp only [carriesExten, HasExten, Bool.and_eq_true, decide_eq_true_eq]
  constructor
  · rintro ⟨⟨hv, hn⟩, he⟩
    exact ⟨he, hn, hv⟩
  · rintro ⟨he, hn, hv⟩
    exact ⟨⟨hv, hn⟩, he⟩

/-- The first row that carries an extension is the first that has it. -/
theorem firstWith_of_find? (h : rows.find? (carriesExten extens columns e) = some row) :
    FirstWith rows columns e row := by
  obtain ⟨hcarries, before, later, heq, hbefore⟩ := List.find?_eq_some_iff_append.1 h
  obtain ⟨he, hrow⟩ := carriesExten_eq_true.1 hcarries
  refine ⟨before, later, heq, hrow, fun r hr hhas => ?_⟩
  have hnot := hbefore r hr
  rw [carriesExten_eq_true.2 ⟨he, hhas⟩] at hnot
  cases hnot

/-- **`build_exten_contact_map` groups the rows**, whatever their order. -/
theorem groupsRows_buildExtenContactMap :
    GroupsRows rows extens columns (buildExtenContactMap rows extens columns) where
  mem_keys e := by
    rw [Dict.mem_keys_iff, get?_buildExtenContactMap, Option.isSome_map, List.find?_isSome]
    constructor
    · rintro ⟨row, hrow, hcarries⟩
      obtain ⟨he, hhas⟩ := carriesExten_eq_true.1 hcarries
      exact ⟨he, row, hrow, hhas⟩
    · rintro ⟨he, row, hrow, hhas⟩
      exact ⟨row, hrow, carriesExten_eq_true.2 ⟨he, hhas⟩⟩
  contact e c hc := by
    rw [get?_buildExtenContactMap] at hc
    obtain ⟨row, hfind, rfl⟩ := Option.map_eq_some_iff.1 hc
    exact ⟨row, firstWith_of_find? hfind, fieldMap_contactOf⟩

end WazoDird
