import WazoDird.Backends.SourceResult
import WazoDird.Common.Listing

/-!
# Listing contacts by an id that is text

The Google and Office 365 backends read their contacts one by one and
compare the id of each with the ids asked for, which are text. The id that
a result is known by is the text of the contact's, whatever it is.
-/

namespace WazoDird

/-- The id of a contact, if it is text. -/
def Fields.textId (contact : Fields) : Except PyError (Option String) := do
  return (← contact.item "id").asStr?

/-- `contact['id'] in unique_ids`. -/
def Fields.hasId (uniqueIds : List String) (contact : Fields) : Except PyError Bool := do
  return (← contact.item "id").asStr?.any (· ∈ uniqueIds)

variable {α : Type} {py : TextOps} {cls : ResultClass} {read : α → Except PyError Fields}

theorem Fields.textId_eq_ok {contact : Fields} {s : String} :
    contact.textId = .ok (some s) ↔ contact.get? "id" = some (.str s) := by
  rw [textId, bind_eq_ok]
  constructor
  · rintro ⟨v, hv, h⟩
    rw [item_eq_ok.1 hv]
    cases v <;> cases h
    rfl
  · exact fun h => ⟨.str s, item_eq_ok.2 h, rfl⟩

theorem Fields.exists_textId_iff {contact : Fields} :
    (∃ k, contact.textId = .ok k) ↔ "id" ∈ contact.keys := by
  rw [← exists_item_iff]
  simp only [textId, bind_eq_ok]
  constructor
  · rintro ⟨k, v, hv, -⟩
    exact ⟨v, hv⟩
  · rintro ⟨v, hv⟩
    exact ⟨_, v, hv, rfl⟩

/-- A contact is kept when it is asked for. -/
theorem requested_textId {ids : List String} :
    Listing.requested (fun row => read row >>= Fields.textId) ids =
      fun row => read row >>= Fields.hasId ids := by
  funext row
  rw [Listing.requested]
  cases read row with
  | error e => rfl
  | ok contact =>
    change (do return Option.any (· ∈ ids) (← contact.textId)) = contact.hasId ids
    rw [Fields.textId, Fields.hasId]
    cases contact.item "id" <;> rfl

/-- What a contact makes is known by the text of the contact's id. -/
theorem entryId_eq_some (hunique : cls.uniqueColumn = some "id") {contact : Fields}
    {r : SourceResult} (hmake : cls.make py contact = .ok r) {s : String} :
    r.relations.sourceEntryId = some s ↔ ∃ id, contact.get? "id" = some id ∧ py.str id = s := by
  rw [ResultClass.entryId_of_make py hmake]
  simp [ResultClass.getUnique, hunique]

/-- By that id, if it is text. -/
theorem entryId_of_text (hunique : cls.uniqueColumn = some "id") {contact : Fields}
    {r : SourceResult} (hmake : cls.make py contact = .ok r) {s : String}
    (hid : contact.get? "id" = some (.str s)) : r.relations.sourceEntryId = some s :=
  (entryId_eq_some hunique hmake).2 ⟨_, hid, py.str_str s⟩

/-- **When contacts are listed back by an id that is text**: they can all
be read and have an id; and for what is found and known by an id, no
contact of that very id has columns that cannot be formatted, and one of
them makes what was found. -/
theorem listsBack_iff_of_textId (hunique : cls.uniqueColumn = some "id") {rows : List α}
    {found : SourceResult → Prop} {list : List String → Except PyError (List SourceResult)}
    (hlist : ∀ ids, Listing.Selects (fun row => read row >>= Fields.hasId ids)
      (fun row => read row >>= (cls.make py ·)) rows (list ids)) :
    Listing.ListsBack found (·.relations.sourceEntryId) list
        (fun row => read row >>= Fields.textId) (fun row => read row >>= (cls.make py ·)) rows ↔
      (∀ row ∈ rows, ∃ contact, read row = .ok contact ∧ "id" ∈ contact.keys) ∧
      ∀ r s, found r → r.relations.sourceEntryId = some s →
        (∀ row ∈ rows, ∀ contact, read row = .ok contact →
          contact.get? "id" = some (.str s) → CanFormat cls.formatColumns.keys contact.keys) ∧
        ∃ row ∈ rows, ∃ contact, read row = .ok contact ∧
          contact.get? "id" = some (.str s) ∧ cls.make py contact = .ok r := by
  have hcompared : ∀ row s, (read row >>= Fields.textId) = .ok (some s) ↔
      ∃ contact, read row = .ok contact ∧ contact.get? "id" = some (.str s) := by
    intro row s
    simp only [bind_eq_ok, Fields.textId_eq_ok]
  have hexists : ∀ row, (∃ k, (read row >>= Fields.textId) = .ok k) ↔
      ∃ contact, read row = .ok contact ∧ "id" ∈ contact.keys := by
    intro row
    simp only [bind_eq_ok, ← Fields.exists_textId_iff]
    constructor
    · rintro ⟨k, contact, hread, hk⟩
      exact ⟨contact, hread, k, hk⟩
    · rintro ⟨contact, hread, k, hk⟩
      exact ⟨k, contact, hread, hk⟩
  have hmade : ∀ row contact r, read row = .ok contact →
      ((read row >>= (cls.make py ·)) = .ok r ↔ cls.make py contact = .ok r) := by
    intro row contact r hread
    rw [hread]
    exact Iff.rfl
  rw [Listing.listsBack_iff fun ids => by rw [requested_textId]; exact hlist ids]
  constructor
  · rintro ⟨hall, -, hback⟩
    refine ⟨fun row hrow => (hexists row).1 (hall row hrow), fun r s hfound hs => ?_⟩
    obtain ⟨hbuild, row, hrow, hk, hmake⟩ := hback r s hfound hs
    obtain ⟨contact, hread, hid⟩ := (hcompared row s).1 hk
    refine ⟨fun row' hrow' contact' hread' hid' => ?_,
      row, hrow, contact, hread, hid, (hmade row contact r hread).1 hmake⟩
    obtain ⟨r', hr'⟩ := hbuild row' hrow' ((hcompared row' s).2 ⟨contact', hread', hid'⟩)
    exact (ResultClass.exists_make_iff py).1 ⟨r', (hmade row' contact' r' hread').1 hr'⟩
  · rintro ⟨hall, hback⟩
    refine ⟨fun row hrow => (hexists row).2 (hall row hrow), fun s _ row _ hk r hmake => ?_,
      fun r s hfound hs => ?_⟩
    · obtain ⟨contact, hread, hid⟩ := (hcompared row s).1 hk
      exact entryId_of_text hunique ((hmade row contact r hread).1 hmake) hid
    · obtain ⟨hformat, row, hrow, contact, hread, hid, hmake⟩ := hback r s hfound hs
      refine ⟨fun row' hrow' hk => ?_, row, hrow, (hcompared row s).2 ⟨contact, hread, hid⟩,
        (hmade row contact r hread).2 hmake⟩
      obtain ⟨contact', hread', hid'⟩ := (hcompared row' s).1 hk
      obtain ⟨r', hr'⟩ := (ResultClass.exists_make_iff py).2
        (hformat row' hrow' contact' hread' hid')
      exact ⟨r', (hmade row' contact' r' hread').2 hr'⟩

end WazoDird
