import WazoDird.Backends.Office365
import WazoDird.Backends.Listing.TextId
import WazoDird.Common.Sorted

/-!
# Listing Office 365 contacts by their ids

The other lookups of the Office 365 backend. All contacts are completed
before any is looked at, and a listing reads the id of each of them.
-/

namespace WazoDird

namespace Office365Plugin

variable (py : TextOps) (plugin : Office365Plugin) (contacts : Option (List Fields))

/-- `match_fn` of `search`, by some searched columns. -/
def showsPart (searchedColumns : List String) (loweredTerm : String) (contact : Fields) : Bool :=
  searchedColumns.any fun column =>
    inText loweredTerm (py.lower (py.str (contact.getOr column)))

/-- What found contacts are sorted by. -/
def givenName (contact : Fields) : Value := (contact.get? "givenName").getD (.str "")

/-- `search`, with what `_fetch_contacts` returned. -/
def search (searchedColumns : List String) (term : String) : Except PyError (List SourceResult) :=
  match contacts with
  | none | some [] => .ok []
  | some contacts => do
    let filtered := (← updateContactFields contacts).filter
      (showsPart py searchedColumns (py.lower term))
    let sorted ← sortBy (fun c d => (givenName c).lt (givenName d)) filtered
    sorted.mapM (plugin.sourceResult.make py ·)

/-- `list`, with what `_fetch_contacts` returned. -/
def list (uniqueIds : List String) : Except PyError (List SourceResult) :=
  match contacts with
  | none | some [] => .ok []
  | some contacts =>
    Listing.eagerly updateContact (Fields.hasId uniqueIds) (plugin.sourceResult.make py ·) contacts

/-! ## What is found is listed back -/

section Listed

variable {py : TextOps} {plugin : Office365Plugin} {contacts : Option (List Fields)}

/-- Completing a contact leaves its id. -/
theorem get?_updateContact {contact updated : Fields} (h : updateContact contact = .ok updated) :
    updated.get? "id" = contact.get? "id" := by
  obtain ⟨email, -, h⟩ := bind_eq_ok.1 h
  obtain ⟨numbers, -, h⟩ := bind_eq_ok.1 h
  obtain ⟨others, -, h⟩ := bind_eq_ok.1 h
  cases h
  rw [Dict.get?_set_of_ne _ _ (by decide), Dict.get?_set_of_ne _ _ (by decide),
    Dict.get?_set_of_ne _ _ (by decide)]
  split
  · rfl
  · rw [Dict.get?_set_of_ne _ _ (by decide)]

/-- A listing is a selection of the contacts. -/
theorem selects_list (ids : List String) :
    Listing.Selects (fun contact => updateContact contact >>= Fields.hasId ids)
      (fun contact => updateContact contact >>= (plugin.sourceResult.make py ·))
      (contacts.getD []) (plugin.list py contacts ids) := by
  have hlist : plugin.list py contacts ids = Listing.eagerly updateContact (Fields.hasId ids)
      (plugin.sourceResult.make py ·) (contacts.getD []) := by
    rcases contacts with - | contacts
    · rfl
    · cases contacts <;> rfl
  rw [hlist]
  exact Listing.selects_eagerly

/-- **A contact is found**, among contacts that are completed: they can be
sorted and made results of, those that show a term in a searched column,
and it is one of them; or it is the first match of a term. -/
structure Reached (py : TextOps) (plugin : Office365Plugin) (searchedColumns : List String)
    (completed : List Fields) (contact : Fields) : Prop where
  mem : contact ∈ completed
  make : ∃ r, plugin.sourceResult.make py contact = .ok r
  reached : ∃ term,
    (showsPart py searchedColumns (py.lower term) contact = true ∧
      Sortable (fun c d => (givenName c).lt (givenName d))
        (completed.filter (showsPart py searchedColumns (py.lower term))) ∧
      ∀ other ∈ completed, showsPart py searchedColumns (py.lower term) other = true →
        ∃ r, plugin.sourceResult.make py other = .ok r) ∨
    Scan.StopsAt (plugin.firstMatchPredicate py (py.lower term)) completed contact

/-- What is found is made of the contacts that are reached. -/
theorem found_iff {searchedColumns : List String} {r : SourceResult} {completed : List Fields}
    (hcompleted : updateContactFields (contacts.getD []) = .ok completed) :
    Listing.Found (plugin.search py contacts searchedColumns) (plugin.firstMatch py contacts) r ↔
      ∃ contact, Reached py plugin searchedColumns completed contact ∧
        plugin.sourceResult.make py contact = .ok r := by
  have hnone : contacts.getD [] = [] → completed = [] := by
    intro h
    rw [h] at hcompleted
    exact (Except.ok.inj hcompleted).symm
  have hsearch : ∀ term, plugin.search py contacts searchedColumns term =
      sortBy (fun c d => (givenName c).lt (givenName d))
          (completed.filter (showsPart py searchedColumns (py.lower term))) >>= fun sorted =>
        sorted.mapM (plugin.sourceResult.make py ·) := by
    intro term
    unfold search
    split
    · rw [hnone rfl]
      rfl
    · rw [hnone rfl]
      rfl
    · next contacts _ =>
      rw [show updateContactFields contacts = .ok completed from hcompleted]
      rfl
  have hmatch : ∀ term, plugin.firstMatch py contacts term =
      Scan.first (plugin.firstMatchPredicate py (py.lower term))
        (plugin.sourceResult.make py ·) completed := by
    intro term
    unfold firstMatch
    split
    · next hcolumns =>
      refine (Scan.first_eq_none fun contact _ => ?_).symm
      rw [firstMatchPredicate, hcolumns]
      rfl
    · split
      · rw [hnone rfl]
        rfl
      · rw [hnone rfl]
        rfl
      · next contacts _ =>
        rw [show updateContactFields contacts = .ok completed from hcompleted]
        rfl
  constructor
  · rintro (⟨term, rs, h, hr⟩ | ⟨term, h⟩)
    · rw [hsearch] at h
      obtain ⟨sorted, hsorted, h⟩ := bind_eq_ok.1 h
      obtain ⟨contact, hcontact, hmake⟩ := mem_of_mapM_eq_ok h hr
      obtain ⟨hmem, hshows⟩ := List.mem_filter.1 ((sortBy_perm hsorted).mem_iff.1 hcontact)
      refine ⟨contact, ⟨hmem, ⟨r, hmake⟩, term, Or.inl ⟨hshows, ⟨sorted, hsorted⟩,
        fun other hother hpart => ?_⟩⟩, hmake⟩
      exact exists_mapM_eq_ok.1 ⟨rs, h⟩ other
        ((sortBy_perm hsorted).mem_iff.2 (List.mem_filter.2 ⟨hother, hpart⟩))
    · rw [hmatch, Scan.first_eq_some] at h
      obtain ⟨contact, hstop, hmake⟩ := h
      have hmem : contact ∈ completed := by
        obtain ⟨pre, post, hsplit, -⟩ := hstop
        exact hsplit ▸ List.mem_append_right _ List.mem_cons_self
      exact ⟨contact, ⟨hmem, ⟨r, hmake⟩, term, Or.inr hstop⟩, hmake⟩
  · rintro ⟨contact, ⟨hmem, -, term, ⟨hshows, ⟨sorted, hsorted⟩, hall⟩ | hstop⟩, hmake⟩
    · have hmade : ∀ other ∈ sorted, ∃ r, plugin.sourceResult.make py other = .ok r := by
        intro other hother
        obtain ⟨hin, hpart⟩ := List.mem_filter.1 ((sortBy_perm hsorted).mem_iff.1 hother)
        exact hall other hin hpart
      obtain ⟨rs, hrs⟩ := exists_mapM_eq_ok.2 hmade
      refine Or.inl ⟨term, rs, ?_, (mem_mapM_iff hrs).2 ⟨contact, ?_, hmake⟩⟩
      · rw [hsearch]
        exact bind_eq_ok.2 ⟨sorted, hsorted, hrs⟩
      · exact (sortBy_perm hsorted).mem_iff.2 (List.mem_filter.2 ⟨hmem, hshows⟩)
    · refine Or.inr ⟨term, ?_⟩
      rw [hmatch, Scan.first_eq_some]
      exact ⟨contact, hstop, hmake⟩

/-- **When an Office 365 source lists back what it finds**: all contacts
have an id and can be completed; and for each that is reached, those whose
id is the text of its id can be made results of, and one of them makes the
same. -/
theorem listsBack_iff {searchedColumns : List String}
    (hunique : plugin.sourceResult.uniqueColumn = some "id") :
    Listing.ListsBack
        (Listing.Found (plugin.search py contacts searchedColumns) (plugin.firstMatch py contacts))
        (·.relations.sourceEntryId) (plugin.list py contacts)
        (fun contact => updateContact contact >>= Fields.textId)
        (fun contact => updateContact contact >>= (plugin.sourceResult.make py ·))
        (contacts.getD []) ↔
      (∀ contact ∈ contacts.getD [], "id" ∈ contact.keys) ∧
      ∃ completed, updateContactFields (contacts.getD []) = .ok completed ∧
        ∀ contact, Reached py plugin searchedColumns completed contact →
          ∀ id, contact.get? "id" = some id →
            (∀ other ∈ completed, other.get? "id" = some (.str (py.str id)) →
              CanFormat plugin.sourceResult.formatColumns.keys other.keys) ∧
            ∃ other ∈ completed, other.get? "id" = some (.str (py.str id)) ∧
              plugin.sourceResult.make py other = plugin.sourceResult.make py contact := by
  have hkey : ∀ {contact updated}, updateContact contact = .ok updated →
      ("id" ∈ updated.keys ↔ "id" ∈ contact.keys) := by
    intro contact updated hupdate
    rw [Dict.mem_keys_iff, Dict.mem_keys_iff, get?_updateContact hupdate]
  rw [listsBack_iff_of_textId hunique selects_list]
  constructor
  · rintro ⟨hall, hback⟩
    obtain ⟨completed, hcompleted⟩ : ∃ completed, updateContactFields (contacts.getD []) =
        .ok completed :=
      exists_mapM_eq_ok.2 fun contact hcontact =>
        (hall contact hcontact).imp fun updated h => h.1
    refine ⟨fun contact hcontact => ?_, completed, hcompleted, fun contact hreached id hid => ?_⟩
    · obtain ⟨updated, hupdate, hid⟩ := hall contact hcontact
      exact (hkey hupdate).1 hid
    · obtain ⟨r, hmake⟩ := hreached.make
      obtain ⟨hformat, row, hrow, other, hread, hget, hsame⟩ := hback r (py.str id)
        ((found_iff hcompleted).2 ⟨contact, hreached, hmake⟩)
        ((entryId_eq_some hunique hmake).2 ⟨id, hid, rfl⟩)
      refine ⟨fun other' hother' hget' => ?_, other,
        (mem_mapM_iff hcompleted).2 ⟨row, hrow, hread⟩, hget, hsame.trans hmake.symm⟩
      obtain ⟨row', hrow', hread'⟩ := (mem_mapM_iff hcompleted).1 hother'
      exact hformat row' hrow' other' hread' hget'
  · rintro ⟨hids, completed, hcompleted, hback⟩
    refine ⟨fun row hrow => ?_, fun r s hfound hs => ?_⟩
    · obtain ⟨updated, hupdate⟩ := exists_mapM_eq_ok.1 ⟨completed, hcompleted⟩ row hrow
      exact ⟨updated, hupdate, (hkey hupdate).2 (hids row hrow)⟩
    · obtain ⟨contact, hreached, hmake⟩ := (found_iff hcompleted).1 hfound
      obtain ⟨id, hid, rfl⟩ := (entryId_eq_some hunique hmake).1 hs
      obtain ⟨hformat, other, hother, hget, hsame⟩ := hback contact hreached id hid
      obtain ⟨row, hrow, hread⟩ := (mem_mapM_iff hcompleted).1 hother
      refine ⟨fun row' hrow' contact' hread' hget' => ?_, row, hrow, other, hread, hget,
        hsame.trans hmake⟩
      exact hformat contact' ((mem_mapM_iff hcompleted).2 ⟨row', hrow', hread'⟩) hget'

end Listed

end Office365Plugin

end WazoDird
