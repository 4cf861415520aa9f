import WazoDird.Backends.Google
import WazoDird.Backends.GoogleContacts
import WazoDird.Backends.Listing.TextId

/-!
# Listing Google contacts by their ids

The lookups of the Google backend, by what the People API answers. A search
of some term asks another address than a listing, which goes through one
page of the user's connections; and a listing compares the id of a contact
as it is, where a result is known by its text.
-/

namespace WazoDird

/-- What the People API answers for the token of a user: a page of its
connections, and the people that a term finds. -/
structure GoogleAccount where
  connections : List GooglePerson
  results : String → List GooglePerson

namespace GoogleAccount

variable (account : GoogleAccount)

/-- The contacts of `get_contacts`. -/
def contacts : List Fields := account.connections.map GooglePerson.format

/-- `get_contacts_with_term`. A term of no character finds the connections. -/
def contactsWithTerm (term : String) : List Fields :=
  (if term = "" then account.connections else account.results term).map GooglePerson.format

end GoogleAccount

namespace GooglePlugin

variable (py : TextOps) (plugin : GooglePlugin) (account : Option GoogleAccount)

/-- The search for a part of one value of a column. -/
def valueShows (term : String) (value : Value) : Except PyError Bool :=
  match value with
  | .dict entries => entries.anyM fun entry => do return inText term (← entry.2.lower py.lower)
  | value => do return inText term (← value.lower py.lower)

/-- `_search_match_predicate`, by some searched columns. -/
def searchMatchPredicate (searchedColumns : List String) (term : String) (contact : Fields) :
    Except PyError Bool :=
  searchedColumns.anyM fun column =>
    match contact.getOr column with
    | .list values => values.anyM (valueShows py term)
    | .dict entries => (entries.map fun entry => Value.str entry.1).anyM (valueShows py term)
    | columnValue => do return inText term (← columnValue.lower py.lower)

/-- `search`, with what is answered for the user's token, if it has one. -/
def search (searchedColumns : List String) (term : String) : Except PyError (List SourceResult) :=
  match account with
  | none => .ok []
  | some account =>
    Listing.eagerly .ok (searchMatchPredicate py searchedColumns (py.lower term))
      (plugin.sourceResult.make py ·) (account.contactsWithTerm term)

/-- `list`. -/
def list (uniqueIds : List String) : Except PyError (List SourceResult) :=
  match account with
  | none => .ok []
  | some account =>
    Listing.eagerly .ok (Fields.hasId uniqueIds) (plugin.sourceResult.make py ·) account.contacts

/-! ## What is found is listed back -/

section Listed

variable {py : TextOps} {plugin : GooglePlugin} {account : Option GoogleAccount}

/-- The contacts that a listing goes through. -/
def listed (account : Option GoogleAccount) : List Fields :=
  (account.map GoogleAccount.contacts).getD []

/-- A listing is a selection of the contacts. -/
theorem selects_list (ids : List String) :
    Listing.Selects (fun contact => .ok contact >>= Fields.hasId ids)
      (fun contact => .ok contact >>= (plugin.sourceResult.make py ·)) (listed account)
      (plugin.list py account ids) := by
  have hlist : plugin.list py account ids = Listing.eagerly .ok (Fields.hasId ids)
      (plugin.sourceResult.make py ·) (listed account) := by
    cases account <;> rfl
  rw [hlist]
  exact Listing.selects_eagerly

/-- **A contact is reached**: it is answered for a term, which it shows in a
searched column, or it is a connection that a term is a first match of. -/
def Reached (py : TextOps) (plugin : GooglePlugin) (account : Option GoogleAccount)
    (searchedColumns : List String) (contact : Fields) : Prop :=
  Listing.Reached (fun term => account.elim [] (·.contactsWithTerm term)) (fun _ => listed account)
    (fun term => searchMatchPredicate py searchedColumns (py.lower term))
    (fun term => plugin.firstMatchPredicate py (py.lower term))
    (plugin.sourceResult.make py ·) contact

/-- What is found is made of the contacts that are reached. -/
theorem found_iff {searchedColumns : List String} {r : SourceResult} :
    Listing.Found (plugin.search py account searchedColumns)
        (plugin.firstMatch py (account.map GoogleAccount.contacts)) r ↔
      ∃ contact, Reached py plugin account searchedColumns contact ∧
        plugin.sourceResult.make py contact = .ok r := by
  refine Listing.found_iff_reached (fun term => ?_) fun term => ?_
  · cases account with
    | none => exact Listing.selects_nil fun row hrow => by cases hrow
    | some a => exact @Listing.selects_eagerly _ _ _ _ .ok _ _ (a.contactsWithTerm term)
  · unfold firstMatch
    split
    · next hcolumns =>
      refine (Scan.first_eq_none fun contact _ => ?_).symm
      rw [firstMatchPredicate, hcolumns]
      rfl
    · cases account <;> rfl

/-- **When a Google source lists back what it finds**: for each contact that
is reached, a connection whose id is the text of its id makes the same
result. -/
theorem listsBack_iff {searchedColumns : List String}
    (hunique : plugin.sourceResult.uniqueColumn = some "id") :
    Listing.ListsBack
        (Listing.Found (plugin.search py account searchedColumns)
          (plugin.firstMatch py (account.map GoogleAccount.contacts)))
        (·.relations.sourceEntryId) (plugin.list py account)
        (fun contact => .ok contact >>= Fields.textId)
        (fun contact => .ok contact >>= (plugin.sourceResult.make py ·)) (listed account) ↔
      ∀ contact, Reached py plugin account searchedColumns contact →
        ∀ id, contact.get? "id" = some id → ∃ other ∈ listed account,
          other.get? "id" = some (.str (py.str id)) ∧
            plugin.sourceResult.make py other = plugin.sourceResult.make py contact := by
  have hkeys : ∀ contact ∈ listed account, ∃ person : GooglePerson, person.format = contact := by
    intro contact hcontact
    cases account with
    | none => cases hcontact
    | some a =>
      obtain ⟨person, -, hperson⟩ := List.mem_map.1 hcontact
      exact ⟨person, hperson⟩
  rw [listsBack_iff_of_textId hunique selects_list]
  constructor
  · rintro ⟨-, hback⟩ contact hreached id hid
    obtain ⟨r, hmake⟩ := hreached.exists_make
    obtain ⟨-, other, hother, _, ⟨⟩, hget, hsame⟩ := hback r (py.str id)
      (found_iff.2 ⟨contact, hreached, hmake⟩)
      ((entryId_eq_some hunique hmake).2 ⟨id, hid, rfl⟩)
    exact ⟨other, hother, hget, hsame.trans hmake.symm⟩
  · intro hback
    refine ⟨fun contact hcontact => ?_, fun r s hfound hs => ?_⟩
    · obtain ⟨person, rfl⟩ := hkeys contact hcontact
      refine ⟨_, rfl, ?_⟩
      rw [GooglePerson.keys_format]
      decide
    · obtain ⟨contact, hreached, hmake⟩ := found_iff.1 hfound
      obtain ⟨id, hid, rfl⟩ := (entryId_eq_some hunique hmake).1 hs
      obtain ⟨other, hother, hget, hsame⟩ := hback contact hreached id hid
      refine ⟨fun contact' hcontact' _ hread _ => ?_, other, hother, _, rfl, hget,
        hsame.trans hmake⟩
      -- all contacts have the same columns
      cases hread
      obtain ⟨person', rfl⟩ := hkeys contact' hcontact'
      obtain ⟨person, rfl⟩ := hkeys other hother
      rw [GooglePerson.keys_format, ← GooglePerson.keys_format person]
      exact (ResultClass.exists_make_iff py).1 ⟨r, hsame.trans hmake⟩

end Listed

end GooglePlugin

end WazoDird
