import Mathlib.Data.List.Sort
import Mathlib.Data.String.Basic
import WazoDird.Database.Queries.Base

/-!
# Sorting and paging contacts

`sort_contacts` of `plugin_helpers/sorting.py`, and the slice its callers
take of what it gives. How a text is folded and transliterated belongs to
the language and to a library.
-/

namespace WazoDird

/-- What a text is compared by. -/
structure SortText where
  casefold : String → String
  unidecode : String → String

/-- `ALMOST_LAST_STRING`. -/
def almostLastString : String := String.ofList (List.replicate 16 (Char.ofNat 1114111))

/-- `get_value`: what a contact without a value is compared by sorts
last. -/
def sortValue (text : SortText) (order : String) (orderInsensitive : Bool)
    (contact : ContactInfo) : String :=
  match (contact.get? order).join.filter (· ≠ "") with
  | none => almostLastString
  | some value => text.unidecode (if orderInsensitive then text.casefold value else value)

/-- **`sort_contacts`**: contacts of one value stay in their order, in both
directions. -/
def sortContacts (text : SortText) (contacts : List ContactInfo) (order direction : Option String)
    (orderInsensitive : Bool) : List ContactInfo :=
  match order.filter (· ≠ "") with
  | none => contacts
  | some order =>
    let value := sortValue text order orderInsensitive
    if direction = some "desc" then contacts.insertionSort fun c d => value d ≤ value c
    else contacts.insertionSort fun c d => value c ≤ value d

/-- The slice of a page: a limit of none, or of zero, is no limit. -/
def page {α : Type} (limit offset : Option ℕ) (l : List α) : List α :=
  match limit.filter (· ≠ 0) with
  | none => l.drop (offset.getD 0)
  | some limit => (l.drop (offset.getD 0)).take limit

/-- Sorting loses no contact and makes none. -/
theorem sortContacts_perm (text : SortText) (contacts : List ContactInfo)
    (order direction : Option String) (orderInsensitive : Bool) :
    (sortContacts text contacts order direction orderInsensitive).Perm contacts := by
  unfold sortContacts
  split
  · exact List.Perm.refl _
  · split
    · exact List.perm_insertionSort _ _
    · exact List.perm_insertionSort _ _

/-- The whole list is its only page. -/
theorem page_all {α : Type} {limit offset : Option ℕ} (hlimit : limit.filter (· ≠ 0) = none)
    (hoffset : offset.getD 0 = 0) (l : List α) : page limit offset l = l := by
  rw [page, hlimit, hoffset]
  rfl

end WazoDird
