import Mathlib.Data.List.Basic
import WazoDird.Database.Queries.PersonalContactCRUD
import WazoDird.PhonebookContacts.Service

/-!
# The pages of a listing

Five listings cut a page out of a list, each in its own words: the contacts
of a phonebook, a user's personal contacts, the sources of a profile, and
the contacts of Google and of Office 365. They agree but for a limit of
zero, which one of them rejects and another takes for no limit.
-/

namespace WazoDird

variable {α : Type}

/-- `l[start:stop]`, and `list(islice(l, start, stop))`. -/
def slice (l : List α) (start : ℕ) (stop : Option ℕ) : List α :=
  (stop.elim l l.take).drop start

/-- The slice of `_PhonebookService.list_contacts`. -/
def PhonebookService.slicePage (limit offset : Option ℕ) (l : List α) : List α :=
  let start := offset.getD 0
  slice l start ((limit.filter (· ≠ 0)).map (start + ·))

/-- The slice of `list_personal_contacts`, after the check of
`validate_parameters`. -/
def PersonalContactCRUD.slicePage (limit offset : Option ℕ) (l : List α) :
    Except PyError (List α) :=
  let offset := offset.getD 0
  if limit = some 0 then .error .valueError
  else .ok (slice l offset ((limit.filter (· ≠ 0)).map (offset + ·)))

/-- `_ProfileService._paginate`. -/
def ProfileService.paginate (limit offset : Option ℕ) (l : List α) : List α :=
  let offset := offset.getD 0
  match limit with
  | some limit => slice l offset (some (offset + limit))
  | none => slice l offset none

/-- The `_paginate` of the services of Google and Office 365. -/
def paginateContacts (limit offset : Option ℕ) (l : List α) : List α :=
  if limit = none ∧ offset = none then l
  else
    let rest := match offset.filter (· ≠ 0) with
      | some offset => slice l offset none
      | none => l
    match limit with
    | none => rest
    | some limit => slice rest 0 (some limit)

/-- `GoogleService._paginate`. -/
def GoogleService.paginate (limit offset : Option ℕ) (l : List α) : List α :=
  paginateContacts limit offset l

/-- `Office365Service._paginate`. -/
def Office365Service.paginate (limit offset : Option ℕ) (l : List α) : List α :=
  paginateContacts limit offset l

/-- How a listing of contacts sorts, pages and searches. -/
structure ContactListParams where
  search : Option String := none
  order : Option String := none
  direction : Option String := none
  orderInsensitive : Bool := false
  limit : Option ℕ := none
  offset : Option ℕ := none

/-- All contacts are asked for: no search, no limit and no offset. -/
structure ContactListParams.Whole (params : ContactListParams) : Prop where
  search : params.search.getD "" = ""
  limit : params.limit = none
  offset : params.offset.getD 0 = 0

/-- The listings that cut a page out of a list. -/
inductive Paginator where
  | phonebook
  | personal
  | profile
  | google
  | office365
  deriving DecidableEq

/-- The page a listing cuts out, or what it raises. -/
def Paginator.page (limit offset : Option ℕ) (l : List α) : Paginator → Except PyError (List α)
  | .phonebook => .ok (PhonebookService.slicePage limit offset l)
  | .personal => PersonalContactCRUD.slicePage limit offset l
  | .profile => .ok (ProfileService.paginate limit offset l)
  | .google => .ok (GoogleService.paginate limit offset l)
  | .office365 => .ok (Office365Service.paginate limit offset l)

/-- **The page asked for**: the elements that come after those of the offset,
as many as the limit. -/
def firstAfter (limit offset : Option ℕ) (l : List α) : List α :=
  let rest := l.drop (offset.getD 0)
  limit.elim rest rest.take

section

variable {limit offset : Option ℕ} {l : List α} {n m : ℕ}

/-- So do the services of Google and Office 365. -/
theorem paginateContacts_eq : paginateContacts limit offset l = firstAfter limit offset l := by
  have hrest : (match offset.filter (· ≠ 0) with
      | some offset => slice l offset none
      | none => l) = l.drop (offset.getD 0) := by
    rcases offset with - | - | offset
    · rfl
    · rfl
    · rfl
  unfold paginateContacts
  split
  case isTrue h =>
    obtain ⟨rfl, rfl⟩ := h
    rfl
  case isFalse h =>
    simp only [hrest]
    cases limit <;> rfl

/-- All contacts asked for, the services of Google and Office 365 cut nothing
off. -/
theorem paginateContacts_whole {params : ContactListParams} (h : params.Whole) :
    paginateContacts params.limit params.offset l = l := by
  rw [paginateContacts_eq, firstAfter, h.limit, h.offset, List.drop_zero]
  rfl

end

end WazoDird
