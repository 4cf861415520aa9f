import WazoDird.Backends.Listing.Google
import WazoDird.Common.Pages
import WazoDird.Services.Paginators
import WazoDird.Services.SortContacts

/-!
# Fetching the contacts of Google

`_fetch` and `get_contacts` of `plugins/google_backend/services.py`. The
People API gives an account's connections by pages of the size asked for,
and a token for the next page where there are more. `_fetch` asks for one
page of a thousand and looks at no token.
-/

namespace WazoDird

/-- **The People API**, for the token of a user: a page of connections of
some size, from the beginning or from a page token on, and the people that
a search finds; none where the answer is not a success. -/
structure PeopleApi (τ : Type) where
  connections : ℕ → Option τ → Option (Page τ (List GooglePerson))
  searchContacts : ℕ → String → Option (List GooglePerson)

namespace GoogleService

variable {τ : Type} (api : PeopleApi τ)

/-- `_fetch`. -/
def fetch (term : Option String) : List Fields :=
  match term.filter (· ≠ "") with
  | some term => ((api.searchContacts 30 term).getD []).map GooglePerson.format
  | none =>
    match api.connections 1000 none with
    | none => []
    | some response => response.content.map GooglePerson.format

/-- `get_contacts`. -/
def getContacts (py : TextOps) (text : SortText) (params : ContactListParams) : List Fields × ℕ :=
  let contacts := fetch api params.search
  let sortedContacts := sortFields py text contacts params.order params.direction
    params.orderInsensitive
  (paginate params.limit params.offset sortedContacts, contacts.length)

/-- The account that answers as the API does. -/
def account : GoogleAccount where
  connections := ((api.connections 1000 none).map Page.content).getD []
  results term := (api.searchContacts 30 term).getD []

/-- **What the API promises**: a page holds as many of the account's
connections as were asked for, from where its token left off, and has a
token whenever more remain. -/
def ServesAccount (connections : List GooglePerson) : Prop :=
  ∃ position : Option τ → ℕ, position none = 0 ∧ ∀ size token, ∃ next,
    api.connections size token = some ⟨(connections.drop (position token)).take size, next⟩ ∧
    if position token + size < connections.length then
      ∃ t, next = some t ∧ position (some t) = position token + size
    else next = none

variable {api} {connections : List GooglePerson} {py : TextOps} {text : SortText}
  {params : ContactListParams}

/-- What is fetched is what the account answers. -/
theorem fetch_eq (term : String) : fetch api (some term) = (account api).contactsWithTerm term := by
  rw [GoogleAccount.contactsWithTerm, fetch]
  by_cases hterm : term = ""
  · subst hterm
    cases h : api.connections 1000 none <;> simp [Option.filter, account, h]
  · simp [Option.filter, hterm, account]

/-- **The first thousand connections are fetched**, and no other. -/
theorem ServesAccount.fetch_eq (h : ServesAccount api connections) {term : Option String}
    (hterm : term.getD "" = "") :
    fetch api term = (connections.take 1000).map GooglePerson.format := by
  obtain ⟨position, hstart, hpages⟩ := h
  obtain ⟨next, hpage, -⟩ := hpages 1000 none
  have hfilter : term.filter (· ≠ "") = none := by
    cases term with
    | none => rfl
    | some term => simpa [Option.filter] using hterm
  rw [fetch, hfilter, hpage, hstart, List.drop_zero]

/-- **All contacts asked for, `get_contacts` gives what was fetched.** -/
theorem getContacts_perm (hparams : params.Whole) :
    (getContacts api py text params).1.Perm (fetch api params.search) := by
  rw [getContacts, paginate, paginateContacts_whole hparams]
  exact sortFields_perm _ _ _ _ _ _

/-- **When `get_contacts` gives every connection once**: there are a thousand
at most. -/
theorem getContacts_complete_iff (api : PeopleApi τ) (connections : List GooglePerson)
    (h : ServesAccount api connections) (py : TextOps) (text : SortText) (params : ContactListParams)
    (hparams : params.Whole) :
    ((getContacts api py text params).1.Perm (connections.map GooglePerson.format) ∧
      (getContacts api py text params).2 = connections.length) ↔ connections.length ≤ 1000 := by
  have htotal : (getContacts api py text params).2 = min 1000 connections.length := by
    rw [getContacts, h.fetch_eq hparams.search, List.length_map, List.length_take]
  rw [htotal]
  constructor
  · rintro ⟨-, hlength⟩
    omega
  · intro hlength
    refine ⟨?_, by omega⟩
    have hperm : (getContacts api py text params).1.Perm (fetch api params.search) :=
      getContacts_perm hparams
    rwa [h.fetch_eq hparams.search, List.take_of_length_le hlength] at hperm

/-! ## An account of more than a page -/

/-- An API over some connections, whose tokens are the places they leave off
at. -/
def apiOf (connections : List GooglePerson) : PeopleApi ℕ where
  connections size token :=
    let place := token.getD 0
    some ⟨(connections.drop place).take size,
      if place + size < connections.length then some (place + size) else none⟩
  searchContacts _ _ := none

/-- It serves them. -/
theorem servesAccount_apiOf (connections : List GooglePerson) :
    ServesAccount (apiOf connections) connections := by
  refine ⟨(·.getD 0), rfl, fun size token => ⟨_, rfl, ?_⟩⟩
  split
  case isTrue => exact ⟨_, rfl, rfl⟩
  case isFalse => rfl

/-- An account of two connections is fetched whole. -/
theorem getContacts_complete_two :
    (getContacts (apiOf [{}, {}]) plainText asciiText {}).1.Perm
        ([{}, {}] |>.map GooglePerson.format) ∧
      (getContacts (apiOf [{}, {}]) plainText asciiText {}).2 = 2 :=
  (getContacts_complete_iff (apiOf [{}, {}]) [{}, {}] (servesAccount_apiOf _) plainText asciiText {}
    ⟨rfl, rfl, rfl⟩).2 (by decide)

/-- **Of a thousand and one connections one is missing**: what is given is
not all of them, and the API serves all. -/
theorem not_complete_of_replicate :
    ServesAccount (apiOf (List.replicate 1001 {})) (List.replicate 1001 {}) ∧
      ¬ (getContacts (apiOf (List.replicate 1001 {})) plainText asciiText {}).1.Perm
        ((List.replicate 1001 {}).map GooglePerson.format) := by
  refine ⟨servesAccount_apiOf _, fun hperm => ?_⟩
  have hfetch : (getContacts (apiOf (List.replicate 1001 {})) plainText asciiText {}).1.Perm
      (fetch (apiOf (List.replicate 1001 {})) none) := getContacts_perm ⟨rfl, rfl, rfl⟩
  have hlength := (hperm.symm.trans hfetch).length_eq
  rw [(servesAccount_apiOf _).fetch_eq rfl, List.length_map, List.length_map, List.length_take,
    List.length_replicate] at hlength
  omega

end GoogleService

end WazoDird
