import WazoDird.Database.Model
import WazoDird.Ldap.Plugin

/-!
# The client of an LDAP source

`_LDAPClient` of `plugins/ldap_backend/plugin.py`. It keeps a connection
from one search to the next, tears it down on most errors, and searches
once more on a new one. What the server answers with is in its own order,
references among the entries.
-/

namespace WazoDird

/-- What a search may raise. -/
inductive LdapError where
  | filterError
  | noSuchObject
  | timeout
  | sizelimitExceeded
  | serverDown
  /-- Any other error of the library. -/
  | other
  deriving DecidableEq, Repr

/-- An error for which `_search` has no handler of its own. -/
def LdapError.tearsDown : LdapError → Bool
  | .filterError | .noSuchObject | .timeout => false
  | .sizelimitExceeded | .serverDown | .other => true

/-- `_LDAPClient`. Whether its connection is set up. -/
structure LdapClient where
  isSetUp : Bool
  deriving DecidableEq, Repr

namespace LdapClient

variable (binds : Bool) (answer : Except LdapError (List RawResult)) (client : LdapClient)

/-- `_set_up`. A bind that the server refuses tears the connection down. -/
def setUp : LdapClient := ⟨binds⟩

/-- `_search`. -/
def searchOnce : List RawResult × LdapClient :=
  match answer with
  | .ok results => (results, client)
  | .error error => ([], if error.tearsDown then ⟨false⟩ else client)

/-- `search`. A client whose connection was set up tries again when it is
torn down. -/
def search : List RawResult × LdapClient :=
  if client.isSetUp then
    let (results, client) := client.searchOnce answer
    if client.isSetUp then (results, client)
    else
      let client := setUp binds
      if client.isSetUp then client.searchOnce answer else ([], client)
  else
    let client := setUp binds
    if client.isSetUp then client.searchOnce answer else ([], client)

/-- **What a search gives** does not depend on the connection, with a
server that accepts the bind: nothing for an error. -/
theorem search_fst (client : LdapClient) :
    (client.search true answer).1 = answer.toOption.getD [] := by
  obtain ⟨isSetUp⟩ := client
  cases answer with
  | ok results => cases isSetUp <;> rfl
  | error error => cases isSetUp <;> cases error <;> rfl

end LdapClient

/-- A result that has a name. -/
def RawResult.isEntry : RawResult → Bool
  | .entry _ _ => true
  | .reference _ => false

namespace LdapServer

variable (server : LdapServer)

/-- An entry satisfies an optional filter. A search without one is for
`(objectClass=*)`, which every entry satisfies. -/
def SatisfiesFilter : Option String → LdapEntry → Prop
  | none, _ => True
  | some filter, entry => server.Satisfies filter entry

instance (entry : LdapEntry) : (filter : Option String) →
    Decidable (server.SatisfiesFilter filter entry)
  | none => inferInstanceAs (Decidable True)
  | some filter => inferInstanceAs (Decidable (server.Satisfies filter entry))

/-- An entry as the server sends it. -/
def send (attributes : Option (List String)) (entry : LdapEntry) : RawResult :=
  .entry entry.dn (server.select attributes entry.attrs)

/-- The text of a filter is refused. -/
def refused (filter : Option String) : Bool :=
  filter.any fun text => (Rfc4515.parse text.toList).isNone

/-- The entries, and the references, in the order the server sends them. -/
def sendAll (arrival : RowOrder RawResult) (attributes : Option (List String))
    (entries : List LdapEntry) : List RawResult :=
  arrival.order (entries.map (server.send attributes) ++ server.references.map .reference)

/-- `search_ext_s`. More entries than the size limit are an error, which
does not count references. -/
def searchExt (arrival : RowOrder RawResult) (attributes : Option (List String))
    (filter : Option String) (sizelimit : Option ℕ) : Except LdapError (List RawResult) :=
  if refused filter then .error .filterError
  else
    let entries := server.entries.filter (server.SatisfiesFilter filter)
    if sizelimit.any (· < entries.length) then .error .sizelimitExceeded
    else .ok (server.sendAll arrival attributes entries)

variable {server} {arrival : RowOrder RawResult} {attributes : Option (List String)}
  {filter : Option String}

/-- The server sends an entry before its references. -/
def ComesFirst (arrival : RowOrder RawResult) (attributes : Option (List String))
    (entry : LdapEntry) : Prop :=
  (arrival.first (server.send attributes entry :: server.references.map .reference)).any
    RawResult.isEntry = true

instance (entry : LdapEntry) : Decidable (server.ComesFirst arrival attributes entry) :=
  inferInstanceAs (Decidable (_ = true))

/-- What comes first and is an entry is the one that was sent. -/
theorem first_eq_entry {entry : LdapEntry} {dn : String} {attrs : LdapAttrs}
    (h : arrival.first (server.send attributes entry :: server.references.map .reference) =
      some (.entry dn attrs)) : server.send attributes entry = .entry dn attrs := by
  rcases List.mem_cons.1 (RowOrder.mem_of_first h) with hentry | hreference
  · exact hentry.symm
  · obtain ⟨urls, -, hurls⟩ := List.mem_map.1 hreference
    cases hurls

/-- No entry comes first among references. -/
theorem first_references {dn : String} {attrs : LdapAttrs} :
    arrival.first (server.references.map .reference) ≠ some (.entry dn attrs) := by
  intro h
  obtain ⟨urls, -, hurls⟩ := List.mem_map.1 (RowOrder.mem_of_first h)
  cases hurls

/-- Text that is no filter is satisfied by no entry. -/
theorem satisfying_eq_nil (h : refused filter = true) :
    server.entries.filter (server.SatisfiesFilter filter) = [] := by
  rw [List.filter_eq_nil_iff]
  intro entry _ hsat
  obtain ⟨text, rfl, hnone⟩ := (Option.any_eq_true _ _).1 h
  obtain ⟨f, hf, -⟩ := of_decide_eq_true hsat
  rw [hf] at hnone
  cases hnone

/-- **What comes first when one entry at most is sent**: the entry, where
no reference is before it. -/
theorem head?_sendAll {entries : List LdapEntry} (hone : entries.length ≤ 1) {dn : String}
    {attrs : LdapAttrs} :
    (server.sendAll arrival attributes entries).head? = some (.entry dn attrs) ↔
      ∃ entry, entries = [entry] ∧ server.ComesFirst arrival attributes entry ∧
        server.send attributes entry = .entry dn attrs := by
  match entries with
  | [] =>
    constructor
    · intro h
      exact absurd h first_references
    · rintro ⟨entry, hnil, -⟩
      cases hnil
  | [entry] =>
    constructor
    · intro h
      have hfirst : server.ComesFirst arrival attributes entry :=
        (Option.any_eq_true _ _).2 ⟨_, h, rfl⟩
      exact ⟨entry, rfl, hfirst, first_eq_entry h⟩
    · rintro ⟨entry', hentry, hfirst, hsent⟩
      cases hentry
      obtain ⟨result, hresult, hisEntry⟩ := (Option.any_eq_true _ _).1 hfirst
      cases result with
      | entry dn' attrs' =>
        rw [← hsent, first_eq_entry hresult]
        exact hresult
      | reference urls => cases hisEntry
  | entry :: entry' :: entries => simp at hone

/-- **What comes first of a search for at most one entry**: the entry that
satisfies its filter, where there is no other and no reference before it. -/
theorem head?_searchExt_one {dn : String} {attrs : LdapAttrs} :
    ((server.searchExt arrival attributes filter (some 1)).toOption.getD []).head? =
        some (.entry dn attrs) ↔
      ∃ entry, server.entries.filter (server.SatisfiesFilter filter) = [entry] ∧
        server.ComesFirst arrival attributes entry ∧
        server.send attributes entry = .entry dn attrs := by
  -- an error gives nothing, and then no single entry satisfies the filter
  have hnothing : ∀ {entries : List LdapEntry} {P : LdapEntry → Prop}, entries.length ≠ 1 →
      (none = some (RawResult.entry dn attrs) ↔ ∃ entry, entries = [entry] ∧ P entry) := by
    intro entries P hlength
    constructor
    · intro h
      cases h
    · rintro ⟨entry, rfl, -⟩
      exact absurd rfl hlength
  unfold searchExt
  split
  · next hrefused =>
    refine hnothing ?_
    rw [satisfying_eq_nil hrefused]
    decide
  · simp only [Option.any_some, decide_eq_true_eq]
    split
    · next hmany => exact hnothing hmany.ne'
    · next hfew => exact head?_sendAll (Nat.le_of_not_lt hfew)

end LdapServer

end WazoDird
