import WazoDird.Common.Pages
import WazoDird.Services.Paginators
import WazoDird.Services.SortContacts

/-!
# Fetching the contacts of Office 365

`get_contacts` and `_fetch` of `plugins/office365_backend/services.py`: the
first page of an endpoint, then the page each one links to for as long as
there is a link.
The endpoint is the pages of finitely many requests; a request of none of
these is one that nobody answers. The loop keeps no account of the pages it
has read, so pages that come back are read for ever: the fetch is complete
exactly when they do not (`fetchesAll_iff`). Where it is, `get_contacts`
gives all that the pages hold (`getContacts_of_chain`).
-/

namespace WazoDird

/-- What a request asks for. -/
structure PageRequest where
  url : String
  params : List (String × String) := []
  deriving DecidableEq

/-- What the body of an answer holds: `@odata.count`, `value` and
`@odata.nextLink`. -/
structure ODataPage where
  count : Option ℕ := none
  value : Option (List Fields) := none
  nextLink : Option String := none

/-- What comes of a request: an exception of `requests`, or an answer. -/
inductive PageResponse where
  | requestException
  | answer (statusCode : ℕ) (body : ODataPage)

/-- `UnexpectedEndpointException`, with its details. -/
structure UnexpectedEndpoint where
  endpoint : String
  errorCode : Option ℕ := none
  deriving DecidableEq

/-- **An endpoint**: the responses to finitely many requests. -/
abbrev Endpoint := Dict PageRequest PageResponse

namespace Office365Service

variable (endpoint : Endpoint)

/-- `_fetch_response`, with the body of what it returns. -/
def fetchResponse (request : PageRequest) : Except UnexpectedEndpoint ODataPage :=
  match endpoint.get? request with
  | none | some .requestException => .error { endpoint := request.url }
  | some (.answer statusCode body) =>
    if statusCode = 200 then .ok body
    else .error { endpoint := request.url, errorCode := some statusCode }

/-- `_extract_contacts`. -/
def extractContacts (data : ODataPage) : List Fields := data.value.getD []

/-- The `while` loop of `_fetch`, for some turns at most: none when they are
not enough. -/
def followLinks : ℕ → ODataPage → List Fields → Option (Except UnexpectedEndpoint (List Fields))
  | 0, _, _ => none
  | turns + 1, data, contacts =>
    match data.nextLink with
    | none => some (.ok contacts)
    | some nextPageUrl =>
      match fetchResponse endpoint { url := nextPageUrl } with
      | .error e => some (.error e)
      | .ok data => followLinks turns data (contacts ++ extractContacts data)

/-- The request `_fetch` begins with. -/
def firstRequest (url : String) (count : ℕ) : PageRequest where
  url := url
  params := [("$top", toString count)]

/-- `_fetch`, for some turns of its loop at most. -/
def fetch (url : String) (count turns : ℕ) : Option (Except UnexpectedEndpoint (List Fields)) :=
  if count = 0 then some (.ok [])
  else
    match fetchResponse endpoint (firstRequest url count) with
    | .error e => some (.error e)
    | .ok data => followLinks endpoint turns data (extractContacts data)

/-- `_get_total_contacts`. -/
def getTotalContacts (url : String) : Except UnexpectedEndpoint ℕ :=
  (fetchResponse endpoint { url := url, params := [("$count", "true")] }).map fun body =>
    body.count.getD 0

/-- `get_contacts`, for some turns of the loop at most. -/
def getContacts (py : TextOps) (text : SortText) (url : String) (params : ContactListParams)
    (turns : ℕ) : Option (Except UnexpectedEndpoint (List Fields × ℕ)) :=
  match getTotalContacts endpoint url with
  | .error e => some (.error e)
  | .ok count =>
    (fetch endpoint url count turns).map fun result =>
      result.map fun contacts =>
        let sortedContacts := sortFields py text contacts params.order params.direction
          params.orderInsensitive
        (paginate params.limit params.offset sortedContacts, contacts.length)

/-- The fetch ends, with this. -/
def Fetches (url : String) (count : ℕ) (result : Except UnexpectedEndpoint (List Fields)) : Prop :=
  ∃ turns, fetch endpoint url count turns = some result

/-- The page a request asks for: its contacts, and the request its link
makes. -/
def load (request : PageRequest) : Except UnexpectedEndpoint (Page PageRequest (List Fields)) :=
  (fetchResponse endpoint request).map fun data =>
    ⟨extractContacts data, data.nextLink.map fun url => { url := url }⟩

/-- **The fetch is complete**: it ends; over pages that make a chain it
gives their contacts, page by page and each page once; and where the pages
break it raises. -/
structure FetchesAll (url : String) (count : ℕ) : Prop where
  ends : ∃ result, Fetches endpoint url count result
  complete : ∀ pages, Pages.Chain (load endpoint) (firstRequest url count) pages →
    (pages.map Prod.fst).Nodup ∧ Fetches endpoint url count (.ok (pages.flatMap Prod.snd))
  raises : ∀ e, Pages.Breaks (load endpoint) (firstRequest url count) e →
    Fetches endpoint url count (.error e)

section

variable {endpoint} {request : PageRequest} {data : ODataPage} {contacts : List Fields}
  {url : String} {count turns turns' : ℕ} {e : UnexpectedEndpoint}
  {result result' : Except UnexpectedEndpoint (List Fields)}

/-- Only requests of the endpoint have a page with a link. -/
theorem finite_links : {a | ∃ b, Pages.Links (load endpoint) a b}.Finite := by
  refine endpoint.keys.finite_toSet.subset ?_
  rintro request ⟨next, content, hload⟩
  refine Dict.mem_keys_iff.2 ?_
  cases hget : endpoint.get? request with
  | none =>
    rw [load, fetchResponse, hget] at hload
    cases hload
  | some response => rfl

/-! ## The loop -/

/-- A page that is loaded is one that is fetched. -/
theorem load_eq_ok {content : List Fields} {next : Option PageRequest} :
    load endpoint request = .ok ⟨content, next⟩ ↔ ∃ data, fetchResponse endpoint request = .ok data ∧
      extractContacts data = content ∧ data.nextLink.map (fun url => { url := url }) = next := by
  cases hfetch : fetchResponse endpoint request with
  | error e => simp [load, hfetch, Except.map]
  | ok data => simp [load, hfetch, Except.map]

/-- A page fails to load as it fails to be fetched. -/
theorem load_eq_error :
    load endpoint request = .error e ↔ fetchResponse endpoint request = .error e := by
  cases hfetch : fetchResponse endpoint request with
  | error e => simp [load, hfetch, Except.map]
  | ok data => simp [load, hfetch, Except.map]

/-- The first page of a chain is fetched. -/
theorem exists_data_of_chain {pages : List (PageRequest × List Fields)}
    (h : Pages.Chain (load endpoint) request pages) :
    ∃ data, fetchResponse endpoint request = .ok data := by
  cases h with
  | last hload => exact (load_eq_ok.1 hload).imp fun _ h => h.1
  | link hload => exact (load_eq_ok.1 hload).imp fun _ h => h.1

/-- Pages whose first is not fetched break there. -/
theorem eq_of_breaks {e' : UnexpectedEndpoint} (h : Pages.Breaks (load endpoint) request e)
    (hfetch : fetchResponse endpoint request = .error e') : e' = e := by
  cases h with
  | here hload => exact Except.error.inj (hfetch.symm.trans (load_eq_error.1 hload))
  | later hload =>
    obtain ⟨_, hok, -⟩ := load_eq_ok.1 hload
    cases hok.symm.trans hfetch

/-- One turn of the loop, on a page with a link. -/
theorem followLinks_succ {nextPageUrl : String} (hlink : data.nextLink = some nextPageUrl) :
    followLinks endpoint (turns + 1) data contacts =
      match fetchResponse endpoint { url := nextPageUrl } with
      | .error e => some (.error e)
      | .ok data => followLinks endpoint turns data (contacts ++ extractContacts data) := by
  rw [followLinks, hlink]

/-- What more turns give is what fewer gave. -/
theorem followLinks_mono (h : followLinks endpoint turns data contacts = some result)
    (hle : turns ≤ turns') : followLinks endpoint turns' data contacts = some result := by
  induction turns generalizing turns' data contacts with
  | zero => cases h
  | succ turns ih =>
    obtain ⟨turns', rfl⟩ := Nat.exists_eq_succ_of_ne_zero (show turns' ≠ 0 by omega)
    cases hlink : data.nextLink with
    | none =>
      rw [followLinks, hlink] at h ⊢
      exact h
    | some nextPageUrl =>
      rw [Nat.succ_eq_add_one, followLinks_succ hlink]
      rw [followLinks_succ hlink] at h
      cases hfetch : fetchResponse endpoint { url := nextPageUrl } with
      | error e => simpa only [hfetch] using h
      | ok data =>
        simp only [hfetch] at h ⊢
        exact ih h (by omega)

/-- **Over a chain the loop gives what its pages hold.** -/
theorem followLinks_of_chain {pages : List (PageRequest × List Fields)}
    (h : Pages.Chain (load endpoint) request pages) (hdata : fetchResponse endpoint request = .ok data)
    (contacts : List Fields) :
    ∃ turns, followLinks endpoint turns data (contacts ++ extractContacts data) =
      some (.ok (contacts ++ pages.flatMap Prod.snd)) := by
  induction h generalizing data contacts with
  | last hload =>
    obtain ⟨data', hdata', rfl, hnext⟩ := load_eq_ok.1 hload
    obtain rfl := Except.ok.inj (hdata'.symm.trans hdata)
    refine ⟨1, ?_⟩
    rw [followLinks, Option.map_eq_none_iff.1 hnext]
    simp
  | link hload hchain ih =>
    obtain ⟨data', hdata', rfl, hnext⟩ := load_eq_ok.1 hload
    obtain rfl := Except.ok.inj (hdata'.symm.trans hdata)
    obtain ⟨nextPageUrl, hlink, rfl⟩ := Option.map_eq_some_iff.1 hnext
    obtain ⟨next, hnextData⟩ := exists_data_of_chain hchain
    obtain ⟨turns, hturns⟩ := ih hnextData (contacts ++ extractContacts data')
    refine ⟨turns + 1, ?_⟩
    rw [followLinks_succ hlink, hnextData, List.flatMap_cons, ← List.append_assoc]
    exact hturns

/-- **Where the pages break the loop raises.** -/
theorem followLinks_of_breaks (h : Pages.Breaks (load endpoint) request e)
    (hdata : fetchResponse endpoint request = .ok data) (contacts : List Fields) :
    ∃ turns, followLinks endpoint turns data contacts = some (.error e) := by
  induction h generalizing data contacts with
  | here hload => cases hdata.symm.trans (load_eq_error.1 hload)
  | @later _ _ _ e hload hbreaks ih =>
    obtain ⟨data', hdata', -, hnext⟩ := load_eq_ok.1 hload
    obtain rfl := Except.ok.inj (hdata'.symm.trans hdata)
    obtain ⟨nextPageUrl, hlink, rfl⟩ := Option.map_eq_some_iff.1 hnext
    cases hnextData : fetchResponse endpoint { url := nextPageUrl } with
    | error e' =>
      refine ⟨1, ?_⟩
      rw [followLinks_succ hlink, hnextData, eq_of_breaks hbreaks hnextData]
    | ok next =>
      obtain ⟨turns, hturns⟩ := ih hnextData (contacts ++ extractContacts next)
      refine ⟨turns + 1, ?_⟩
      rw [followLinks_succ hlink, hnextData]
      exact hturns

/-- **Over pages that come back the loop does not end**, whatever the
turns. -/
theorem followLinks_of_comesBack (h : Pages.ComesBack (load endpoint) request)
    (hdata : fetchResponse endpoint request = .ok data) (turns : ℕ) (contacts : List Fields) :
    followLinks endpoint turns data contacts = none := by
  induction turns generalizing request data contacts with
  | zero => rfl
  | succ turns ih =>
    obtain ⟨next, ⟨content, hload⟩, hback⟩ := h.exists_link
    obtain ⟨data', hdata', -, hnext⟩ := load_eq_ok.1 hload
    obtain rfl := Except.ok.inj (hdata'.symm.trans hdata)
    obtain ⟨nextPageUrl, hlink, rfl⟩ := Option.map_eq_some_iff.1 hnext
    obtain ⟨_, ⟨content', hload'⟩, -⟩ := hback.exists_link
    obtain ⟨nextData, hnextData, -⟩ := load_eq_ok.1 hload'
    rw [followLinks_succ hlink, hnextData]
    exact ih hback hnextData _

/-! ## The fetch -/

/-- A fetch ends in one way at most. -/
theorem Fetches.unique (h : Fetches endpoint url count result)
    (h' : Fetches endpoint url count result') : result = result' := by
  obtain ⟨turns, h⟩ := h
  obtain ⟨turns', h'⟩ := h'
  unfold fetch at h h'
  split at h
  case isTrue hcount =>
    rw [if_pos hcount] at h'
    exact Option.some.inj (h.symm.trans h')
  case isFalse hcount =>
    rw [if_neg hcount] at h'
    cases hdata : fetchResponse endpoint (firstRequest url count) with
    | error e =>
      simp only [hdata] at h h'
      exact Option.some.inj (h.symm.trans h')
    | ok data =>
      simp only [hdata] at h h'
      have hmax := followLinks_mono h (le_max_left turns turns')
      have hmax' := followLinks_mono h' (le_max_right turns turns')
      exact Option.some.inj (hmax.symm.trans hmax')

/-- Without a count nothing is fetched. -/
theorem fetches_zero : Fetches endpoint url 0 result ↔ result = .ok [] := by
  constructor
  · rintro ⟨turns, h⟩
    exact (Option.some.inj h).symm
  · rintro rfl
    exact ⟨0, rfl⟩

/-- **Over a chain a fetch gives what its pages hold.** -/
theorem fetches_of_chain (hcount : count ≠ 0) {pages : List (PageRequest × List Fields)}
    (h : Pages.Chain (load endpoint) (firstRequest url count) pages) :
    Fetches endpoint url count (.ok (pages.flatMap Prod.snd)) := by
  obtain ⟨data, hdata⟩ := exists_data_of_chain h
  obtain ⟨turns, hturns⟩ := followLinks_of_chain h hdata []
  refine ⟨turns, ?_⟩
  rw [fetch, if_neg hcount, hdata]
  exact hturns

/-- **Where the pages break a fetch raises.** -/
theorem fetches_of_breaks (hcount : count ≠ 0)
    (h : Pages.Breaks (load endpoint) (firstRequest url count) e) :
    Fetches endpoint url count (.error e) := by
  cases hdata : fetchResponse endpoint (firstRequest url count) with
  | error e' =>
    refine ⟨0, ?_⟩
    rw [fetch, if_neg hcount, hdata, eq_of_breaks h hdata]
  | ok data =>
    obtain ⟨turns, hturns⟩ := followLinks_of_breaks h hdata (extractContacts data)
    refine ⟨turns, ?_⟩
    rw [fetch, if_neg hcount, hdata]
    exact hturns

/-- **Over pages that come back a fetch does not end.** -/
theorem not_fetches_of_comesBack (hcount : count ≠ 0)
    (h : Pages.ComesBack (load endpoint) (firstRequest url count)) :
    ¬ Fetches endpoint url count result := by
  rintro ⟨turns, hfetch⟩
  obtain ⟨_, ⟨content, hload⟩, -⟩ := h.exists_link
  obtain ⟨data, hdata, -⟩ := load_eq_ok.1 hload
  rw [fetch, if_neg hcount, hdata] at hfetch
  cases hfetch.symm.trans (followLinks_of_comesBack h hdata turns _)

end

/-- **When a fetch is complete**: its pages do not come back; and where it
asks for none, there is nothing to be had, contacts or error. -/
theorem fetchesAll_iff (endpoint : Endpoint) (url : String) (count : ℕ) :
    FetchesAll endpoint url count ↔
      (count ≠ 0 → ¬ Pages.ComesBack (load endpoint) (firstRequest url count)) ∧
      (count = 0 → (∀ e, ¬ Pages.Breaks (load endpoint) (firstRequest url count) e) ∧
        ∀ pages, Pages.Chain (load endpoint) (firstRequest url count) pages →
          pages.flatMap Prod.snd = []) := by
  constructor
  · intro h
    refine ⟨fun hcount hback => ?_, ?_⟩
    · obtain ⟨result, hfetches⟩ := h.ends
      exact not_fetches_of_comesBack hcount hback hfetches
    · rintro rfl
      refine ⟨fun e hbreaks => ?_, fun pages hchain => ?_⟩
      · cases fetches_zero.1 (h.raises e hbreaks)
      · exact Except.ok.inj (fetches_zero.1 (h.complete pages hchain).2)
  · rintro ⟨hlinks, hnone⟩
    by_cases hcount : count = 0
    · subst hcount
      obtain ⟨hbreaks, hempty⟩ := hnone rfl
      refine ⟨⟨_, fetches_zero.2 rfl⟩, fun pages hchain => ⟨hchain.nodup, ?_⟩, fun e he => ?_⟩
      · rw [hempty pages hchain]
        exact fetches_zero.2 rfl
      · exact absurd he (hbreaks e)
    · refine ⟨?_, fun pages hchain => ⟨hchain.nodup, fetches_of_chain hcount hchain⟩,
        fun e he => fetches_of_breaks hcount he⟩
      rcases Pages.ends_of_not_comesBack finite_links (hlinks hcount) with ⟨pages, hpages⟩ | ⟨e, he⟩
      · exact ⟨_, fetches_of_chain hcount hpages⟩
      · exact ⟨_, fetches_of_breaks hcount he⟩

/-- **Over a chain `get_contacts` gives what its pages hold**, sorted, when the
endpoint counts any contact. -/
theorem getContacts_of_chain {endpoint : Endpoint} {url : String} {count : ℕ} {py : TextOps}
    {text : SortText} {params : ContactListParams} {pages : List (PageRequest × List Fields)}
    (htotal : getTotalContacts endpoint url = .ok count) (hcount : count ≠ 0)
    (h : Pages.Chain (load endpoint) (firstRequest url count) pages) (hparams : params.Whole) :
    ∃ turns contacts, getContacts endpoint py text url params turns =
        some (.ok (contacts, (pages.flatMap Prod.snd).length)) ∧
      contacts.Perm (pages.flatMap Prod.snd) := by
  obtain ⟨turns, hturns⟩ := fetches_of_chain hcount h
  refine ⟨turns, _, ?_, sortFields_perm py text _ params.order params.direction
    params.orderInsensitive⟩
  rw [getContacts, htotal]
  simp only [hturns, Option.map_some, Except.map, paginate, paginateContacts_whole hparams]

/-! ## A page that links to itself -/

/-- An endpoint whose next page is linked to by itself. -/
def loopEndpoint : Endpoint :=
  Dict.ofList [
    (firstRequest "contacts" 1, .answer 200 { nextLink := some "contacts?page=2" }),
    ({ url := "contacts?page=2" }, .answer 200 { nextLink := some "contacts?page=2" })]

/-- **A fetch that does not end.** -/
theorem not_fetchesAll_loopEndpoint : ¬ FetchesAll loopEndpoint "contacts" 1 := by
  intro h
  obtain ⟨result, hfetches⟩ := h.ends
  have hfirst : Pages.Links (load loopEndpoint) (firstRequest "contacts" 1)
      { url := "contacts?page=2" } := ⟨[], rfl⟩
  have hloop : Pages.Links (load loopEndpoint) { url := "contacts?page=2" }
      { url := "contacts?page=2" } := ⟨[], rfl⟩
  exact not_fetches_of_comesBack (by decide)
    ⟨_, Relation.ReflTransGen.single hfirst, Relation.TransGen.single hloop⟩ hfetches

end Office365Service

end WazoDird
