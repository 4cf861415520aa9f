import Mathlib.Data.List.Infix
import WazoDird.Backends.FormatColumns
import WazoDird.Backends.WazoUser

/-!
# The two paths of a batch of Wazo users

`matchAllByTerm` keeps the first user that shows a term, in any column;
`matchAllByColumn` the last one, of the last column that has any, of the
users its queries list. Where no result can be built, either path raises
as soon as confd lists a user for it.
-/

namespace WazoDird

namespace WazoUserPlugin

variable {py : TextOps} {client : ConfdClient} {plugin : WazoUserPlugin} {users : List ConfdUser}
  {searched terms : List String} {uuid : String}

/-! ## What confd answers -/

/-- A search finds a user by a part of a column's text. -/
def foundBy (searched : List String) (term : String) (user : ConfdUser) : Bool :=
  term = "" || searched.any fun column =>
    (user.column column).any fun text => decide (term.toList <:+: text.toList)

/-- A query of a column lists the users of one of the values it was given,
with commas between. -/
def listedBy (values column : String) (user : ConfdUser) : Bool :=
  values = "" || (user.column column).any fun text => text.toList ∈ values.toList.splitOn ','

/-- **What is assumed of confd**, for the parameters a source searches
with: without a term it lists every user, with one those it is found in,
and by column those of its values, always in the same order. -/
structure Answers (client : ConfdClient) (plugin : WazoUserPlugin) (users : List ConfdUser)
    (searched : List String) : Prop where
  supported : ∀ column ∈ matchAllSupportedColumns, column ∈ searched
  all : client.users plugin.searchParams = some users
  search : ∀ term, term ≠ "" → client.users (plugin.searchParams.set "search" (.str term)) =
    some (users.filter (foundBy searched term))
  column : ∀ column ∈ matchAllSupportedColumns, ∀ values, values ≠ "" →
    client.users (plugin.searchParams.set column (.str values)) =
      some (users.filter (listedBy values column))

/-- The users of a search. -/
theorem Answers.fetch_search (h : Answers client plugin users searched) (term : String) :
    plugin.fetchUsers client term "search" = some (users.filter (foundBy searched term)) := by
  unfold fetchUsers
  split
  · next hterm =>
    have hall : users.filter (foundBy searched term) = users :=
      List.filter_eq_self.2 fun user _ => by simp [foundBy, hterm]
    rw [h.all, hall]
  · next hterm => exact h.search term hterm

/-- The users of a query of a column. -/
theorem Answers.fetch_column (h : Answers client plugin users searched) {column : String}
    (hcolumn : column ∈ matchAllSupportedColumns) (values : String) :
    plugin.fetchUsers client values column = some (users.filter (listedBy values column)) := by
  unfold fetchUsers
  split
  · next hvalues =>
    have hall : users.filter (listedBy values column) = users :=
      List.filter_eq_self.2 fun user _ => by simp [listedBy, hvalues]
    rw [h.all, hall]
  · next hvalues => exact h.column column hcolumn values hvalues

/-! ## The users the paths come to -/

/-- The result of a user shows a term in a column. -/
def shows (py : TextOps) (plugin : WazoUserPlugin) (uuid term column : String)
    (user : ConfdUser) : Bool :=
  match plugin.sourceResultFromEntry py uuid user with
  | .ok entry => entry.fields.get? column = some (.str term)
  | .error _ => false

/-- The first user, of those a search finds, that shows a term in a
first-matched column. -/
def firstShowing (py : TextOps) (plugin : WazoUserPlugin) (users : List ConfdUser)
    (searched : List String) (uuid term : String) : Option ConfdUser :=
  (users.filter (foundBy searched term)).find? fun user =>
    plugin.firstMatchedColumns.any fun column => shows py plugin uuid term column user

/-- The last user, going over the columns and for each over the users its
query lists, that shows a term in that column. -/
def lastListed (py : TextOps) (plugin : WazoUserPlugin) (users : List ConfdUser)
    (terms : List String) (uuid term : String) : Option ConfdUser :=
  (plugin.firstMatchedColumns.flatMap fun column =>
    (users.filter (listedBy (",".intercalate terms) column)).filter
      (shows py plugin uuid term column)).getLast?

/-- The entries of the users listed. -/
theorem fetchEntries_eq (huuid : client.uuid = some uuid) {term column : String}
    {listed : List ConfdUser} (h : plugin.fetchUsers client term column = some listed) :
    plugin.fetchEntries py client term column =
      listed.map (plugin.sourceResultFromEntry py uuid) := by
  rw [fetchEntries, huuid, h]
  rfl

/-- The names of the fields of a user. -/
def fieldNames : List String := "id" :: ConfdUser.textColumns ++ ["full_name"]

theorem keys_fields (user : ConfdUser) : user.fields.keys = fieldNames := by
  rw [ConfdUser.fields, Dict.keys_ofList_of_nodup]
  · rfl
  · show fieldNames.Nodup
    decide

/-- **The results of all users can be built, or of none**: they have the
same fields. -/
theorem exists_result (py : TextOps) (uuid : String)
    (hcan : CanFormat plugin.sourceResult.formatColumns.keys fieldNames) :
    ∃ result : ConfdUser → SourceResult,
      ∀ user, plugin.sourceResultFromEntry py uuid user = .ok (result user) := by
  have hall : ∀ user, ∃ entry, plugin.sourceResultFromEntry py uuid user = .ok entry := by
    intro user
    refine (ResultClass.exists_make_iff py).2 ?_
    rw [keys_fields]
    exact hcan
  choose result hresult using hall
  exact ⟨result, hresult⟩

/-- Where none can, each raises. -/
theorem sourceResultFromEntry_raises
    (hno : ¬ CanFormat plugin.sourceResult.formatColumns.keys fieldNames) (user : ConfdUser) :
    plugin.sourceResultFromEntry py uuid user = .error .typeError := by
  have hadd : addFormattedColumns py plugin.sourceResult.formatColumns user.fields =
      .error .typeError :=
    addFormattedColumns_of_not_canFormat (by rwa [keys_fields])
  rw [sourceResultFromEntry, ResultClass.make, hadd]
  rfl

/-! ## When results can be built -/

section Built

variable {result : ConfdUser → SourceResult}

/-- One query: what its users are kept under is written in their order. -/
theorem foldlM_keep (terms : List String) (column : String) (results : Dict String SourceResult)
    (listed : List SourceResult) :
    (listed.map (@Except.ok PyError SourceResult)).foldlM
        (fun results entry => do return keep terms column results (← entry)) results =
      .ok (results.setAll (listed.filterMap (kept terms column))) := by
  rw [← foldl_keep]
  induction listed generalizing results with
  | nil => rfl
  | cons entry listed ih =>
    rw [List.map_cons, List.foldlM_cons, List.foldl_cons]
    exact ih _

/-- What a query's users are kept under a term is the result of those
that show it. -/
theorem filter_kept
    (hresult : ∀ user, plugin.sourceResultFromEntry py uuid user = .ok (result user))
    {term : String} (hterm : term ∈ terms) (column : String) (listed : List ConfdUser) :
    (((listed.map result).filterMap (kept terms column)).filter fun e => e.1 = term) =
      (listed.filter (shows py plugin uuid term column)).map fun user => (term, result user) := by
  induction listed with
  | nil => rfl
  | cons user listed ih =>
    have hshows : shows py plugin uuid term column user =
        decide ((result user).fields.get? column = some (.str term)) := by
      rw [shows, hresult]
    rw [List.map_cons, List.filterMap_cons, List.filter_cons, hshows]
    by_cases hget : (result user).fields.get? column = some (.str term)
    · have hkept : kept terms column (result user) = some (term, result user) := by
        rw [kept, hget]
        exact if_pos hterm
      rw [hkept, if_pos (by simpa using hget), List.map_cons, ← ih]
      simp
    · rw [if_neg (by simpa using hget), ← ih]
      -- kept under another term, or not at all
      have hother : ∀ e, kept terms column (result user) = some e → e.1 ≠ term := by
        intro e he heq
        exact hget (heq ▸ (kept_eq_some_iff.1 he).1)
      cases hkept : kept terms column (result user) with
      | none => rfl
      | some e => simp [hother e hkept]

/-- **What the queries by column keep.** -/
theorem matchAllByColumn_eq (h : Answers client plugin users searched)
    (hcolumns : ∀ column ∈ plugin.firstMatchedColumns, column ∈ matchAllSupportedColumns)
    (huuid : client.uuid = some uuid)
    (hresult : ∀ user, plugin.sourceResultFromEntry py uuid user = .ok (result user)) :
    plugin.matchAllByColumn py client terms =
      .ok ((∅ : Dict String SourceResult).setAll (plugin.firstMatchedColumns.flatMap fun column =>
        ((users.filter (listedBy (",".intercalate terms) column)).map result).filterMap
          (kept terms column))) := by
  have hloop : ∀ (columns : List String) (results : Dict String SourceResult),
      (∀ column ∈ columns, column ∈ matchAllSupportedColumns) →
      columns.foldlM (fun results column =>
        (plugin.fetchEntries py client (",".intercalate terms) column).foldlM
          (fun results entry => do return keep terms column results (← entry)) results) results =
        .ok (results.setAll (columns.flatMap fun column =>
          ((users.filter (listedBy (",".intercalate terms) column)).map result).filterMap
            (kept terms column))) := by
    intro columns
    induction columns with
    | nil => exact fun results _ => rfl
    | cons column columns ih =>
      intro results hcols
      have hfetch : plugin.fetchEntries py client (",".intercalate terms) column =
          (users.filter (listedBy (",".intercalate terms) column)).map
            (plugin.sourceResultFromEntry py uuid) :=
        fetchEntries_eq huuid (h.fetch_column (hcols column List.mem_cons_self) _)
      have hentries : (users.filter (listedBy (",".intercalate terms) column)).map
          (plugin.sourceResultFromEntry py uuid) =
            ((users.filter (listedBy (",".intercalate terms) column)).map result).map .ok := by
        rw [List.map_map]
        exact List.map_congr_left fun user _ => hresult user
      rw [List.foldlM_cons, hfetch, hentries, foldlM_keep, List.flatMap_cons, Dict.setAll_append]
      exact ih _ fun column' hcolumn' => hcols column' (List.mem_cons_of_mem _ hcolumn')
  exact hloop _ _ hcolumns

/-- **The last user listed is the one kept.** -/
theorem exists_matchAllByColumn (terms : List String) (h : Answers client plugin users searched)
    (hcolumns : ∀ column ∈ plugin.firstMatchedColumns, column ∈ matchAllSupportedColumns)
    (huuid : client.uuid = some uuid)
    (hresult : ∀ user, plugin.sourceResultFromEntry py uuid user = .ok (result user)) :
    ∃ found, plugin.matchAllByColumn py client terms = .ok found ∧ ∀ term, found.get? term =
      if term ∈ terms then (lastListed py plugin users terms uuid term).map result
      else none := by
  refine ⟨_, matchAllByColumn_eq h hcolumns huuid hresult, fun term => ?_⟩
  rw [Dict.get?_setAll, Dict.get?_empty, Option.or_none, List.filter_flatMap]
  split
  · next hterm =>
    simp only [filter_kept hresult hterm]
    rw [lastListed, ← List.map_flatMap, List.getLast?_map, Option.map_map]
    rfl
  · next hterm =>
    -- nothing is kept under what is not asked for
    have hnil : (plugin.firstMatchedColumns.flatMap fun column =>
        (((users.filter (listedBy (",".intercalate terms) column)).map result).filterMap
          (kept terms column)).filter fun e => e.1 = term) = [] := by
      rw [List.flatMap_eq_nil_iff]
      intro column _
      rw [List.filter_eq_nil_iff]
      intro e he heq
      obtain ⟨entry, -, hkept⟩ := List.mem_filterMap.1 he
      have hvalue : e.1 = term := by simpa using heq
      exact hterm (hvalue ▸ (kept_eq_some_iff.1 hkept).2.1)
    rw [hnil]
    rfl

/-- **The first user that shows a term is the one found.** -/
theorem firstMatch_eq (h : Answers client plugin users searched) (huuid : client.uuid = some uuid)
    (hresult : ∀ user, plugin.sourceResultFromEntry py uuid user = .ok (result user))
    (term : String) :
    plugin.firstMatch py client term =
      .ok ((firstShowing py plugin users searched uuid term).map result) := by
  have hloop : ∀ listed : List ConfdUser,
      Scan.first (fun entry => do return plugin.showsTerm term (← entry)) id
        (listed.map (plugin.sourceResultFromEntry py uuid)) =
      .ok ((listed.find? fun user => plugin.firstMatchedColumns.any fun column =>
        shows py plugin uuid term column user).map result) := by
    intro listed
    induction listed with
    | nil => rfl
    | cons user listed ih =>
      have hshows : (plugin.firstMatchedColumns.any fun column =>
          shows py plugin uuid term column user) = plugin.showsTerm term (result user) := by
        simp only [shows, hresult]
        rfl
      rw [List.map_cons, Scan.first, hresult, List.find?_cons, hshows]
      cases hb : plugin.showsTerm term (result user) with
      | true =>
        show (if plugin.showsTerm term (result user) = true then _ else _) = _
        rw [if_pos hb]
        rfl
      | false =>
        show (if plugin.showsTerm term (result user) = true then _ else _) = _
        rw [if_neg (by simp [hb])]
        exact ih
  rw [firstMatch, fetchEntries_eq huuid (h.fetch_search term), hloop]
  rfl

/-- **What the lookups term by term keep.** -/
theorem exists_matchAllByTerm (terms : List String) (h : Answers client plugin users searched)
    (huuid : client.uuid = some uuid)
    (hresult : ∀ user, plugin.sourceResultFromEntry py uuid user = .ok (result user)) :
    ∃ found, plugin.matchAllByTerm py client terms = .ok found ∧ ∀ term, found.get? term =
      if term ∈ terms then (firstShowing py plugin users searched uuid term).map result
      else none :=
  Scan.oneByOne_eq_ok fun term _ => firstMatch_eq h huuid hresult term

end Built

/-! ## Where no result can be built -/

section Raises

variable (hno : ¬ CanFormat plugin.sourceResult.formatColumns.keys fieldNames)
include hno

/-- A lookup raises as soon as its search finds a user. -/
theorem firstMatch_raises (h : Answers client plugin users searched)
    (huuid : client.uuid = some uuid) (term : String) :
    plugin.firstMatch py client term =
      if ∃ user ∈ users, foundBy searched term user = true then .error .typeError
      else .ok none := by
  rw [firstMatch, fetchEntries_eq huuid (h.fetch_search term)]
  by_cases hfound : ∃ user ∈ users, foundBy searched term user = true
  · rw [if_pos hfound]
    obtain ⟨user, rest, hcons⟩ := List.exists_cons_of_ne_nil
      (List.ne_nil_of_mem (List.mem_filter.2 hfound.choose_spec))
    rw [hcons, List.map_cons, Scan.first, sourceResultFromEntry_raises hno]
    rfl
  · rw [if_neg hfound]
    have hnil : users.filter (foundBy searched term) = [] :=
      List.filter_eq_nil_iff.2 fun user huser hyes => hfound ⟨user, huser, hyes⟩
    rw [hnil]
    rfl

/-- **So the lookups term by term raise as soon as one finds a user.** -/
theorem matchAllByTerm_raises (h : Answers client plugin users searched)
    (huuid : client.uuid = some uuid) :
    plugin.matchAllByTerm py client terms =
      if ∃ term ∈ terms, ∃ user ∈ users, foundBy searched term user = true then .error .typeError
      else .ok ∅ := by
  refine foldlM_eq_ite fun term _ => ?_
  rw [Scan.keepOne, firstMatch_raises hno h huuid]
  split <;> rfl

/-- **The queries by column raise as soon as one lists a user.** -/
theorem matchAllByColumn_raises (h : Answers client plugin users searched)
    (hcolumns : ∀ column ∈ plugin.firstMatchedColumns, column ∈ matchAllSupportedColumns)
    (huuid : client.uuid = some uuid) :
    plugin.matchAllByColumn py client terms =
      if ∃ column ∈ plugin.firstMatchedColumns, ∃ user ∈ users,
          listedBy (",".intercalate terms) column user = true then .error .typeError
      else .ok ∅ := by
  refine foldlM_eq_ite fun column hcolumn => ?_
  rw [fetchEntries_eq huuid (h.fetch_column (hcolumns column hcolumn) _), List.foldlM_map]
  -- every user that is listed raises
  rw [foldlM_eq_ite (p := fun _ => True) (e := PyError.typeError)]
  · simp [List.mem_filter]
  · intro user _
    rw [sourceResultFromEntry_raises hno, if_pos trivial]
    rfl

end Raises

end WazoUserPlugin

end WazoDird
