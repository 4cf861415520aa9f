import Mathlib.Data.List.ProdSigma
import WazoDird.Backends.WazoUserPaths

/-!
# When the two paths of a batch agree

The path term by term stops at the first user, the one by column goes on to
the last, and its query splits a term that has a comma. `paths_agree_iff`
puts it in the users and their columns.
-/

namespace WazoDird

namespace WazoUserPlugin

variable {py : TextOps} {client : ConfdClient} {plugin : WazoUserPlugin} {users : List ConfdUser}
  {searched terms : List String} {uuid term : String}

/-! ## The two paths -/

/-- **The two paths agree**: they have the same under every term, or raise
the same. -/
def PathsAgree (py : TextOps) (client : ConfdClient) (plugin : WazoUserPlugin)
    (terms : List String) : Prop :=
  match plugin.matchAllByColumn py client terms, plugin.matchAllByTerm py client terms with
  | .ok found, .ok found' => ∀ term, found.get? term = found'.get? term
  | .error e, .error e' => e = e'
  | _, _ => False

theorem pathsAgree_of_ok {found found' : Dict String SourceResult}
    (hcolumn : plugin.matchAllByColumn py client terms = .ok found)
    (hterm : plugin.matchAllByTerm py client terms = .ok found') :
    PathsAgree py client plugin terms ↔ ∀ term, found.get? term = found'.get? term := by
  rw [PathsAgree, hcolumn, hterm]

/-- Paths that agree find the same for a term. -/
theorem PathsAgree.get?_eq (h : PathsAgree py client plugin terms) (term : String) :
    (plugin.matchAllByColumn py client terms).toOption.bind (·.get? term) =
      (plugin.matchAllByTerm py client terms).toOption.bind (·.get? term) := by
  unfold PathsAgree at h
  split at h
  · next hcolumn hterm =>
    rw [hcolumn, hterm]
    exact h term
  · next hcolumn hterm =>
    rw [hcolumn, hterm]
    rfl
  · cases h

/-! ## The condition -/

/-- A search for a term finds the user, and its result shows the term in a
first-matched column. -/
def Finds (py : TextOps) (plugin : WazoUserPlugin) (searched : List String) (uuid term : String)
    (user : ConfdUser) : Prop :=
  foundBy searched term user = true ∧
    ∃ column ∈ plugin.firstMatchedColumns, shows py plugin uuid term column user = true

/-- The query of a column for the terms of a batch lists the user, and its
result shows the term in that column. -/
def Lists (py : TextOps) (plugin : WazoUserPlugin) (terms : List String) (uuid term : String)
    (listed : String × ConfdUser) : Prop :=
  listedBy (",".intercalate terms) listed.1 listed.2 = true ∧
    shows py plugin uuid term listed.1 listed.2 = true

/-- **The paths meet on a term.** A search finds someone with it exactly
when a query lists someone, and the first found is the contact of the last
listed, the users being taken column by column. -/
structure MeetAt (py : TextOps) (plugin : WazoUserPlugin) (users : List ConfdUser)
    (searched terms : List String) (uuid term : String) : Prop where
  both : (∃ user ∈ users, Finds py plugin searched uuid term user) ↔
    ∃ listed ∈ plugin.firstMatchedColumns ×ˢ users, Lists py plugin terms uuid term listed
  same : ∀ user listed, Scan.FirstOf (Finds py plugin searched uuid term) users user →
    Scan.LastOf (Lists py plugin terms uuid term) (plugin.firstMatchedColumns ×ˢ users) listed →
    plugin.sourceResultFromEntry py uuid user = plugin.sourceResultFromEntry py uuid listed.2

/-- **The paths meet.** Where results can be built, on every term; where
none can, a search finds a user exactly when a query lists one, and both
raise. -/
structure PathsMeet (py : TextOps) (plugin : WazoUserPlugin) (users : List ConfdUser)
    (searched terms : List String) (uuid : String) : Prop where
  built : CanFormat plugin.sourceResult.formatColumns.keys fieldNames →
    ∀ term ∈ terms, MeetAt py plugin users searched terms uuid term
  raised : ¬ CanFormat plugin.sourceResult.formatColumns.keys fieldNames →
    ((∃ column ∈ plugin.firstMatchedColumns, ∃ user ∈ users,
      listedBy (",".intercalate terms) column user = true) ↔
        ∃ term ∈ terms, ∃ user ∈ users, foundBy searched term user = true)

/-! ## The first found and the last listed -/

theorem firstShowing_eq_some {user : ConfdUser} :
    firstShowing py plugin users searched uuid term = some user ↔
      Scan.FirstOf (Finds py plugin searched uuid term) users user := by
  classical
  have hfirst : firstShowing py plugin users searched uuid term =
      users.find? fun user => decide (Finds py plugin searched uuid term user) := by
    rw [firstShowing, List.find?_filter]
    refine congrArg (users.find? ·) (funext fun user => Bool.eq_iff_iff.2 ?_)
    show _ ↔ decide (Finds py plugin searched uuid term user) = true
    rw [decide_eq_true_iff, decide_eq_true_iff]
    simp [Finds]
  rw [hfirst, Scan.find?_eq_some_iff_firstOf]

theorem lastListed_eq_some {user : ConfdUser} :
    lastListed py plugin users terms uuid term = some user ↔
      ∃ column, Scan.LastOf (Lists py plugin terms uuid term)
        (plugin.firstMatchedColumns ×ˢ users) (column, user) := by
  classical
  have hlast : lastListed py plugin users terms uuid term =
      (((plugin.firstMatchedColumns ×ˢ users).filter fun listed =>
        decide (Lists py plugin terms uuid term listed)).getLast?).map Prod.snd := by
    rw [← List.getLast?_map]
    show _ = List.getLast? (List.map _ (List.filter _ (List.flatMap _ _)))
    rw [List.filter_flatMap, List.map_flatMap, lastListed]
    refine congrArg List.getLast? (List.flatMap_congr fun column _ => ?_)
    rw [List.filter_map, List.map_map, List.filter_filter]
    refine (List.map_id _).symm.trans (congrArg (List.map id) (List.filter_congr fun user _ => ?_))
    refine Bool.eq_iff_iff.2 ?_
    show _ ↔ decide (Lists py plugin terms uuid term (column, user)) = true
    rw [decide_eq_true_iff]
    simp [Lists, and_comm]
  rw [hlast, Option.map_eq_some_iff]
  constructor
  · rintro ⟨⟨column, user⟩, hget, rfl⟩
    exact ⟨column, Scan.getLast?_filter_eq_some_iff_lastOf.1 hget⟩
  · rintro ⟨column, hlast⟩
    exact ⟨(column, user), Scan.getLast?_filter_eq_some_iff_lastOf.2 hlast, rfl⟩

/-- **The paths meet on a term** when the first user found and the last
listed come to the same. -/
theorem meetAt_iff {result : ConfdUser → SourceResult}
    (hresult : ∀ user, plugin.sourceResultFromEntry py uuid user = .ok (result user)) :
    MeetAt py plugin users searched terms uuid term ↔
      (lastListed py plugin users terms uuid term).map result =
        (firstShowing py plugin users searched uuid term).map result := by
  have hfound : (∃ user ∈ users, Finds py plugin searched uuid term user) ↔
      ∃ user, firstShowing py plugin users searched uuid term = some user := by
    simp only [firstShowing_eq_some, Scan.exists_firstOf]
  have hlisted : (∃ listed ∈ plugin.firstMatchedColumns ×ˢ users,
      Lists py plugin terms uuid term listed) ↔
        ∃ user, lastListed py plugin users terms uuid term = some user := by
    simp only [lastListed_eq_some]
    rw [← Scan.exists_lastOf, Prod.exists, exists_comm]
  constructor
  · intro h
    cases hfirst : firstShowing py plugin users searched uuid term with
    | none =>
      cases hlast : lastListed py plugin users terms uuid term with
      | none => rfl
      | some user =>
        obtain ⟨first, hsome⟩ := hfound.1 (h.both.2 (hlisted.2 ⟨user, hlast⟩))
        rw [hfirst] at hsome
        cases hsome
    | some first =>
      obtain ⟨last, hlast⟩ := hlisted.1 (h.both.1 (hfound.2 ⟨first, hfirst⟩))
      obtain ⟨column, hlastOf⟩ := lastListed_eq_some.1 hlast
      have hsame := h.same first (column, last) (firstShowing_eq_some.1 hfirst) hlastOf
      rw [hresult, hresult] at hsame
      rw [hlast]
      exact congrArg some (Except.ok.inj hsame).symm
  · intro h
    refine ⟨?_, fun user listed hfirst hlast => ?_⟩
    · rw [hfound, hlisted]
      constructor
      · rintro ⟨user, hfirst⟩
        rw [hfirst] at h
        obtain ⟨last, hlast, -⟩ := Option.map_eq_some_iff.1 h
        exact ⟨last, hlast⟩
      · rintro ⟨user, hlast⟩
        rw [hlast] at h
        obtain ⟨first, hfirst, -⟩ := Option.map_eq_some_iff.1 h.symm
        exact ⟨first, hfirst⟩
    · rw [firstShowing_eq_some.2 hfirst, lastListed_eq_some.2 ⟨listed.1, hlast⟩] at h
      rw [hresult, hresult, Option.some.inj h]

/-! ## Columns that no format writes -/

/-- A user has a term, in a first-matched column. -/
def Holds (plugin : WazoUserPlugin) (term : String) (user : ConfdUser) : Prop :=
  ∃ column ∈ plugin.firstMatchedColumns, user.column column = some term

/-- **The paths meet on a term**, where results show the columns of their
users: if somebody has it, it has no comma, and the first with it is the
contact of the last, column by column. -/
def MeetPlainly (py : TextOps) (plugin : WazoUserPlugin) (users : List ConfdUser)
    (uuid term : String) : Prop :=
  ∀ user listed, Scan.FirstOf (Holds plugin term) users user →
    Scan.LastOf (fun listed => listed.2.column listed.1 = some term)
      (plugin.firstMatchedColumns ×ˢ users) listed →
    ',' ∉ term.toList ∧
      plugin.sourceResultFromEntry py uuid user = plugin.sourceResultFromEntry py uuid listed.2

section Plain

variable (hcan : CanFormat plugin.sourceResult.formatColumns.keys fieldNames)
  (hcolumns : ∀ column ∈ plugin.firstMatchedColumns, column ∈ matchAllSupportedColumns)
  (hplain : ∀ column ∈ plugin.firstMatchedColumns, column ∉ plugin.sourceResult.formatColumns.keys)
include hcan hcolumns hplain

/-- A result shows the columns of its user. -/
theorem shows_iff_column {column : String} (hcolumn : column ∈ plugin.firstMatchedColumns)
    (user : ConfdUser) :
    shows py plugin uuid term column user = true ↔ user.column column = some term := by
  obtain ⟨result, hresult⟩ := exists_result py uuid hcan
  obtain ⟨formatted, hformatted, hentry⟩ := bind_eq_ok.1 (hresult user)
  have hfields : (result user).fields = formatted := by
    rw [← Except.ok.inj hentry]
  have hget : (result user).fields.get? column = user.fields.get? column := by
    rw [hfields]
    exact get?_addFormattedColumns py hformatted (hplain column hcolumn)
  rw [shows, hresult]
  simp only [decide_eq_true_eq, hget]
  rcases List.mem_pair.1 (hcolumns column hcolumn) with rfl | rfl
  · show some ((user.exten).elim Value.none .str) = _ ↔ _
    show _ ↔ user.exten = some term
    cases user.exten <;> simp
  · show some ((user.mobilePhoneNumber).elim Value.none .str) = _ ↔ _
    show _ ↔ user.mobilePhoneNumber = some term
    cases user.mobilePhoneNumber <;> simp

/-- A user that has a term in a first-matched column is found by it. -/
theorem finds_iff_holds (h : Answers client plugin users searched) (user : ConfdUser) :
    Finds py plugin searched uuid term user ↔ Holds plugin term user := by
  constructor
  · rintro ⟨-, column, hcolumn, hshows⟩
    exact ⟨column, hcolumn, (shows_iff_column hcan hcolumns hplain hcolumn user).1 hshows⟩
  · rintro ⟨column, hcolumn, htext⟩
    refine ⟨?_, column, hcolumn, (shows_iff_column hcan hcolumns hplain hcolumn user).2 htext⟩
    have hany : (searched.any fun column => (user.column column).any fun text =>
        decide (term.toList <:+: text.toList)) = true :=
      List.any_eq_true.2 ⟨column, h.supported column (hcolumns column hcolumn), by
        rw [htext]
        exact decide_eq_true (List.infix_refl _)⟩
    rw [foundBy, hany, Bool.or_true]

/-- One is listed for it exactly when it has no comma. -/
theorem lists_iff_column (hterm : term ∈ terms) {listed : String × ConfdUser}
    (hcolumn : listed.1 ∈ plugin.firstMatchedColumns) :
    Lists py plugin terms uuid term listed ↔
      ',' ∉ term.toList ∧ listed.2.column listed.1 = some term := by
  rw [Lists, shows_iff_column hcan hcolumns hplain hcolumn]
  refine and_congr_left fun htext => ?_
  have hpiece : term.toList ∈ (",".intercalate terms).toList.splitOn ',' ↔ ',' ∉ term.toList := by
    rw [String.toList_intercalate]
    exact mem_splitOn_intercalate (List.mem_map_of_mem hterm)
  rw [← hpiece, listedBy, htext]
  by_cases hempty : ",".intercalate terms = ""
  · -- nothing is asked for but the empty term, which has no comma
    rw [String.ext_iff, String.toList_intercalate] at hempty
    have hnil : term.toList = [] :=
      eq_nil_of_intercalate_eq_nil hempty (List.mem_map_of_mem hterm)
    have hjoined : ",".intercalate terms = "" := by
      rw [String.ext_iff, String.toList_intercalate, hempty]
    refine iff_of_true (by rw [hjoined]; rfl) (hpiece.2 ?_)
    rw [hnil]
    exact List.not_mem_nil
  · simp [hempty]

/-- Paths that meet on a term meet plainly. -/
theorem MeetAt.plainly (h : Answers client plugin users searched) (hterm : term ∈ terms)
    (hmeet : MeetAt py plugin users searched terms uuid term) :
    MeetPlainly py plugin users uuid term := by
  intro user listed hfirst hlast
  have hfinds : ∀ user ∈ users, Finds py plugin searched uuid term user ↔ Holds plugin term user :=
    fun user _ => finds_iff_holds hcan hcolumns hplain h user
  have hfound := (Scan.FirstOf.congr hfinds).2 hfirst
  have hlists : ∀ other ∈ plugin.firstMatchedColumns ×ˢ users,
      Lists py plugin terms uuid term other ↔
        ',' ∉ term.toList ∧ other.2.column other.1 = some term :=
    fun other hother =>
      lists_iff_column hcan hcolumns hplain hterm (List.mem_product.1 hother).1
  -- somebody is found, so somebody is listed
  obtain ⟨other, hother, hlisted⟩ := hmeet.both.1 (Scan.exists_firstOf.1 ⟨user, hfound⟩)
  have hcomma := ((hlists other hother).1 hlisted).1
  refine ⟨hcomma, hmeet.same user listed hfound
    ((Scan.LastOf.congr fun other hother => ?_).2 hlast)⟩
  rw [hlists other hother]
  exact and_iff_right hcomma

/-- And the other way round. -/
theorem MeetPlainly.meetAt (h : Answers client plugin users searched) (hterm : term ∈ terms)
    (hmeet : MeetPlainly py plugin users uuid term) :
    MeetAt py plugin users searched terms uuid term := by
  have hfinds : ∀ user ∈ users, Finds py plugin searched uuid term user ↔ Holds plugin term user :=
    fun user _ => finds_iff_holds hcan hcolumns hplain h user
  have hlists : ∀ listed ∈ plugin.firstMatchedColumns ×ˢ users,
      Lists py plugin terms uuid term listed ↔
        ',' ∉ term.toList ∧ listed.2.column listed.1 = some term :=
    fun listed hlisted =>
      lists_iff_column hcan hcolumns hplain hterm (List.mem_product.1 hlisted).1
  have hheld : (∃ user ∈ users, Holds plugin term user) ↔
      ∃ listed ∈ plugin.firstMatchedColumns ×ˢ users, listed.2.column listed.1 = some term := by
    constructor
    · rintro ⟨user, huser, column, hcolumn, htext⟩
      exact ⟨(column, user), List.mem_product.2 ⟨hcolumn, huser⟩, htext⟩
    · rintro ⟨listed, hlisted, htext⟩
      obtain ⟨hcolumn, huser⟩ := List.mem_product.1 hlisted
      exact ⟨listed.2, huser, listed.1, hcolumn, htext⟩
  -- somebody has the term, so there is a first and a last with it
  have hcomma : (∃ user ∈ users, Holds plugin term user) → ',' ∉ term.toList := by
    intro hholds
    obtain ⟨first, hfirst⟩ := Scan.exists_firstOf.2 hholds
    obtain ⟨last, hlast⟩ := Scan.exists_lastOf.2 (hheld.1 hholds)
    exact (hmeet first last hfirst hlast).1
  refine ⟨⟨?_, ?_⟩, fun user listed hfound hlisted => ?_⟩
  · rintro ⟨user, huser, hfound⟩
    have hholds : ∃ user ∈ users, Holds plugin term user :=
      ⟨user, huser, (hfinds user huser).1 hfound⟩
    obtain ⟨listed, hlisted, htext⟩ := hheld.1 hholds
    exact ⟨listed, hlisted, (hlists listed hlisted).2 ⟨hcomma hholds, htext⟩⟩
  · rintro ⟨listed, hlisted, hlist⟩
    obtain ⟨user, huser, hholds⟩ := hheld.2 ⟨listed, hlisted, ((hlists listed hlisted).1 hlist).2⟩
    exact ⟨user, huser, (hfinds user huser).2 hholds⟩
  · have hfirst := (Scan.FirstOf.congr hfinds).1 hfound
    have hnot := hcomma (Scan.exists_firstOf.1 ⟨user, hfirst⟩)
    refine (hmeet user listed hfirst ((Scan.LastOf.congr fun other hother => ?_).1 hlisted)).2
    rw [hlists other hother]
    exact and_iff_right hnot

end Plain

/-! ## The theorem -/

/-- **When the two paths agree**, in what confd lists and what results
show. -/
theorem pathsAgree_iff_pathsMeet (h : Answers client plugin users searched)
    (hcolumns : ∀ column ∈ plugin.firstMatchedColumns, column ∈ matchAllSupportedColumns)
    (huuid : client.uuid = some uuid) :
    PathsAgree py client plugin terms ↔ PathsMeet py plugin users searched terms uuid := by
  by_cases hcan : CanFormat plugin.sourceResult.formatColumns.keys fieldNames
  · obtain ⟨result, hresult⟩ := exists_result py uuid hcan
    obtain ⟨found, hfound, hget⟩ := exists_matchAllByColumn terms h hcolumns huuid hresult
    obtain ⟨found', hfound', hget'⟩ := exists_matchAllByTerm terms h huuid hresult
    rw [pathsAgree_of_ok hfound hfound']
    constructor
    · intro hagree
      refine ⟨fun _ term hterm => (meetAt_iff hresult).2 ?_, fun hno => absurd hcan hno⟩
      have heq := hagree term
      rwa [hget, hget', if_pos hterm, if_pos hterm] at heq
    · intro hmeet term
      rw [hget, hget']
      split
      · next hterm => exact (meetAt_iff hresult).1 (hmeet.built hcan term hterm)
      · rfl
  · -- whatever a path comes to raises
    rw [PathsAgree, matchAllByColumn_raises hcan h hcolumns huuid,
      matchAllByTerm_raises hcan h huuid]
    have hmeet : PathsMeet py plugin users searched terms uuid ↔
        ((∃ column ∈ plugin.firstMatchedColumns, ∃ user ∈ users,
          listedBy (",".intercalate terms) column user = true) ↔
            ∃ term ∈ terms, ∃ user ∈ users, foundBy searched term user = true) :=
      ⟨fun hmeet => hmeet.raised hcan, fun hboth => ⟨fun hyes => absurd hyes hcan, fun _ => hboth⟩⟩
    rw [hmeet]
    split_ifs with hlisted hfound hfound
    · exact iff_of_true rfl (iff_of_true hlisted hfound)
    · exact iff_of_false id fun hboth => hfound (hboth.1 hlisted)
    · exact iff_of_false id fun hboth => hlisted (hboth.2 hfound)
    · exact iff_of_true (fun _ => rfl) (iff_of_false hlisted hfound)

/-- Without the uuid of the server, neither path asks confd. -/
theorem pathsAgree_of_no_uuid (huuid : client.uuid = none) :
    PathsAgree py client plugin terms := by
  have hnone : ∀ term column, plugin.fetchEntries py client term column = [] := by
    intro term column
    rw [fetchEntries, huuid]
  have hcolumn : plugin.matchAllByColumn py client terms = .ok ∅ := by
    rw [matchAllByColumn, foldlM_eq_ite (p := fun _ => False) (e := PyError.typeError)]
    · simp
    · intro column _
      rw [hnone]
      rfl
  have hfirst : ∀ term ∈ terms, plugin.firstMatch py client term = .ok none := by
    intro term _
    rw [firstMatch, hnone]
    rfl
  obtain ⟨found, hfound, hget⟩ := Scan.oneByOne_eq_ok hfirst
  refine (pathsAgree_of_ok hcolumn hfound).2 fun term => ?_
  rw [hget, Dict.get?_empty]
  split <;> rfl

/-- **When the two paths agree**: they meet, in what confd lists and what
results show. Where no format writes a first-matched column, they meet in
the columns of the users alone. -/
theorem paths_agree_iff (h : Answers client plugin users searched)
    (hcolumns : ∀ column ∈ plugin.firstMatchedColumns, column ∈ matchAllSupportedColumns) :
    (PathsAgree py client plugin terms ↔
      ∀ uuid, client.uuid = some uuid → PathsMeet py plugin users searched terms uuid) ∧
    (CanFormat plugin.sourceResult.formatColumns.keys fieldNames →
      (∀ column ∈ plugin.firstMatchedColumns, column ∉ plugin.sourceResult.formatColumns.keys) →
      (PathsAgree py client plugin terms ↔
        ∀ uuid, client.uuid = some uuid → ∀ term ∈ terms,
          MeetPlainly py plugin users uuid term)) := by
  have hagree : PathsAgree py client plugin terms ↔
      ∀ uuid, client.uuid = some uuid → PathsMeet py plugin users searched terms uuid := by
    cases huuid : client.uuid with
    | none => exact iff_of_true (pathsAgree_of_no_uuid huuid) fun uuid hsome => by cases hsome
    | some uuid =>
      rw [pathsAgree_iff_pathsMeet h hcolumns huuid]
      exact ⟨fun hmeet uuid' hsome => Option.some.inj hsome ▸ hmeet, fun hmeet => hmeet uuid rfl⟩
  refine ⟨hagree, fun hcan hplain => hagree.trans ?_⟩
  refine forall₂_congr fun uuid _ => ⟨fun hmeet term hterm => ?_, fun hmeet => ?_⟩
  · exact (hmeet.built hcan term hterm).plainly hcan hcolumns hplain h hterm
  · exact ⟨fun _ term hterm => (hmeet term hterm).meetAt hcan hcolumns hplain h hterm,
      fun hno => absurd hcan hno⟩

/-! ## A directory -/

/-- A confd that answers as is assumed. -/
def directory (users : List ConfdUser) : ConfdClient where
  uuid := some "xivo"
  users params := some (users.filter fun user =>
    (match params.get? "search" with
      | some (.str term) => foundBy ConfdUser.textColumns term user
      | _ => true) &&
    matchAllSupportedColumns.all fun column =>
      match params.get? column with
      | some (.str values) => listedBy values column user
      | _ => true)

theorem directory_answers
    (hparams : ∀ key ∈ "search" :: matchAllSupportedColumns, plugin.searchParams.get? key = none) :
    Answers (directory users) plugin users ConfdUser.textColumns where
  supported := by decide
  all := by
    have hsearch := hparams "search" List.mem_cons_self
    have hcolumn : ∀ column ∈ matchAllSupportedColumns, plugin.searchParams.get? column = none :=
      fun column hc => hparams column (List.mem_cons_of_mem _ hc)
    refine congrArg some (List.filter_eq_self.2 fun user _ => ?_)
    simp only [hsearch, Bool.true_and, List.all_eq_true]
    intro column hc
    rw [hcolumn column hc]
  search := by
    intro term _
    refine congrArg some (List.filter_congr fun user _ => ?_)
    have hexten := hparams "exten" (by decide)
    have hmobile := hparams "mobile_phone_number" (by decide)
    simp [matchAllSupportedColumns, Dict.get?_set, hexten, hmobile]
  column := by
    intro column hcolumn values _
    refine congrArg some (List.filter_congr fun user _ => ?_)
    have hsearch := hparams "search" (by decide)
    have hexten := hparams "exten" (by decide)
    have hmobile := hparams "mobile_phone_number" (by decide)
    rcases List.mem_pair.1 hcolumn with rfl | rfl
    · simp [matchAllSupportedColumns, Dict.get?_set, hsearch, hmobile]
    · simp [matchAllSupportedColumns, Dict.get?_set, hsearch, hexten]

/-- A source that matches extensions. -/
def extenSource : WazoUserPlugin := load "wazo" ["exten"] none ∅

/-- Two users, of two extensions. -/
def twoExtens : List ConfdUser :=
  [{ id := 1, uuid := "a", exten := some "1234" }, { id := 2, uuid := "b", exten := some "5678" }]

/-- With distinct extensions, they agree. -/
theorem paths_agree_two :
    PathsAgree plainText (directory twoExtens) extenSource ["1234", "5678"] := by
  refine ((paths_agree_iff (directory_answers (by decide)) (by decide)).2
    (by decide) (by decide)).2 ?_
  rintro _ ⟨⟩ term hterm user listed hfirst hlast
  obtain ⟨huser, column, hcolumn, htext⟩ := hfirst.mem
  obtain ⟨hlisted, htext'⟩ := hlast.mem
  obtain ⟨hcolumn', huser'⟩ := List.mem_product.1 hlisted
  obtain rfl := List.mem_singleton.1 hcolumn
  rw [List.mem_singleton.1 hcolumn'] at htext'
  -- each extension is of one user
  have hone : ∀ term ∈ ["1234", "5678"], ∀ user ∈ twoExtens, ∀ user' ∈ twoExtens,
      user.column "exten" = some term → user'.column "exten" = some term →
        ',' ∉ term.toList ∧ user = user' := by
    decide
  obtain ⟨hcomma, rfl⟩ := hone term hterm user huser listed.2 huser' htext htext'
  exact ⟨hcomma, rfl⟩

/-- **They disagree on an extension two users share**, and on a term with
a comma. -/
theorem paths_disagree :
    (let users : List ConfdUser := [{ id := 1, uuid := "a", exten := some "1234" },
        { id := 2, uuid := "b", exten := some "1234" }];
      Answers (directory users) extenSource users ConfdUser.textColumns ∧
        ¬ PathsAgree plainText (directory users) extenSource ["1234"]) ∧
    (let users : List ConfdUser := [{ id := 1, uuid := "a", exten := some "1,2" }];
      Answers (directory users) extenSource users ConfdUser.textColumns ∧
        ¬ PathsAgree plainText (directory users) extenSource ["1,2"]) := by
  refine ⟨⟨directory_answers (by decide), fun h => ?_⟩,
    ⟨directory_answers (by decide), fun h => ?_⟩⟩
  · exact absurd (h.get?_eq "1234") (by decide)
  · exact absurd (h.get?_eq "1,2") (by decide)

end WazoUserPlugin

end WazoDird
