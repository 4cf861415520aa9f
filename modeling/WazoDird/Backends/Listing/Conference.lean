import WazoDird.Backends.Conference
import WazoDird.Common.Listing

/-!
# Listing conferences by their ids

The lookups of the conference backend from what confd answers, where any
key may be missing: a conference is read whenever a loop comes to it, and
one that cannot be read raises, whatever is looked for.
-/

namespace WazoDird

/-! ## Reading a conference -/

/-- The `exten` of each of some extensions. -/
def readExtens (extensions : Value) : Except PyError (List Value) := do
  (← extensions.iter).mapM fun extension => extension.item "exten"

/-- One turn of the loop of `_fetch_contacts`. -/
def readConference (conference : Fields) : Except PyError Fields := do
  let extensions ← readExtens (← conference.item "extensions")
  let incalls ← (← (← conference.item "incalls").iter).mapM fun incall => do
    readExtens (← incall.item "extensions")
  return Dict.ofList [
    ("id", ← conference.item "id"),
    ("name", ← conference.item "name"),
    ("extensions", .list extensions),
    ("incalls", .list incalls.flatten)]

/-- Each of some extensions has an `exten`. -/
def HaveExtens (extensions : Value) : Prop :=
  ∃ l, extensions.iter = .ok l ∧ ∀ extension ∈ l, ∃ exten, extension.item "exten" = .ok exten

/-- **A conference that can be read**: all its keys are there, and those of
its extensions and of its incalls. -/
structure ReadableConference (conference : Fields) : Prop where
  id : "id" ∈ conference.keys
  name : "name" ∈ conference.keys
  extensions : ∃ v, conference.item "extensions" = .ok v ∧ HaveExtens v
  incalls : ∃ v incalls, conference.item "incalls" = .ok v ∧ v.iter = .ok incalls ∧
    ∀ incall ∈ incalls, ∃ v, incall.item "extensions" = .ok v ∧ HaveExtens v

theorem exists_readExtens_iff {extensions : Value} :
    (∃ l, readExtens extensions = .ok l) ↔ HaveExtens extensions := by
  simp only [readExtens, bind_eq_ok]
  constructor
  · rintro ⟨extens, l, hl, h⟩
    exact ⟨l, hl, exists_mapM_eq_ok.1 ⟨extens, h⟩⟩
  · rintro ⟨l, hl, h⟩
    obtain ⟨extens, hextens⟩ := exists_mapM_eq_ok.2 h
    exact ⟨extens, l, hl, hextens⟩

/-- **When a conference can be read.** -/
theorem exists_readConference_iff {conference : Fields} :
    (∃ contact, readConference conference = .ok contact) ↔ ReadableConference conference := by
  simp only [readConference, bind_eq_ok]
  constructor
  · rintro ⟨contact, v, hv, ext, hext, u, hu, w, hw, inc, hinc, id, hid, name, hname, -⟩
    refine ⟨Fields.exists_item_iff.1 ⟨id, hid⟩, Fields.exists_item_iff.1 ⟨name, hname⟩,
      ⟨v, hv, exists_readExtens_iff.1 ⟨ext, hext⟩⟩, u, w, hu, hw, fun incall hincall => ?_⟩
    obtain ⟨extens, hextens⟩ := exists_mapM_eq_ok.1 ⟨inc, hinc⟩ incall hincall
    obtain ⟨v, hv, hextens⟩ := bind_eq_ok.1 hextens
    exact ⟨v, hv, exists_readExtens_iff.1 ⟨extens, hextens⟩⟩
  · rintro ⟨hid, hname, ⟨v, hv, hext⟩, u, w, hu, hw, hinc⟩
    obtain ⟨id, hid⟩ := Fields.exists_item_iff.2 hid
    obtain ⟨name, hname⟩ := Fields.exists_item_iff.2 hname
    obtain ⟨ext, hext⟩ := exists_readExtens_iff.2 hext
    have hincalls : ∀ incall ∈ w, ∃ extens,
        (incall.item "extensions" >>= readExtens) = .ok extens := by
      intro incall hincall
      obtain ⟨v, hv, hextens⟩ := hinc incall hincall
      obtain ⟨extens, hextens⟩ := exists_readExtens_iff.2 hextens
      exact ⟨extens, bind_eq_ok.2 ⟨v, hv, hextens⟩⟩
    obtain ⟨inc, hinc⟩ := exists_mapM_eq_ok.2 hincalls
    exact ⟨_, v, hv, ext, hext, u, hu, w, hw, inc, hinc, id, hid, name, hname, rfl⟩

/-- A conference that is read has the fields of a contact, its id among
them. -/
theorem of_readConference {conference contact : Fields}
    (h : readConference conference = .ok contact) :
    contact.keys = ["id", "name", "extensions", "incalls"] ∧
      contact.get? "id" = conference.get? "id" := by
  simp only [readConference, bind_eq_ok] at h
  obtain ⟨v, -, ext, -, u, -, w, -, inc, -, id, hid, name, -, h⟩ := h
  cases h
  rw [Fields.item_eq_ok.1 hid]
  exact ⟨rfl, rfl⟩

/-- Extensions, as confd answers them. -/
def answerExtens (extens : List Value) : Value :=
  .list (extens.map fun exten => .dict [("exten", exten)])

/-- A conference, as confd answers it. -/
def Conference.answer (conference : Conference) : Fields :=
  Dict.ofList [
    ("id", .int conference.id),
    ("name", conference.name),
    ("extensions", answerExtens conference.extensions),
    ("incalls", .list (conference.incalls.map fun extens =>
      .dict [("extensions", answerExtens extens)]))]

theorem readExtens_answer (extens : List Value) :
    readExtens (answerExtens extens) = .ok extens := by
  rw [readExtens, answerExtens, Value.iter]
  exact mapM_map_eq_ok (g := fun exten => Value.dict [("exten", exten)]) (fun exten => rfl) extens

/-- **What is read of a conference is its contact.** -/
theorem readConference_answer (conference : Conference) :
    readConference conference.answer = .ok conference.contact := by
  have hincalls := mapM_map_eq_ok
    (f := fun incall : Value => incall.item "extensions" >>= readExtens)
    (g := fun extens => .dict [("extensions", answerExtens extens)])
    readExtens_answer conference.incalls
  simp only [readConference, bind_eq_ok]
  exact ⟨_, rfl, _, readExtens_answer _, _, rfl, _, rfl, _, hincalls, _, rfl, _, rfl, rfl⟩

namespace ConferencePlugin

variable (py : TextOps) (unidecode : String → String) (plugin : ConferencePlugin)

/-- `_search_filter`, by some searched columns. -/
def searchFilter (searchedColumns : List String) (cleanTerm : String) (contact : Fields) :
    Except PyError Bool :=
  searchedColumns.anyM fun column =>
    match contact.getOr column with
    | .str value => .ok (inText cleanTerm (unidecode (py.lower value)))
    | .list items => items.anyM fun item => do
      return inText cleanTerm (unidecode (← item.lower py.lower))
    | _ => .ok false

/-- `search`, in what confd answers. -/
def searchFrom (conferences : List Fields) (searchedColumns : List String) (term : String) :
    Except PyError (List SourceResult) :=
  Listing.lazily readConference
    (searchFilter py unidecode searchedColumns (unidecode (py.lower term)))
    (plugin.sourceResult.make py ·) conferences

/-- The result of a conference. -/
def result (conference : Fields) : Except PyError SourceResult :=
  readConference conference >>= (plugin.sourceResult.make py ·)

/-- `first_match`, in what confd answers. -/
def firstMatchFrom (conferences : List Fields) (term : String) :
    Except PyError (Option SourceResult) :=
  Scan.first
    (fun conference => readConference conference >>= plugin.firstMatchFilter py (py.lower term))
    (plugin.result py) conferences

/-- The test of a contact in `list`. -/
def hasId (uniqueIds : List String) (contact : Fields) : Except PyError Bool := do
  return py.str (← contact.item "id") ∈ uniqueIds

/-- `list`, in what confd answers. -/
def listFrom (conferences : List Fields) (uniqueIds : List String) :
    Except PyError (List SourceResult) :=
  Listing.lazily readConference (hasId py uniqueIds) (plugin.sourceResult.make py ·) conferences

/-- Of conferences with all their keys, the first match is that of their
contacts. -/
theorem firstMatchFrom_answers (conferences : List Conference) (term : String) :
    plugin.firstMatchFrom py (conferences.map Conference.answer) term =
      plugin.firstMatch py (some conferences) term := by
  rw [firstMatch, firstMatchFrom, fetchContacts, Option.getD_some]
  induction conferences with
  | nil => rfl
  | cons conference conferences ih =>
    rw [List.map_cons, List.map_cons, Scan.first, Scan.first, ih, result, readConference_answer]
    rfl

/-! ## What is found is listed back -/

section Listed

variable {py : TextOps} {unidecode : String → String} {plugin : ConferencePlugin}

/-- What a conference is compared by. -/
def compared (py : TextOps) (conference : Fields) : Except PyError (Option String) := do
  return some (py.str (← (← readConference conference).item "id"))

/-- A conference is kept when it is asked for. -/
theorem requested_compared {ids : List String} :
    Listing.requested (compared py) ids =
      fun conference => readConference conference >>= hasId py ids := by
  funext conference
  rw [Listing.requested, compared]
  cases readConference conference with
  | error e => rfl
  | ok contact =>
    change (do return Option.any (· ∈ ids) (← (do return some (py.str (← contact.item "id"))))) =
      hasId py ids contact
    rw [hasId]
    cases contact.item "id" <;> rfl

/-- What is found is the result of a conference. -/
theorem row_of_found {conferences : List Fields} {searchedColumns : List String} {r : SourceResult}
    (h : Listing.Found (plugin.searchFrom py unidecode conferences searchedColumns)
      (plugin.firstMatchFrom py conferences) r) :
    ∃ conference ∈ conferences, plugin.result py conference = .ok r := by
  rcases h with ⟨term, rs, h, hr⟩ | ⟨term, h⟩
  · exact Listing.selects_lazily.exists_mem h hr
  · exact Scan.exists_mem_of_first h

/-- A conference can be compared when it can be read. -/
theorem exists_compared_iff {conference : Fields} :
    (∃ k, compared py conference = .ok k) ↔ ReadableConference conference := by
  rw [← exists_readConference_iff]
  simp only [compared, bind_eq_ok]
  constructor
  · rintro ⟨-, contact, hread, -⟩
    exact ⟨contact, hread⟩
  · rintro ⟨contact, hread⟩
    have hid : "id" ∈ contact.keys := by
      rw [(of_readConference hread).1]
      decide
    obtain ⟨id, hid⟩ := Fields.exists_item_iff.2 hid
    exact ⟨_, contact, hread, id, hid, rfl⟩

/-- A conference that can be read makes a result by the columns only. -/
theorem exists_result_iff {conference : Fields} :
    (∃ r, plugin.result py conference = .ok r) ↔ ReadableConference conference ∧
      CanFormat plugin.sourceResult.formatColumns.keys ["id", "name", "extensions", "incalls"] := by
  rw [← exists_readConference_iff]
  simp only [result, bind_eq_ok]
  constructor
  · rintro ⟨r, contact, hread, hmake⟩
    rw [← (of_readConference hread).1]
    exact ⟨⟨contact, hread⟩, (ResultClass.exists_make_iff py).1 ⟨r, hmake⟩⟩
  · rintro ⟨⟨contact, hread⟩, hformat⟩
    rw [← (of_readConference hread).1] at hformat
    obtain ⟨r, hmake⟩ := (ResultClass.exists_make_iff py).2 hformat
    exact ⟨r, contact, hread, hmake⟩

/-- **When a conference source lists back what it finds**: every conference
can be read. -/
theorem listsBack_iff {config : PluginConfig} {conferences : List Fields}
    {searchedColumns : List String} :
    Listing.ListsBack
        (Listing.Found ((load config).searchFrom py unidecode conferences searchedColumns)
          ((load config).firstMatchFrom py conferences))
        (·.relations.sourceEntryId) ((load config).listFrom py conferences) (compared py)
        ((load config).result py) conferences ↔
      ∀ conference ∈ conferences, ReadableConference conference := by
  have hlist : ∀ ids, Listing.Selects (Listing.requested (compared py) ids)
      ((load config).result py) conferences ((load config).listFrom py conferences ids) := by
    intro ids
    rw [requested_compared]
    exact Listing.selects_lazily
  have hid : ∀ conference r, (load config).result py conference = .ok r → ∀ s,
      compared py conference = .ok (some s) ↔ r.relations.sourceEntryId = some s := by
    intro conference r hmake s
    obtain ⟨contact, hread, hmake⟩ := bind_eq_ok.1 hmake
    rw [ResultClass.entryId_of_make py hmake, compared, hread]
    change (do return some (py.str (← contact.item "id"))) = Except.ok (some s) ↔
      (contact.get? "id").map py.str = some s
    rw [Fields.item]
    cases contact.get? "id" with
    | none => simp [bind, Except.bind]
    | some id => simp [bind, Except.bind, pure, Except.pure]
  rw [Listing.listsBack_iff_of_compared hlist (fun r => row_of_found) hid]
  simp only [exists_compared_iff, and_iff_left_iff_imp]
  intro hall r s hfound _ conference hconference _
  obtain ⟨conference', -, hmake⟩ := row_of_found hfound
  exact exists_result_iff.2 ⟨hall conference hconference, (exists_result_iff.1 ⟨r, hmake⟩).2⟩

end Listed

end ConferencePlugin

end WazoDird
