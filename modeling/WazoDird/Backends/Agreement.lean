import WazoDird.Backends.Google
import WazoDird.Backends.Office365

/-!
# One term at a time, and in batch

`firstMatch` of the conference, Google and Office 365 backends stops at
the first contact that matches, `matchAll` goes on and keeps the last. They
agree exactly when the last counts as the first
(`reverse_backends_agree_iff`).
-/

namespace WazoDird

variable {py : TextOps}

/-- The conference backend. -/
theorem ConferencePlugin.agrees_iff (plugin : ConferencePlugin)
    (response : Option (List Conference)) (terms : List String) :
    Scan.Agrees (plugin.firstMatch py response) (plugin.matchAll py response terms) terms ↔
      Scan.LastIsFirst (fun term => plugin.firstMatchFilter py (py.lower term))
        (plugin.sourceResult.make py ·) terms (fetchContacts response) :=
  Scan.agrees_iff (Scan.collects_byItem _ _)

/-- The Google backend. -/
theorem GooglePlugin.agrees_iff (plugin : GooglePlugin) (contacts : Option (List Fields))
    (terms : List String) :
    Scan.Agrees (plugin.firstMatch py contacts) (plugin.matchAll py contacts terms) terms ↔
      Scan.LastIsFirst (fun term => plugin.firstMatchPredicate py (py.lower term))
        (plugin.sourceResult.make py ·) terms (contacts.getD []) := by
  unfold firstMatch matchAll
  by_cases hcols : plugin.firstMatchedColumns = []
  · -- no column: nothing is looked up, and nothing would match
    simp only [if_pos hcols]
    refine iff_of_true (Scan.agrees_none_empty terms)
      (Scan.lastIsFirst_of_fails fun term _ contact _ h => ?_)
    rw [firstMatchPredicate, hcols] at h
    cases h
  · simp only [if_neg hcols]
    cases contacts with
    | none =>
      refine iff_of_true (Scan.agrees_none_empty terms)
        (Scan.lastIsFirst_of_fails fun term _ contact hcontact _ => ?_)
      cases hcontact
    | some contacts => exact Scan.agrees_iff (Scan.collects_byKey _ _)

/-- The Office 365 backend, once the contacts could be completed. -/
theorem Office365Plugin.agrees_iff (plugin : Office365Plugin) (contacts : Option (List Fields))
    (terms : List String) :
    Scan.Agrees (plugin.firstMatch py contacts) (plugin.matchAll py contacts terms) terms ↔
      ∀ updated, updateContactFields (contacts.getD []) = .ok updated →
        Scan.LastIsFirst (fun term => plugin.firstMatchPredicate py (py.lower term))
          (plugin.sourceResult.make py ·) terms updated := by
  have hempty : ∀ updated, updateContactFields [] = .ok updated →
      Scan.LastIsFirst (fun term => plugin.firstMatchPredicate py (py.lower term))
        (plugin.sourceResult.make py ·) terms updated := by
    intro updated h
    cases h
    exact Scan.lastIsFirst_of_fails fun term _ contact hcontact _ => by cases hcontact
  unfold firstMatch matchAll
  by_cases hcols : plugin.firstMatchedColumns = []
  · simp only [if_pos hcols]
    refine iff_of_true (Scan.agrees_none_empty terms) fun updated _ =>
      Scan.lastIsFirst_of_fails fun term _ contact _ h => ?_
    rw [firstMatchPredicate, hcols] at h
    cases h
  · simp only [if_neg hcols]
    match contacts with
    | none => exact iff_of_true (Scan.agrees_none_empty terms) hempty
    | some [] => exact iff_of_true (Scan.agrees_none_empty terms) hempty
    | some (contact :: contacts) =>
      simp only [Option.getD_some]
      cases hupdate : updateContactFields (contact :: contacts) with
      | error e =>
        -- both raise while they complete the contacts
        refine iff_of_true (fun term _ r => ⟨fun h => ?_, ?_⟩) ?_
        · cases h
        · rintro ⟨found, h, -⟩
          cases h
        · intro updated h
          cases h
      | ok updated =>
        refine (Scan.agrees_iff (Scan.collects_byKey terms updated)).trans ⟨?_, ?_⟩
        · rintro h updated' h'
          cases h'
          exact h
        · intro h
          exact h updated rfl

/-- **When the lookups of the three backends agree.** -/
theorem reverse_backends_agree_iff (py : TextOps) (conference : ConferencePlugin)
    (google : GooglePlugin) (office365 : Office365Plugin) (response : Option (List Conference))
    (googleContacts microsoftContacts : Option (List Fields)) (terms : List String) :
    (Scan.Agrees (conference.firstMatch py response) (conference.matchAll py response terms) terms ↔
      Scan.LastIsFirst (fun term => conference.firstMatchFilter py (py.lower term))
        (conference.sourceResult.make py ·) terms (ConferencePlugin.fetchContacts response)) ∧
    (Scan.Agrees (google.firstMatch py googleContacts) (google.matchAll py googleContacts terms)
        terms ↔
      Scan.LastIsFirst (fun term => google.firstMatchPredicate py (py.lower term))
        (google.sourceResult.make py ·) terms (googleContacts.getD [])) ∧
    (Scan.Agrees (office365.firstMatch py microsoftContacts)
        (office365.matchAll py microsoftContacts terms) terms ↔
      ∀ updated, updateContactFields (microsoftContacts.getD []) = .ok updated →
        Scan.LastIsFirst (fun term => office365.firstMatchPredicate py (py.lower term))
          (office365.sourceResult.make py ·) terms updated) :=
  ⟨conference.agrees_iff response terms, google.agrees_iff googleContacts terms,
    office365.agrees_iff microsoftContacts terms⟩

/-- Two conferences of one extension. -/
def sharedExtension : List Conference :=
  [⟨1, .str "Red", [.str "1234"], []⟩, ⟨2, .str "Blue", [.str "1234"], []⟩]

/-- Two contacts of one number, as Google's and as Office 365's. -/
def sharedNumber : List Fields :=
  [Dict.ofList [("id", .str "1"), ("name", .str "Alice"), ("numbers", .list [.str "1234"]),
      ("mobilePhone", .str "1234")],
    Dict.ofList [("id", .str "2"), ("name", .str "Bob"), ("numbers", .list [.str "1234"]),
      ("mobilePhone", .str "1234")]]

/-- **They disagree on a number two contacts share**: alone it finds the
first, in the batch the last. -/
theorem reverse_backends_disagree :
    (let rooms := ConferencePlugin.load { name := "rooms", firstMatchedColumns := ["extensions"] };
      ¬ Scan.Agrees (rooms.firstMatch plainText (some sharedExtension))
        (rooms.matchAll plainText (some sharedExtension) ["1234"]) ["1234"]) ∧
    (let google := GooglePlugin.load { name := "google", firstMatchedColumns := ["numbers"] };
      ¬ Scan.Agrees (google.firstMatch plainText (some sharedNumber))
        (google.matchAll plainText (some sharedNumber) ["1234"]) ["1234"]) ∧
    (let office := Office365Plugin.load { name := "office", firstMatchedColumns := ["numbers"] };
      ¬ Scan.Agrees (office.firstMatch plainText (some sharedNumber))
        (office.matchAll plainText (some sharedNumber) ["1234"]) ["1234"]) := by
  refine ⟨fun h => ?_, fun h => ?_, fun h => ?_⟩
  · exact absurd (h.eq (List.mem_singleton_self _)) (by decide)
  · exact absurd (h.eq (List.mem_singleton_self _)) (by decide)
  · exact absurd (h.eq (List.mem_singleton_self _)) (by decide)

end WazoDird
