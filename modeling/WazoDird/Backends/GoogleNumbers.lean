import WazoDird.Backends.GoogleContacts

/-!
# The phone numbers of a Google contact

`ContactFormatter` keeps one number for each label, the last, and makes
its list of numbers and its numbers by excluded label of those. So a
number is lost when a later one of its label replaces it, and a mobile
number when nothing is left of it, unless the number is also kept under
other labels.
-/

namespace WazoDird

namespace GooglePerson

variable (person : GooglePerson)

/-- The label and the number of an entry that has both. -/
def labelled (entry : GoogleEntry) : Option (String × String) :=
  if extractType entry.type = "" then none
  else (entry.value.filter (· ≠ "")).map fun number => (extractType entry.type, cleanNumber number)

/-- **The numbers of a contact**, normalised, each with its label. -/
def numbersOf : List (String × String) := person.phoneNumbers.filterMap labelled

/-- The last number of a label. -/
def lastNumber (label : String) : Option String :=
  ((person.numbersOf.filter (·.1 = label)).getLast?).map Prod.snd

/-- One turn of the loop writes the number of its entry, if it has one. -/
theorem addNumber_eq (numbers : Dict String String) (entry : GoogleEntry) :
    addNumber numbers entry = numbers.setAll (labelled entry).toList := by
  obtain ⟨value, type⟩ := entry
  unfold addNumber labelled
  by_cases hlabel : extractType type = ""
  · simp [hlabel]
  · cases value with
    | none => simp
    | some number => by_cases hnumber : number = "" <;> simp [hlabel, hnumber, Option.filter]

/-- The by-label map has the numbers of the contact, written in turn. -/
theorem extractNumbersByLabel_eq :
    person.extractNumbersByLabel = Dict.ofList person.numbersOf := by
  have hloop (entries : List GoogleEntry) (numbers : Dict String String) :
      entries.foldl addNumber numbers = numbers.setAll (entries.filterMap labelled) := by
    induction entries generalizing numbers with
    | nil => rfl
    | cons entry entries ih =>
      rw [List.foldl_cons, ih, addNumber_eq, ← Dict.setAll_append, List.filterMap_cons]
      cases labelled entry <;> rfl
  exact hloop person.phoneNumbers ∅

variable {person} {label number : String}

/-- **What the by-label map has for a label** is its last number. -/
theorem get?_extractNumbersByLabel :
    person.extractNumbersByLabel.get? label = person.lastNumber label := by
  rw [extractNumbersByLabel_eq, Dict.ofList, Dict.get?_setAll]
  exact Option.or_none

/-- The last number of a label is a number of it. -/
theorem mem_of_lastNumber (h : person.lastNumber label = some number) :
    (label, number) ∈ person.numbersOf := by
  obtain ⟨⟨label', number'⟩, hlast, rfl⟩ := Option.map_eq_some_iff.1 h
  obtain ⟨hmem, hlabel⟩ := List.mem_filter.1 (List.mem_of_mem_getLast? hlast)
  rwa [← of_decide_eq_true hlabel]

/-- A label of the contact has a last number. -/
theorem exists_lastNumber (h : (label, number) ∈ person.numbersOf) :
    ∃ last, person.lastNumber label = some last := by
  have hne : person.numbersOf.filter (·.1 = label) ≠ [] :=
    List.ne_nil_of_mem (List.mem_filter.2 ⟨h, decide_eq_true rfl⟩)
  exact ⟨_, by rw [lastNumber, List.getLast?_eq_getLast_of_ne_nil hne]; rfl⟩

/-- **The numbers of the contact's list**: the last of each label, a mobile
only when something is left of it. -/
theorem mem_extractNumbers : number ∈ person.extractNumbers ↔
    ∃ label, person.lastNumber label = some number ∧ (label = "mobile" → number ≠ "") := by
  simp only [← get?_extractNumbersByLabel, Dict.get?_eq_some_iff, extractNumbers, List.mem_append,
    List.mem_map, List.mem_filter, decide_eq_true_eq, Prod.exists]
  constructor
  · rintro (⟨label, _, ⟨hmem, hlabel⟩, rfl⟩ | ⟨⟨label, _, ⟨hmem, rfl⟩, rfl⟩, hne⟩)
    · exact ⟨label, hmem, fun h => absurd h hlabel⟩
    · exact ⟨"mobile", hmem, fun _ => hne⟩
  · rintro ⟨label, hmem, hne⟩
    by_cases hlabel : label = "mobile"
    · exact Or.inr ⟨⟨label, number, ⟨hmem, hlabel⟩, rfl⟩, hne hlabel⟩
    · exact Or.inl ⟨label, number, ⟨hmem, hlabel⟩, rfl⟩

/-- The numbers but those of a label: the last of each other one. -/
theorem mem_erase_values :
    number ∈ (person.extractNumbersByLabel.erase label).values ↔
      ∃ other, other ≠ label ∧ person.lastNumber other = some number := by
  have hvalues (d : Dict String String) : number ∈ d.values ↔ ∃ key, d.get? key = some number := by
    simp only [Dict.values, List.mem_map, Prod.exists, exists_eq_right, Dict.get?_eq_some_iff]
  rw [hvalues]
  refine exists_congr fun other => ?_
  rw [Dict.get?_erase, get?_extractNumbersByLabel]
  by_cases h : label = other
  · rw [if_pos h]
    exact iff_of_false (fun hnone => by cases hnone) fun hother => hother.1 h.symm
  · rw [if_neg h]
    exact (and_iff_right (Ne.symm h)).symm

/-! ## Losing none -/

variable (person)

/-- **No number of a contact is lost**: its list has its numbers and no
other, its by-label map a number of each label, and its numbers but those
of a label are its numbers of the other labels. -/
structure LosesNone : Prop where
  numbers : ∀ number, number ∈ person.extractNumbers ↔ ∃ label, (label, number) ∈ person.numbersOf
  byLabel : ∀ label, (∃ number, (label, number) ∈ person.numbersOf) →
    ∃ number, person.extractNumbersByLabel.get? label = some number ∧
      (label, number) ∈ person.numbersOf
  exceptLabel : ∀ entry ∈ person.extractNumbersExceptLabel, ∀ number,
    number ∈ entry.2 ↔ ∃ label, label ≠ entry.1 ∧ (label, number) ∈ person.numbersOf

/-- A number is kept without a label: it is the last of a label that the
numbers by excluded label do not cover, or of two labels. -/
def KeptOtherwise (number : String) : Prop :=
  (∃ label, label ∉ numberLabels ∧ person.lastNumber label = some number) ∨
    ∃ label other, label ≠ other ∧ person.lastNumber label = some number ∧
      person.lastNumber other = some number

/-- Every number that a later one of its label replaces is kept otherwise,
and so is a mobile number of which nothing is left. -/
def KeepsReplaced : Prop :=
  (∀ entry ∈ person.numbersOf, person.lastNumber entry.1 ≠ some entry.2 →
    person.KeptOtherwise entry.2) ∧
  (person.lastNumber "mobile" = some "" →
    ∃ label, label ≠ "mobile" ∧ person.lastNumber label = some "")

variable {person}

/-- A number that is kept otherwise is the last of a label other than any
that is covered. -/
theorem KeptOtherwise.exists_ne (h : person.KeptOtherwise number) (hlabel : label ∈ numberLabels) :
    ∃ other, other ≠ label ∧ person.lastNumber other = some number := by
  rcases h with ⟨other, hother, hlast⟩ | ⟨first, second, hne, hfirst, hsecond⟩
  · exact ⟨other, fun h => hother (h ▸ hlabel), hlast⟩
  · by_cases h : first = label
    · exact ⟨second, fun h' => hne (h.trans h'.symm), hsecond⟩
    · exact ⟨first, h, hfirst⟩

/-- There is a covered label other than any one. -/
theorem exists_numberLabel_ne (label : String) : ∃ other ∈ numberLabels, label ≠ other := by
  by_cases h : label = "home"
  · exact ⟨"work", by decide, by rw [h]; decide⟩
  · exact ⟨"home", by decide, h⟩

/-- What the numbers but those of a covered label are. -/
theorem forall_exceptLabel {P : String × List String → Prop} :
    (∀ entry ∈ person.extractNumbersExceptLabel, P entry) ↔
      ∀ label ∈ numberLabels, P (label, (person.extractNumbersByLabel.erase label).values) := by
  rw [extractNumbersExceptLabel, List.forall_mem_map]

/-- **A replaced number is lost unless it is kept otherwise.** -/
theorem LosesNone.keptOtherwise (h : person.LosesNone) {entry : String × String}
    (hentry : entry ∈ person.numbersOf) (hreplaced : person.lastNumber entry.1 ≠ some entry.2) :
    person.KeptOtherwise entry.2 := by
  have hexcept (label : String) (hlabel : label ∈ numberLabels) (hne : entry.1 ≠ label) :
      ∃ other, other ≠ label ∧ person.lastNumber other = some entry.2 :=
    mem_erase_values.1 ((forall_exceptLabel.1 h.exceptLabel label hlabel entry.2).2
      ⟨entry.1, hne, hentry⟩)
  obtain ⟨covered, hcovered, hne⟩ := exists_numberLabel_ne entry.1
  obtain ⟨other, -, hother⟩ := hexcept covered hcovered hne
  by_cases hmem : other ∈ numberLabels
  · -- a covered label that keeps it: the numbers but those of that label have it too
    have hentryNe : entry.1 ≠ other := fun h => hreplaced (h ▸ hother)
    obtain ⟨second, hsecondNe, hsecond⟩ := hexcept other hmem hentryNe
    exact Or.inr ⟨second, other, hsecondNe, hsecond, hother⟩
  · exact Or.inl ⟨other, hmem, hother⟩

/-- **No number is lost exactly when** every number that is replaced is
kept otherwise. -/
theorem losesNone_iff (person : GooglePerson) : person.LosesNone ↔ person.KeepsReplaced := by
  constructor
  · intro h
    refine ⟨fun entry hentry => h.keptOtherwise hentry, fun hmobile => ?_⟩
    have hmem := (h.numbers "").2 ⟨"mobile", mem_of_lastNumber hmobile⟩
    obtain ⟨label, hlabel, hne⟩ := mem_extractNumbers.1 hmem
    exact ⟨label, fun h => hne h rfl, hlabel⟩
  · rintro ⟨hreplaced, hmobile⟩
    refine ⟨fun number => ⟨fun hmem => ?_, ?_⟩, ?_, forall_exceptLabel.2 ?_⟩
    · obtain ⟨label, hlabel, -⟩ := mem_extractNumbers.1 hmem
      exact ⟨label, mem_of_lastNumber hlabel⟩
    · rintro ⟨label, hmem⟩
      rw [mem_extractNumbers]
      by_cases hlast : person.lastNumber label = some number
      · by_cases hgone : label = "mobile" ∧ number = ""
        · obtain ⟨rfl, rfl⟩ := hgone
          obtain ⟨other, hne, hother⟩ := hmobile hlast
          exact ⟨other, hother, fun h => absurd h hne⟩
        · exact ⟨label, hlast, fun h hnumber => hgone ⟨h, hnumber⟩⟩
      · obtain ⟨other, hne, hother⟩ :=
          (hreplaced _ hmem hlast).exists_ne (show "mobile" ∈ numberLabels by decide)
        exact ⟨other, hother, fun h => absurd h hne⟩
    · rintro label ⟨number, hmem⟩
      obtain ⟨last, hlast⟩ := exists_lastNumber hmem
      exact ⟨last, get?_extractNumbersByLabel.trans hlast, mem_of_lastNumber hlast⟩
    · intro covered hcovered number
      rw [mem_erase_values]
      constructor
      · rintro ⟨other, hne, hother⟩
        exact ⟨other, hne, mem_of_lastNumber hother⟩
      · rintro ⟨label, hne, hmem⟩
        by_cases hlast : person.lastNumber label = some number
        · exact ⟨label, hne, hlast⟩
        · exact (hreplaced _ hmem hlast).exists_ne hcovered

/-- A person with two mobile numbers is left with the second. -/
theorem not_losesNone : ¬ ∀ person : GooglePerson, person.LosesNone := by
  intro h
  have hnumbers := (h { phoneNumbers := [{ value := some "555-1234", type := some "mobile" },
    { value := some "555-4321", type := some "mobile" }] }).numbers "5551234"
  exact absurd (hnumbers.2 ⟨"mobile", by decide⟩) (by decide)

end GooglePerson

end WazoDird
