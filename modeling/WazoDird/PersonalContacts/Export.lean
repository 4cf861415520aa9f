import Mathlib.Data.List.Dedup
import Mathlib.Data.List.Sort
import WazoDird.Common.Csv
import WazoDird.Database.Queries.Base

/-!
# The export of personal contacts, and its import

`PersonalAll.format_csv` and the reader of `PersonalImport._mass_import`
in `plugins/personal/http.py`. The writer ends its rows by `\r\n` and
quotes a value with a line feed; the reader is fed the document cut at its
line feeds, which a quoted value so loses.
-/

namespace WazoDird

open Excel

namespace PersonalAll

/-- The attributes of all contacts, sorted. -/
def fieldnames (contacts : List ContactInfo) : List String :=
  ((contacts.flatMap Dict.keys).dedup).insertionSort (· ≤ ·)

/-- What is written of a contact under an attribute: nothing when it has
none, or no value. -/
def cell (contact : ContactInfo) (name : String) : String :=
  (contact.get? name).join.getD ""

/-- The row of a contact: `writer.writerows`. -/
def row (contacts : List ContactInfo) (contact : ContactInfo) : List (List Char) :=
  (fieldnames contacts).map fun name => (cell contact name).toList

/-- The row of the names: `writer.writeheader`. -/
def header (contacts : List ContactInfo) : List (List Char) :=
  (fieldnames contacts).map String.toList

/-- **`format_csv`**: the text, and the status it is answered with. -/
def formatCsv (contacts : List ContactInfo) : String × ℕ :=
  if contacts.isEmpty then ("", 204)
  else (String.ofList ((header contacts :: contacts.map (row contacts)).flatMap writeRow), 200)

end PersonalAll

/-- The reader of `PersonalImport._mass_import`, each row with the number of
its line. -/
def PersonalImport.reader (csvDocument : String) :
    Except Excel.Error (List (ℕ × Dict (Option String) Value)) :=
  dictReader fieldSizeLimit (csvDocument.toList.splitOn '\n')

namespace PersonalAll

/-- **Contacts survive**: the export, read as an import is, has one row for
each, in order, with the value of each attribute and an empty text for the
attributes of others. -/
def Survives (contacts : List ContactInfo) : Prop :=
  ∃ rows, PersonalImport.reader (formatCsv contacts).1 = .ok rows ∧
    List.Forall₂ (fun row contact => ∀ key : Option String, row.2.get? key = key.bind fun name =>
      if name ∈ fieldnames contacts then some (.str (cell contact name)) else none) rows contacts

/-- A text the reader gives back: it has no line feed, and is not longer
than a field may be. -/
def Readable (text : String) : Prop :=
  '\n' ∉ text.toList ∧ text.toList.length ≤ fieldSizeLimit

variable {contacts : List ContactInfo} {contact : ContactInfo} {name : String}

theorem mem_fieldnames : name ∈ fieldnames contacts ↔ ∃ c ∈ contacts, name ∈ c.keys := by
  rw [fieldnames, (List.perm_insertionSort _ _).mem_iff, List.mem_dedup, List.mem_flatMap]

/-- What the reader makes of what was written. -/
theorem reader_formatCsv (hne : contacts ≠ []) :
    (PersonalImport.reader (formatCsv contacts).1).map (·.map Prod.snd) =
      (do
        let names ← (header contacts).mapM (readField fieldSizeLimit)
        let rows ← (contacts.map (row contacts)).mapM
          fun row : List (List Char) => row.mapM (readField fieldSizeLimit)
        return (rows.filter (· ≠ [])).map (dictRow names)) := by
  rw [PersonalImport.reader, formatCsv, if_neg (by simpa using hne)]
  simp only [String.toList_ofList]
  exact dictReader_rows

/-- It gives rows when no name and no cell is too long. -/
theorem reader_eq_ok_iff (hne : contacts ≠ []) {rows : List (Dict (Option String) Value)} :
    (PersonalImport.reader (formatCsv contacts).1).map (·.map Prod.snd) = .ok rows ↔
      ((∀ name ∈ fieldnames contacts, (joined name.toList).length ≤ fieldSizeLimit) ∧
        ∀ contact ∈ contacts, ∀ name ∈ fieldnames contacts,
          (joined (cell contact name).toList).length ≤ fieldSizeLimit) ∧
        rows = ((contacts.map fun contact => (row contacts contact).map joined).filter
          (· ≠ [])).map (dictRow ((header contacts).map joined)) := by
  rw [reader_formatCsv hne]
  simp only [bind_eq_ok, mapM_eq_ok_iff_map readField_eq_ok, mapM_readField_eq_ok, List.map_map]
  constructor
  · rintro ⟨_, ⟨hnames, rfl⟩, _, ⟨hcells, rfl⟩, ⟨⟩⟩
    refine ⟨⟨List.forall_mem_map.1 hnames, fun contact hc name hname => ?_⟩, rfl⟩
    exact hcells _ (List.mem_map_of_mem hc) _ (List.mem_map.2 ⟨name, hname, rfl⟩)
  · rintro ⟨⟨hnames, hcells⟩, rfl⟩
    refine ⟨_, ⟨List.forall_mem_map.2 hnames, rfl⟩, _, ⟨?_, rfl⟩, rfl⟩
    exact List.forall_mem_map.2 fun contact hc => List.forall_mem_map.2 (hcells contact hc)

/-- The row of a contact, when no name has a line feed. -/
theorem get?_row (hnames : ∀ name ∈ fieldnames contacts, '\n' ∉ name.toList)
    (key : Option String) :
    (dictRow ((header contacts).map joined) ((row contacts contact).map joined)).get? key =
      key.bind fun name => if name ∈ fieldnames contacts then
        some (.str (String.ofList (joined (cell contact name).toList))) else none := by
  have hjoined : (header contacts).map joined = header contacts := by
    rw [header, List.map_map]
    exact List.map_congr_left fun name hname => joined_eq_self.2 (hnames name hname)
  have hcells : (row contacts contact).map joined =
      (header contacts).map fun name => joined (cell contact (String.ofList name)).toList := by
    simp only [row, header, List.map_map, Function.comp_def, String.ofList_toList]
  rw [hjoined, hcells, get?_dictRow]
  refine congrArg key.bind (funext fun name => ?_)
  have hmem : name.toList ∈ header contacts ↔ name ∈ fieldnames contacts :=
    List.mem_map_of_injective fun _ _ => String.toList_injective
  simp only [hmem, String.ofList_toList]

/-- A name that is read has no line feed. -/
theorem not_mem_of_get?_row {v : Value}
    (hget : (dictRow ((header contacts).map joined) ((row contacts contact).map joined)).get?
      (some name) = some v) : '\n' ∉ name.toList := by
  obtain ⟨text, htext, hkey⟩ := mem_of_get?_dictRow (by simp [row, header]) hget
  obtain ⟨text, -, rfl⟩ := List.mem_map.1 htext
  rw [Option.some.inj hkey, String.toList_ofList]
  exact not_mem_joined

/-- Contacts with nothing to write do not survive: their rows are empty, and
empty rows are passed over. -/
theorem not_survives_of_fieldnames_eq_nil (hne : contacts ≠ [])
    (hnames : fieldnames contacts = []) : ¬ Survives contacts := by
  rintro ⟨rows, hrows, hall⟩
  have hread := congrArg (Except.map (List.map Prod.snd)) hrows
  obtain ⟨-, hnone⟩ := (reader_eq_ok_iff hne).1 hread
  have hempty : (contacts.map fun contact => (row contacts contact).map joined).filter
      (· ≠ []) = [] := by
    refine List.filter_eq_nil_iff.2 fun row hrow => ?_
    obtain ⟨contact, -, rfl⟩ := List.mem_map.1 hrow
    simp [PersonalAll.row, hnames]
  rw [hempty, List.map_nil, List.map_eq_nil_iff] at hnone
  rw [hnone] at hall
  cases hall
  exact hne rfl

/-- Where there is something to write, contacts survive when every name and
every cell is readable. -/
theorem survives_iff_of_ne_nil (hne : contacts ≠ []) (hnames : fieldnames contacts ≠ []) :
    Survives contacts ↔ (∀ name ∈ fieldnames contacts, Readable name) ∧
      ∀ contact ∈ contacts, ∀ name ∈ fieldnames contacts, Readable (cell contact name) := by
  -- no row is empty
  have hfilter : (contacts.map fun contact => (row contacts contact).map joined).filter
      (· ≠ []) = contacts.map fun contact => (row contacts contact).map joined := by
    refine List.filter_eq_self.2 fun row hrow => ?_
    obtain ⟨contact, -, rfl⟩ := List.mem_map.1 hrow
    simpa [PersonalAll.row] using hnames
  constructor
  · rintro ⟨rows, hrows, hall⟩
    have hread := congrArg (Except.map (List.map Prod.snd)) hrows
    obtain ⟨⟨hlen, hcells⟩, heq⟩ := (reader_eq_ok_iff hne).1 hread
    rw [hfilter, List.map_map] at heq
    have hall' : List.Forall₂ (fun d contact => ∀ key : Option String, d.get? key =
        key.bind fun name => if name ∈ fieldnames contacts then
          some (.str (cell contact name)) else none) (rows.map Prod.snd) contacts :=
      List.forall₂_map_left_iff.2 hall
    rw [heq, List.forall₂_map_left_iff, List.forall₂_same] at hall'
    have hlf : ∀ name ∈ fieldnames contacts, '\n' ∉ name.toList := by
      intro name hname
      obtain ⟨contact, hc⟩ := List.exists_mem_of_ne_nil _ hne
      have hget := hall' contact hc (some name)
      rw [Option.bind_some, if_pos hname] at hget
      exact not_mem_of_get?_row hget
    have hcell : ∀ contact ∈ contacts, ∀ name ∈ fieldnames contacts,
        joined (cell contact name).toList = (cell contact name).toList := by
      intro contact hc name hname
      have hget := hall' contact hc (some name)
      rw [Function.comp_apply, get?_row hlf, Option.bind_some, Option.bind_some, if_pos hname,
        if_pos hname, Option.some.injEq, Value.str.injEq] at hget
      exact (String.toList_ofList).symm.trans (congrArg String.toList hget)
    refine ⟨fun name hname => ⟨hlf name hname, ?_⟩, fun contact hc name hname => ?_⟩
    · rw [← joined_eq_self.2 (hlf name hname)]
      exact hlen name hname
    · have heq := hcell contact hc name hname
      exact ⟨joined_eq_self.1 heq, heq ▸ hcells contact hc name hname⟩
  · rintro ⟨hname, hcell⟩
    have hself : ∀ {text : String}, Readable text → joined text.toList = text.toList :=
      fun h => joined_eq_self.2 h.1
    have hread := (reader_eq_ok_iff hne).2 ⟨⟨fun name h => ?_, fun contact hc name h => ?_⟩, rfl⟩
    · cases hrows : PersonalImport.reader (formatCsv contacts).1 with
      | error e =>
          rw [hrows] at hread
          cases hread
      | ok rows =>
          rw [hrows, hfilter, List.map_map] at hread
          have hmap : rows.map Prod.snd = _ := Except.ok.inj hread
          have hall : List.Forall₂ (fun d contact => ∀ key : Option String, d.get? key =
              key.bind fun name => if name ∈ fieldnames contacts then
                some (.str (cell contact name)) else none) (rows.map Prod.snd) contacts := by
            rw [hmap, List.forall₂_map_left_iff, List.forall₂_same]
            intro contact hc key
            rw [Function.comp_apply, get?_row fun name h => (hname name h).1]
            refine congrArg key.bind (funext fun name => ?_)
            split
            · next h => rw [hself (hcell contact hc name h), String.ofList_toList]
            · rfl
          exact ⟨rows, hrows, List.forall₂_map_left_iff.1 hall⟩
    · rw [hself (hname name h)]
      exact (hname name h).2
    · rw [hself (hcell contact hc name h)]
      exact (hcell contact hc name h).2

/-- **The exact condition.** Contacts survive when no name and no value has
a line feed or is longer than the reader allows, and there is a field to
write, unless there is no contact. -/
theorem survives_iff (contacts : List ContactInfo) :
    Survives contacts ↔
      (∀ contact ∈ contacts, ∀ e ∈ contact.entries, Readable e.1 ∧ Readable (e.2.getD "")) ∧
        (contacts = [] ∨ ∃ contact ∈ contacts, contact.keys ≠ []) := by
  by_cases hne : contacts = []
  · subst hne
    simp only [List.not_mem_nil, false_imp_iff, implies_true, true_or, and_true, iff_true]
    exact ⟨[], by decide, List.Forall₂.nil⟩
  have hsome : (∃ contact ∈ contacts, contact.keys ≠ []) ↔ fieldnames contacts ≠ [] := by
    constructor
    · rintro ⟨contact, hc, hkeys⟩
      obtain ⟨name, hname⟩ := List.exists_mem_of_ne_nil _ hkeys
      exact List.ne_nil_of_mem (mem_fieldnames.2 ⟨contact, hc, hname⟩)
    · intro hnames
      obtain ⟨name, hname⟩ := List.exists_mem_of_ne_nil _ hnames
      obtain ⟨contact, hc, hname⟩ := mem_fieldnames.1 hname
      exact ⟨contact, hc, List.ne_nil_of_mem hname⟩
  rw [hsome]
  by_cases hnames : fieldnames contacts = []
  · simp only [hne, hnames, ne_eq, not_true_eq_false, or_self, and_false, iff_false]
    exact not_survives_of_fieldnames_eq_nil hne hnames
  simp only [hne, hnames, ne_eq, not_false_eq_true, or_true, and_true]
  rw [survives_iff_of_ne_nil hne hnames]
  have hcell : ∀ contact : ContactInfo, ∀ e ∈ contact.entries, cell contact e.1 = e.2.getD "" := by
    intro contact e he
    rw [cell, Dict.get?_eq_some_iff.2 he, Option.join_some]
  constructor
  · rintro ⟨hname, hcells⟩ contact hc e he
    have hmem := mem_fieldnames.2 ⟨contact, hc, List.mem_map_of_mem he⟩
    exact ⟨hname _ hmem, hcell contact e he ▸ hcells contact hc _ hmem⟩
  · intro hall
    refine ⟨fun name h => ?_, fun contact hc name _ => ?_⟩
    · obtain ⟨contact, hc, hkey⟩ := mem_fieldnames.1 h
      obtain ⟨e, he, rfl⟩ := List.mem_map.1 hkey
      exact (hall contact hc e he).1
    · cases hget : contact.get? name with
      | none =>
          rw [cell, hget]
          exact ⟨by simp, Nat.zero_le _⟩
      | some value =>
          have he := Dict.get?_eq_some_iff.1 hget
          rw [hcell contact _ he]
          exact (hall contact hc _ he).2

/-- A value of two lines comes back as one. -/
theorem not_survives_line_feed :
    ¬ Survives [Dict.ofList [("note", some "a\nb")]] := by
  rw [survives_iff_of_ne_nil (List.cons_ne_nil _ _) (by decide)]
  rintro ⟨-, h⟩
  exact absurd (h _ List.mem_cons_self "note" (by decide)).1 (by decide)

end PersonalAll

end WazoDird
