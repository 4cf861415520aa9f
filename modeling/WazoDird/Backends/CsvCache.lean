import WazoDird.Backends.Csv
import WazoDird.Common.Csv
import WazoDird.Common.Run

/-!
# The rows kept of a csv file

`_load_file` of `plugins/csv_backend/plugin.py` reads the file anew when its
modification time is not the one it recorded, and keeps the rows it read
where it cannot. A run has a writer, who replaces the file or makes it
unreadable, and calls that are answered. An answer is the one that reading
the file anew gives, and is given at all, exactly when the call meets a
condition on the file (`call_right_iff`): an empty file, one whose status is
refused and a row without the unique column all make a call raise.
-/

namespace WazoDird

/-- What comes of opening a file. -/
inductive Access where
  | readable
  /-- `open` raises an `OSError`, or reading does. -/
  | unopenable
  /-- `stat` raises `FileNotFoundError`. -/
  | missing
  /-- `stat` raises another `OSError`. -/
  | forbidden
  deriving DecidableEq

/-- A file: what it holds and when that was written, read or not. -/
structure CsvFile (τ γ : Type) where
  access : Access
  modified : τ
  content : γ

/-- What a source keeps: `_csv_last_modification_time` and `_content`. -/
structure CsvCache (τ : Type) where
  lastModified : Option τ := none
  content : List CsvEntry := []

/-- What a call raises: what `next` raises at an empty file, what the status
of a file raises, what reading it raises, and what looking up its rows
does. -/
inductive CsvCallError (ε : Type) where
  | stopIteration
  | permissionError
  | reader (e : ε)
  | python (e : PyError)

/-- A call. -/
inductive CsvCall where
  | search (term : String)
  | firstMatch (term : String)
  | list (uniqueIds : List String)

/-- What a call returns. -/
inductive CsvAnswer where
  | results (l : List SourceResult)
  | first (result : Option SourceResult)

variable {τ γ ε : Type} [DecidableEq τ]

namespace CSVPlugin

section

variable (read : γ → Except ε (List (List String))) (py : TextOps) (config : CSVConfig)

/-- `_load_file`, by what `csv.reader` makes of a content: its rows, or what
it raises. -/
def loadFile (file : CsvFile τ γ) (cache : CsvCache τ) :
    Except (CsvCallError ε) (CsvCache τ) :=
  match file.access with
  | .missing => .ok cache
  | .forbidden => .error .permissionError
  | .unopenable => .ok cache
  | .readable =>
    if cache.lastModified = some file.modified then .ok cache
    else
      match read file.content with
      | .error e => .error (.reader e)
      | .ok [] => .error .stopIteration
      | .ok (keys :: rows) => .ok ⟨some file.modified, rows.map (rowToDict keys)⟩

/-- The plugin, with the rows it keeps. -/
def keeping (entries : List CsvEntry) : CSVPlugin where
  config := config
  content := entries
  sourceResult := makeResultClass "csv" config.name config.uniqueColumn (some config.formatColumns)

/-- A call loads the file, unless it has no column to look at. -/
def loads : CsvCall → Bool
  | .search _ => config.searchedColumns.isSome
  | .firstMatch _ => true
  | .list _ => config.uniqueColumn.isSome

/-- What a call is answered by some rows. -/
def answer (entries : List CsvEntry) : CsvCall → Except PyError CsvAnswer
  | .search term => ((keeping config entries).search py term).map .results
  | .firstMatch term => ((keeping config entries).firstMatch py term).map .first
  | .list uniqueIds => ((keeping config entries).list py uniqueIds).map .results

/-- **A call**: what it returns or raises, and what is kept after it. -/
def call (file : CsvFile τ γ) (cache : CsvCache τ) (c : CsvCall) :
    Except (CsvCallError ε) CsvAnswer × CsvCache τ :=
  if loads config c then
    match loadFile read file cache with
    | .error e => (.error e, cache)
    | .ok cache => ((answer py config cache.content c).mapError .python, cache)
  else ((answer py config cache.content c).mapError .python, cache)

/-- **Reading the file anew**: its rows when it can be read, and those read
last when it cannot. -/
def reread (file : CsvFile τ γ) (lastRead : List CsvEntry) : List CsvEntry :=
  match file.access, read file.content with
  | .readable, .ok [] => []
  | .readable, .ok (keys :: rows) => rows.map (rowToDict keys)
  | _, _ => lastRead

/-! ## Runs -/

/-- A source and its file: with the rows of the content read last, and all
contents the file had, each with its modification time. -/
structure World (τ γ : Type) where
  file : CsvFile τ γ
  cache : CsvCache τ
  lastRead : List CsvEntry
  versions : List (τ × γ)

/-- What happens: the writer leaves a file, or a call is answered. -/
inductive Event (τ γ ε : Type) where
  | write (file : CsvFile τ γ)
  | call (c : CsvCall) (answer : Except (CsvCallError ε) CsvAnswer)

/-- A source that was loaded. -/
structure Loaded (w : World τ γ) : Prop where
  cache : loadFile read w.file {} = .ok w.cache
  lastRead : w.lastRead = reread read w.file []
  versions : w.versions = [(w.file.modified, w.file.content)]

/-- **A step**: a writer that changes the content changes its modification
time, and a call is answered as the plugin answers it. -/
inductive Step : World τ γ → Event τ γ ε → World τ γ → Prop
  /-- The writer leaves a file. -/
  | write {w : World τ γ} {file : CsvFile τ γ} :
      (file.content ≠ w.file.content → file.modified ≠ w.file.modified) →
      Step w (.write file)
        { w with file := file, versions := (file.modified, file.content) :: w.versions }
  /-- A call is answered. -/
  | call {w : World τ γ} {c : CsvCall} :
      Step w (.call c (call read py config w.file w.cache c).1)
        { w with
          cache := (call read py config w.file w.cache c).2
          lastRead := if loads config c then reread read w.file w.lastRead else w.lastRead }

/-- **A call does what it should**: the answer is the one that reading the
file anew gives, it is no exception, and where the file cannot be read
what is kept stays, so that the next call tries again. -/
structure Right (w : World τ γ) (c : CsvCall) (a : Except (CsvCallError ε) CsvAnswer)
    (t : World τ γ) : Prop where
  answer : a = (answer py config (reread read w.file w.lastRead) c).mapError .python
  returns : ∃ r, a = .ok r
  retried : w.file.access ≠ .readable → t.cache = w.cache

/-! ## The condition -/

/-- The file can be loaded: its status is not refused, and what is to be read
of it has a header. -/
def Loadable (file : CsvFile τ γ) (cache : CsvCache τ) : Prop :=
  file.access ≠ .forbidden ∧
    (file.access = .readable → cache.lastModified ≠ some file.modified →
      ∃ keys rows, read file.content = .ok (keys :: rows))

/-- Some rows have an answer: those a call gives can be formatted, and for a
listing every row has the unique column. -/
def Answerable (entries : List CsvEntry) : CsvCall → Prop
  | .search term => ∀ columns, config.searchedColumns = some columns → ∀ entry ∈ entries,
      lowCaseMatchEntry py (py.lower term) columns entry = true →
        CanFormat config.formatColumns.keys entry.keys
  | .firstMatch term => ∀ columns, config.firstMatchedColumns = some columns → ∀ entry,
      entries.find? (exactMatchEntry term columns) = some entry →
        CanFormat config.formatColumns.keys entry.keys
  | .list uniqueIds => ∀ column, config.uniqueColumn = some column → ∀ entry ∈ entries,
      ∃ value, entry.get? column = some value ∧
        (value ∈ uniqueIds → CanFormat config.formatColumns.keys entry.keys)

/-- **The condition on a step**: the writer brings no modification time back
with another content; and for a call the file can be loaded, and its rows
have an answer. -/
def Meets (w : World τ γ) : Event τ γ ε → Prop
  | .write file => ∀ content, (file.modified, content) ∈ w.versions → content = file.content
  | .call c _ => (loads config c = true → Loadable read w.file w.cache) ∧
      Answerable py config (reread read w.file w.lastRead) c

variable {read py config} {file : CsvFile τ γ} {cache cache' : CsvCache τ} {entries : List CsvEntry}
  {lastRead : List CsvEntry} {c : CsvCall} {w t : World τ γ}

/-! ## One call -/

/-- A row can be made a result of by the names of its columns. -/
theorem exists_result_iff {entry : CsvEntry} :
    (∃ r, (keeping config entries).result py entry = .ok r) ↔
      CanFormat config.formatColumns.keys entry.keys :=
  CsvEntry.exists_make_iff

/-- **When some rows have an answer.** -/
theorem exists_answer_iff :
    (∃ r, answer py config entries c = .ok r) ↔ Answerable py config entries c := by
  cases c with
  | search term =>
    rw [answer, exists_map_eq_ok, search, Answerable]
    cases hcolumns : (keeping config entries).config.searchedColumns with
    | none =>
      refine iff_of_true ⟨[], rfl⟩ fun columns h => ?_
      cases hcolumns.symm.trans h
    | some columns =>
      rw [show config.searchedColumns = some columns from hcolumns]
      simp only [Option.some.injEq, forall_eq']
      refine Listing.selects_kept.exists_iff.trans (forall₂_congr fun entry _ => ?_)
      rw [exists_result_iff]
      simp
  | firstMatch term =>
    rw [answer, exists_map_eq_ok, firstMatch, Answerable]
    cases hcolumns : (keeping config entries).config.firstMatchedColumns with
    | none =>
      refine iff_of_true ⟨none, rfl⟩ fun columns h => ?_
      cases hcolumns.symm.trans h
    | some columns =>
      rw [show config.firstMatchedColumns = some columns from hcolumns]
      have hcontent : (keeping config entries).content = entries := rfl
      simp only [Option.some.injEq, forall_eq', Scan.first_eq_find?, hcontent]
      cases entries.find? (exactMatchEntry term columns) with
      | none => exact iff_of_true ⟨none, rfl⟩ fun entry h => by cases h
      | some entry =>
        rw [Option.elim_some, exists_map_eq_ok, exists_result_iff]
        simp
  | list uniqueIds =>
    rw [answer, exists_map_eq_ok, list, Answerable]
    cases hcolumn : (keeping config entries).config.uniqueColumn with
    | none =>
      refine iff_of_true ⟨[], rfl⟩ fun column h => ?_
      cases hcolumn.symm.trans h
    | some column =>
      rw [show config.uniqueColumn = some column from hcolumn, if_neg (Option.some_ne_none column)]
      simp only [Option.some.injEq, forall_eq']
      refine Listing.selects_kept.exists_iff.trans (forall₂_congr fun entry _ => ?_)
      rw [exists_result_iff, isInUniqueIds, makeUnique, hcolumn, Option.bind_some]
      cases entry.get? column with
      | none => simp [bind, Except.bind]
      | some value => simp [bind, Except.bind, pure, Except.pure]

/-- A call that does not load the file is answered the same by any rows. -/
theorem answer_of_not_loads (h : loads config c = false) (entries entries' : List CsvEntry) :
    answer py config entries c = answer py config entries' c := by
  cases c with
  | search term =>
    have hcolumns : config.searchedColumns = none := by simpa [loads] using h
    simp [answer, search, keeping, hcolumns]
  | firstMatch term => cases h
  | list uniqueIds =>
    have hcolumn : config.uniqueColumn = none := by simpa [loads] using h
    simp [answer, list, keeping, hcolumn]

/-- **When a file can be loaded.** -/
theorem exists_loadFile_iff :
    (∃ cache', loadFile read file cache = .ok cache') ↔ Loadable read file cache := by
  unfold loadFile Loadable
  cases haccess : file.access with
  | readable =>
    by_cases hcached : cache.lastModified = some file.modified
    · simp [hcached]
    · rcases hread : read file.content with e | - | ⟨keys, rows⟩ <;> simp [hcached]
  | unopenable => simp
  | missing => simp
  | forbidden => simp

/-- A call that loads the file is answered by what is kept then. -/
theorem call_of_loadFile (hloads : loads config c = true)
    (h : loadFile read file cache = .ok cache') :
    call read py config file cache c =
      ((answer py config cache'.content c).mapError .python, cache') := by
  rw [call, if_pos hloads, h]

/-- A call that does not keeps what is kept. -/
theorem call_of_not_loads (hloads : loads config c = false) :
    call read py config file cache c =
      ((answer py config cache.content c).mapError .python, cache) := by
  rw [call, if_neg (by rw [hloads]; exact Bool.false_ne_true)]

/-! ## The invariant -/

variable (read) in
/-- What is recorded of a world is true: the rows kept are those read last,
no modification time is of two contents, and the recorded one is of the
content whose rows are kept. -/
structure Coherent (w : World τ γ) : Prop where
  kept : w.cache.content = w.lastRead
  current : (w.file.modified, w.file.content) ∈ w.versions
  unique : ∀ m content content', (m, content) ∈ w.versions → (m, content') ∈ w.versions →
    content = content'
  recorded : ∀ m, w.cache.lastModified = some m → ∃ content keys rows, (m, content) ∈ w.versions ∧
    read content = .ok (keys :: rows) ∧ w.cache.content = rows.map (rowToDict keys)

/-- **Loading a file keeps what reading it anew gives**, and leaves what is
recorded true. -/
theorem Coherent.loadFile_spec (h : Coherent read w)
    (hload : loadFile read w.file w.cache = .ok cache') :
    (w.file.access ≠ .readable → cache' = w.cache) ∧
      Coherent read { w with cache := cache', lastRead := reread read w.file w.lastRead } := by
  unfold loadFile at hload
  unfold reread
  cases haccess : w.file.access with
  | missing =>
    rw [haccess] at hload
    cases hload
    exact ⟨fun _ => rfl, h.kept, h.current, h.unique, h.recorded⟩
  | unopenable =>
    rw [haccess] at hload
    cases hload
    exact ⟨fun _ => rfl, h.kept, h.current, h.unique, h.recorded⟩
  | forbidden =>
    rw [haccess] at hload
    cases hload
  | readable =>
    refine ⟨fun hne => absurd rfl hne, ?_⟩
    simp only [haccess] at hload
    by_cases hcached : w.cache.lastModified = some w.file.modified
    · -- the time is that of the content, so its rows are those kept
      rw [if_pos hcached] at hload
      cases hload
      obtain ⟨content, keys, rows, hmem, hread, hrows⟩ := h.recorded _ hcached
      rw [h.unique _ _ _ hmem h.current] at hread
      refine ⟨?_, h.current, h.unique, h.recorded⟩
      simp only [hread]
      exact hrows
    · rw [if_neg hcached] at hload
      rcases hread : read w.file.content with e | - | ⟨keys, rows⟩
      · rw [hread] at hload
        cases hload
      · rw [hread] at hload
        cases hload
      · rw [hread] at hload
        cases hload
        refine ⟨rfl, h.current, h.unique, fun m hm => ?_⟩
        cases hm
        exact ⟨w.file.content, keys, rows, h.current, hread, rfl⟩

/-- It holds of a source that was loaded. -/
theorem Loaded.coherent (h : Loaded read w) : Coherent read w := by
  have hempty : Coherent read { w with cache := {}, lastRead := [] } := by
    refine ⟨rfl, ?_, ?_, fun m hm => by cases hm⟩
    · change _ ∈ w.versions
      rw [h.versions]
      exact List.mem_singleton.2 rfl
    · intro m content content' hmem hmem'
      change _ ∈ w.versions at hmem hmem'
      rw [h.versions, List.mem_singleton] at hmem hmem'
      exact (Prod.mk.inj hmem).2.trans (Prod.mk.inj hmem').2.symm
  have hspec := (hempty.loadFile_spec h.cache).2
  refine ⟨?_, hspec.current, hspec.unique, hspec.recorded⟩
  rw [h.lastRead]
  exact hspec.kept

/-- **A step that meets the condition keeps it.** -/
theorem Coherent.step (h : Coherent read w) {e : Event τ γ ε} (hmeets : Meets read py config w e)
    (hstep : Step read py config w e t) : Coherent read t := by
  cases hstep with
  | @write file hchange =>
    refine ⟨h.kept, List.mem_cons_self, ?_, fun m hm => ?_⟩
    · intro m content content' hmem hmem'
      rcases List.mem_cons.1 hmem with heq | hmem
      · obtain ⟨rfl, rfl⟩ := Prod.mk.inj heq
        rcases List.mem_cons.1 hmem' with heq' | hmem'
        · exact (Prod.mk.inj heq').2.symm
        · exact (hmeets _ hmem').symm
      · rcases List.mem_cons.1 hmem' with heq' | hmem'
        · obtain ⟨rfl, rfl⟩ := Prod.mk.inj heq'
          exact hmeets _ hmem
        · exact h.unique m content content' hmem hmem'
    · obtain ⟨content, keys, rows, hmem, hread, hrows⟩ := h.recorded m hm
      exact ⟨content, keys, rows, List.mem_cons_of_mem _ hmem, hread, hrows⟩
  | @call c =>
    cases hloads : loads config c with
    | true =>
      obtain ⟨cache', hload⟩ := exists_loadFile_iff.2 (hmeets.1 hloads)
      rw [call_of_loadFile hloads hload, if_pos rfl]
      exact (h.loadFile_spec hload).2
    | false =>
      rw [call_of_not_loads hloads, if_neg Bool.false_ne_true]
      exact ⟨h.kept, h.current, h.unique, h.recorded⟩

/-- **When a call does what it should**, where what is recorded is true. -/
theorem Coherent.right_iff (h : Coherent read w) {a : Except (CsvCallError ε) CsvAnswer}
    (hstep : Step read py config w (.call c a) t) :
    Right read py config w c a t ↔ Meets read py config w (.call c a) := by
  cases hstep with
  | call =>
  cases hloads : loads config c with
  | true =>
    constructor
    · intro hright
      obtain ⟨r, hr⟩ := hright.returns
      cases hload : loadFile read w.file w.cache with
      | error e =>
        rw [call, if_pos hloads, hload] at hr
        cases hr
      | ok cache' =>
        refine ⟨fun _ => exists_loadFile_iff.1 ⟨cache', hload⟩, exists_answer_iff.1 ?_⟩
        rw [hright.answer] at hr
        exact exists_mapError_eq_ok.1 ⟨r, hr⟩
    · intro hmeets
      obtain ⟨cache', hload⟩ := exists_loadFile_iff.2 (hmeets.1 hloads)
      obtain ⟨hunchanged, hcoherent⟩ := h.loadFile_spec hload
      rw [call_of_loadFile hloads hload]
      refine ⟨?_, exists_mapError_eq_ok.2 ?_, hunchanged⟩
      · exact congrArg (fun entries => (answer py config entries c).mapError _) hcoherent.kept
      · rw [show cache'.content = reread read w.file w.lastRead from hcoherent.kept]
        exact exists_answer_iff.2 hmeets.2
  | false =>
    rw [call_of_not_loads hloads,
      answer_of_not_loads hloads w.cache.content (reread read w.file w.lastRead)]
    constructor
    · intro hright
      refine ⟨fun h => ?_, exists_answer_iff.1 (exists_mapError_eq_ok.1 hright.returns)⟩
      cases hloads.symm.trans h
    · intro hmeets
      exact ⟨rfl, exists_mapError_eq_ok.2 (exists_answer_iff.2 hmeets.2), fun _ => rfl⟩

end

/-- **When the cache is transparent**: after any run whose steps meet the
condition, a call does what it should exactly when it meets it too. -/
theorem call_right_iff (read : γ → Except ε (List (List String))) (py : TextOps)
    (config : CSVConfig) {w₀ w t : World τ γ} {l : List (Event τ γ ε)} {c : CsvCall}
    {a : Except (CsvCallError ε) CsvAnswer} (hloaded : Loaded read w₀)
    (hrun : Run (Guarded (Meets read py config) (Step read py config)) w₀ l w)
    (hstep : Step read py config w (.call c a) t) :
    Right read py config w c a t ↔ Meets read py config w (.call c a) := by
  have hcoherent : Coherent read w :=
    hrun.invariant hloaded.coherent fun h hs => h.step hs.1 hs.2
  exact hcoherent.right_iff hstep

/-! ## An empty file -/

/-- The lines of a file, each with the line feed that ends it. -/
def fileLines (text : List Char) : List (List Char) :=
  text.foldr (fun c lines =>
    if c = '\n' then [c] :: lines else (c :: lines.headD []) :: lines.tail) []

/-- `csv.reader` of a file of some text, its separator a comma. -/
def csvReader (text : String) : Except Excel.Error (List (List String)) :=
  (Excel.records Excel.fieldSizeLimit {} 0 (fileLines text.toList)).map fun records =>
    records.map fun record => record.2.map String.ofList

/-- Rows are read with their empty lines, a field in quotes with its line
feeds. -/
example : csvReader "id,name\n1,\"a\nb\"\n\n" = .ok [["id", "name"], ["1", "a\nb"], []] := by
  decide

/-- A source searched by name. -/
def namesConfig : CSVConfig := { name := "names", searchedColumns := some ["name"] }

/-- A file of one name. -/
def namesFile : CsvFile ℕ String := ⟨.readable, 0, "name\nAlice\n"⟩

/-- A source of the file, once loaded. -/
def namesWorld : World ℕ String where
  file := namesFile
  cache := ⟨some 0, [Dict.ofList [("name", "Alice")]]⟩
  lastRead := [Dict.ofList [("name", "Alice")]]
  versions := [(0, "name\nAlice\n")]

theorem loaded_namesWorld : Loaded csvReader namesWorld := ⟨rfl, rfl, rfl⟩

/-- The file with a name more, written later. -/
def twoNamesFile : CsvFile ℕ String := ⟨.readable, 1, "name\nAlice\nBob\n"⟩

/-- The source once the writer has left it. -/
def twoNamesWorld : World ℕ String :=
  { namesWorld with
    file := twoNamesFile
    versions := [(1, "name\nAlice\nBob\n"), (0, "name\nAlice\n")] }

theorem write_twoNames : Guarded (Meets csvReader plainText namesConfig)
    (Step csvReader plainText namesConfig) namesWorld (.write twoNamesFile) twoNamesWorld := by
  refine ⟨fun content hcontent => ?_, .write fun _ => by decide⟩
  simp [namesWorld, twoNamesFile] at hcontent

/-- A search after the write is answered with the name that it added. -/
theorem call_right_namesWorld : ∃ a t,
    Step csvReader plainText namesConfig twoNamesWorld (.call (.search "Bo") a) t ∧
      (∃ results, a = .ok (.results results) ∧ results.length = 1) ∧
      Right csvReader plainText namesConfig twoNamesWorld (.search "Bo") a t := by
  refine ⟨_, _, .call, ⟨_, rfl, rfl⟩, ?_⟩
  refine (call_right_iff csvReader plainText namesConfig loaded_namesWorld
    (Run.single write_twoNames) .call).2 ⟨fun _ => ⟨by decide, fun _ _ => ⟨_, _, rfl⟩⟩, ?_⟩
  exact fun _ _ _ _ _ hne => absurd rfl hne

/-- **Once the writer has emptied the file a search raises.** -/
theorem not_right_of_empty :
    ¬ ∀ (w₀ w t : World ℕ String) (l : List (Event ℕ String Excel.Error)) (c : CsvCall)
        (a : Except (CsvCallError Excel.Error) CsvAnswer),
      Loaded csvReader w₀ → Run (Step csvReader plainText namesConfig) w₀ l w →
        Step csvReader plainText namesConfig w (.call c a) t →
          Right csvReader plainText namesConfig w c a t := by
  intro h
  have hwrite : Step csvReader plainText namesConfig namesWorld (.write ⟨.readable, 1, ""⟩)
      { namesWorld with
        file := ⟨.readable, 1, ""⟩
        versions := (1, "") :: namesWorld.versions } := .write fun _ => by decide
  have hright := h _ _ _ _ (.search "Ali") _ loaded_namesWorld (Run.single hwrite) .call
  obtain ⟨r, hr⟩ := hright.returns
  cases hr

end CSVPlugin

end WazoDird
