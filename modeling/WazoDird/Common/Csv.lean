import WazoDird.Common.Dict
import WazoDird.Common.Except
import WazoDird.Common.Value

/-!
# The excel dialect

What the language's `csv` module writes and reads when it is told nothing:
fields apart by commas, quoted when they hold a comma, a quote or the end
of a line, quotes doubled, rows ended by `\r\n`. The reader is fed lines,
and what it is fed is not what was written when a document was cut at its
line feeds: a quoted field goes on from one line to the next, and the line
feed between them is gone (`records_splitOn_rows`).
-/

namespace WazoDird

namespace Excel

/-! ## Writing -/

/-- A character for which a field is quoted. -/
def isSpecial (c : Char) : Bool := c = ',' || c = '"' || c = '\r' || c = '\n'

/-- A quote is written twice. -/
def doubled (c : Char) : List Char := if c = '"' then ['"', '"'] else [c]

/-- A field, quoted when it has to be. -/
def writeField (field : List Char) : List Char :=
  if field.any isSpecial then '"' :: field.flatMap doubled ++ ['"'] else field

/-- The fields of a row, apart by commas. -/
def writeFields : List (List Char) → List Char
  | [] => []
  | [field] => writeField field
  | field :: fields => writeField field ++ ',' :: writeFields fields

/-- `writer.writerow`: the one field of a row is quoted when it is empty. -/
def writeRow (row : List (List Char)) : List Char :=
  (if row = [[]] then ['"', '"'] else writeFields row) ++ ['\r', '\n']

/-! ## Reading -/

/-- Where the reader is. -/
inductive Mode where
  | startRecord
  | startField
  | inField
  | inQuotedField
  | quoteInQuotedField
  | eatCrnl
  deriving DecidableEq, Repr

/-- What the reader raises. -/
inductive Error where
  /-- `field larger than field limit`. -/
  | fieldLimit
  /-- `new-line character seen in unquoted field`. -/
  | newLine
  deriving DecidableEq, Repr

/-- **The reader**: where it is, the field it is in, and the fields of the
record before it. -/
structure Reader where
  mode : Mode := .startRecord
  field : List Char := []
  fields : List (List Char) := []
  deriving DecidableEq, Repr

namespace Reader

variable (limit : ℕ) (s : Reader)

/-- One character more of the field. -/
def addChar (mode : Mode) (c : Char) : Except Error Reader :=
  if limit ≤ s.field.length then .error .fieldLimit
  else .ok { s with mode := mode, field := s.field ++ [c] }

/-- The end of the field. -/
def saveField (mode : Mode) : Reader := { mode := mode, fields := s.fields ++ [s.field] }

/-- What a character does where no quote means anything; none is the end
of the line. -/
def plain : Option Char → Except Error Reader
  | none => .ok (s.saveField .startRecord)
  | some c =>
    if c = '\r' ∨ c = '\n' then .ok (s.saveField .eatCrnl)
    else if c = ',' then .ok (s.saveField .startField)
    else s.addChar limit .inField c

/-- What a character does at the start of a field. -/
def startField (c : Option Char) : Except Error Reader :=
  if c = some '"' then .ok { s with mode := .inQuotedField } else s.plain limit c

/-- **What a character does**; none is the end of the line. -/
def step (c : Option Char) : Except Error Reader :=
  match s.mode with
  | .startRecord =>
    if c = none then .ok s
    else if c = some '\r' ∨ c = some '\n' then .ok { s with mode := .eatCrnl }
    else startField limit s c
  | .startField => startField limit s c
  | .inField => s.plain limit c
  | .inQuotedField =>
    match c with
    | none => .ok s
    | some c =>
      if c = '"' then .ok { s with mode := .quoteInQuotedField }
      else s.addChar limit .inQuotedField c
  | .quoteInQuotedField =>
    if c = some '"' then s.addChar limit .inQuotedField '"' else s.plain limit c
  | .eatCrnl =>
    match c with
    | none => .ok { s with mode := .startRecord }
    | some c => if c = '\r' ∨ c = '\n' then .ok s else .error .newLine

/-- A record, with the number of its last line. -/
abbrev Record := ℕ × List (List Char)

/-- The end of a line: the record it ends, when it ends one, and what is
read after it. -/
def endLine (n : ℕ) (rest : Reader → ℕ → Except Error (List Record)) :
    Except Error (List Record) := do
  let s ← s.step limit none
  if s.mode = .startRecord then
    return (n + 1, s.fields) :: (← rest {} (n + 1))
  else rest s (n + 1)

end Reader

open Reader

variable (limit : ℕ)

/-- **The records of lines**, after `n` of them. A quoted field no line
ends is taken as it is. -/
def records : Reader → ℕ → List (List Char) → Except Error (List Record)
  | s, n, [] =>
    .ok (if s.field ≠ [] ∨ s.mode = .inQuotedField then [(n, s.fields ++ [s.field])] else [])
  | s, n, line :: lines => do
    let s ← line.foldlM (fun s c => step limit s (some c)) s
    s.endLine limit n fun s n => records s n lines

/-- The row of a `DictReader`: cells past the names are a list under no
name, and names past the cells have none. -/
def dictRow (names row : List (List Char)) : Dict (Option String) Value :=
  let d := Dict.ofList ((names.zip row).map fun (name, cell) =>
    (some (String.ofList name), Value.str (String.ofList cell)))
  if names.length < row.length then
    d.set none (.list ((row.drop names.length).map fun cell => .str (String.ofList cell)))
  else d.setAll ((names.drop row.length).map fun name => (some (String.ofList name), Value.none))

/-- The rows of a `DictReader`: the first record names the cells of the
others, of which empty ones are passed over. -/
def dictRows : List Record → List (ℕ × Dict (Option String) Value)
  | [] => []
  | (_, names) :: rows =>
    (rows.filter fun row => row.2 ≠ []).map fun row => (row.1, dictRow names row.2)

/-- **`csv.DictReader`**, each row with the number of its last line. -/
def dictReader (lines : List (List Char)) :
    Except Error (List (ℕ × Dict (Option String) Value)) := do
  return dictRows (← records limit {} 0 lines)

section Rows

variable {names row : List (List Char)} {f : List Char → List Char}

/-- A row with one cell for each name. -/
theorem dictRow_of_length (h : row.length = names.length) :
    dictRow names row = Dict.ofList ((names.zip row).map fun (name, cell) =>
      (some (String.ofList name), Value.str (String.ofList cell))) := by
  rw [dictRow, if_neg (by omega), h, List.drop_length, List.map_nil, Dict.setAll_nil]

/-- Its keys are the names. -/
theorem mem_of_get?_dictRow (h : row.length = names.length) {k : Option String} {v : Value}
    (hget : (dictRow names row).get? k = some v) :
    ∃ name ∈ names, k = some (String.ofList name) := by
  rw [dictRow_of_length h] at hget
  obtain ⟨⟨name, cell⟩, hmem, heq⟩ := List.mem_map.1 (Dict.mem_of_get?_ofList hget)
  exact ⟨name, (List.of_mem_zip hmem).1, (Prod.mk.inj heq).1.symm⟩

theorem dictRow_map : dictRow names (names.map f) =
    Dict.ofList (names.map fun name =>
      (some (String.ofList name), .str (String.ofList (f name)))) := by
  rw [dictRow_of_length (List.length_map _), List.zip_map_right, List.map_map,
    List.zip_eq_zipWith, List.zipWith_self, List.map_map]
  rfl

/-- Where the cells depend on the names, each is under its own. -/
theorem get?_dictRow (k : Option String) :
    (dictRow names (names.map f)).get? k = k.bind fun name =>
      if name.toList ∈ names then some (.str (String.ofList (f name.toList))) else none := by
  refine Option.ext fun v => ?_
  rw [dictRow_map, Dict.get?_ofList_eq_some_iff]
  · rw [List.mem_map]
    constructor
    · rintro ⟨name, hname, heq⟩
      cases heq
      simp [hname]
    · intro h
      obtain ⟨name, rfl, hcell⟩ := Option.bind_eq_some_iff.1 h
      split at hcell
      · next hname =>
        refine ⟨name.toList, hname, ?_⟩
        rw [String.ofList_toList, Option.some.inj hcell]
      · cases hcell
  · intro k v v' hv hv'
    obtain ⟨name, -, heq⟩ := List.mem_map.1 hv
    obtain ⟨name', -, heq'⟩ := List.mem_map.1 hv'
    cases heq
    obtain ⟨hk, rfl⟩ := Prod.mk.inj heq'
    rw [String.ofList_inj.1 (Option.some.inj hk)]

end Rows

/-- `csv.field_size_limit()`. -/
def fieldSizeLimit : ℕ := 131072

/-! ## Reading what was written

A document is read here character by character, a line feed being the end
of a line: that is what the reader makes of its lines (`records_splitOn`). -/

section ReadBack

variable {limit} {s : Reader} {n : ℕ} {c : Char} {cs f g : List Char} {fs : List (List Char)}

/-- A document, character by character. -/
def scan (limit : ℕ) : Reader → ℕ → List Char → Except Error (List Record)
  | s, n, [] => s.endLine limit n fun s n => records limit s n []
  | s, n, c :: cs =>
    if c = '\n' then s.endLine limit n fun s n => scan limit s n cs
    else do
      let s ← s.step limit (some c)
      scan limit s n cs

/-- **The lines of a document** are read as its characters are. -/
theorem records_splitOn : records limit s n (cs.splitOn '\n') = scan limit s n cs := by
  induction cs generalizing s n with
  | nil => rfl
  | cons c cs ih =>
      rw [List.splitOn_cons_eq_if_modifyHead, scan]
      by_cases hc : c = '\n'
      · rw [if_pos (by simpa using hc), if_pos hc, records]
        simp only [ih]
        rfl
      · rw [if_neg (by simpa using hc), if_neg hc]
        simp only [← ih]
        cases hlines : cs.splitOn '\n' with
        | nil => exact absurd hlines (List.splitOn_ne_nil _ _)
        | cons line lines =>
            simp only [List.modifyHead_cons, records, List.foldlM_cons, bind_assoc]

theorem scan_cons (hc : c ≠ '\n') :
    scan limit s n (c :: cs) = s.step limit (some c) >>= fun s => scan limit s n cs :=
  if_neg hc

/-- What is left of a field that is cut at its line feeds. -/
def joined (f : List Char) : List Char := f.filter (· ≠ '\n')

/-- A field cut at its line feeds, when it is read at all. -/
def readField (limit : ℕ) (f : List Char) : Except Error (List Char) :=
  if (joined f).length ≤ limit then .ok (joined f) else .error .fieldLimit

/-- A character kept in the field. -/
theorem addChar_bind {mode m : Mode} {k : Reader → Except Error (List Record)} :
    (Reader.addChar limit ⟨m, g, fs⟩ mode c >>= k) =
      if limit ≤ g.length then .error .fieldLimit else k ⟨mode, g ++ [c], fs⟩ := by
  rw [addChar]
  split <;> rfl

/-- A field that needs no quotes, character by character. -/
theorem scan_inField (hg : g.length ≤ limit) (hf : ∀ c ∈ f, isSpecial c = false) :
    scan limit ⟨.inField, g, fs⟩ n (f ++ cs) =
      if g.length + f.length ≤ limit then scan limit ⟨.inField, g ++ f, fs⟩ n cs
      else .error .fieldLimit := by
  induction f generalizing g with
  | nil => simp [hg]
  | cons c f ih =>
      rw [List.forall_mem_cons] at hf
      obtain ⟨hc, hf⟩ := hf
      simp only [isSpecial, Bool.or_eq_false_iff, decide_eq_false_iff_not] at hc
      obtain ⟨⟨⟨hcomma, -⟩, hcr⟩, hlf⟩ := hc
      have hstep : Reader.step limit ⟨.inField, g, fs⟩ (some c) =
          Reader.addChar limit ⟨.inField, g, fs⟩ .inField c := by
        simp [step, plain, hcomma, hcr, hlf]
      rw [List.cons_append, scan_cons hlf, hstep, addChar_bind]
      by_cases hlim : limit ≤ g.length
      · rw [if_pos hlim, if_neg (by simp; omega)]
      · rw [if_neg hlim, ih (by simp; omega) hf]
        simp [Nat.add_assoc, Nat.add_comm 1]

/-- A quoted field, character by character: its line feeds end lines, and
are gone. -/
theorem scan_inQuotedField (hg : g.length ≤ limit) :
    scan limit ⟨.inQuotedField, g, fs⟩ n (f.flatMap doubled ++ cs) =
      if g.length + (joined f).length ≤ limit then
        scan limit ⟨.inQuotedField, g ++ joined f, fs⟩ (n + f.count '\n') cs
      else .error .fieldLimit := by
  induction f generalizing g n with
  | nil => simp [hg, joined]
  | cons c f ih =>
      rw [List.flatMap_cons, List.append_assoc]
      by_cases hlf : c = '\n'
      · subst hlf
        have hjoined : joined ('\n' :: f) = joined f := rfl
        have hline : scan limit ⟨.inQuotedField, g, fs⟩ n ('\n' :: (f.flatMap doubled ++ cs)) =
            scan limit ⟨.inQuotedField, g, fs⟩ (n + 1) (f.flatMap doubled ++ cs) := rfl
        rw [show doubled '\n' = ['\n'] from rfl, List.singleton_append, hline, ih hg, hjoined,
          List.count_cons_self, Nat.add_assoc, Nat.add_comm 1]
      · have hjoined : joined (c :: f) = c :: joined f := by simp [joined, hlf]
        -- one character more, a quote having been written twice
        have hchar : scan limit ⟨.inQuotedField, g, fs⟩ n
            (doubled c ++ (f.flatMap doubled ++ cs)) =
              if limit ≤ g.length then .error .fieldLimit
              else scan limit ⟨.inQuotedField, g ++ [c], fs⟩ n (f.flatMap doubled ++ cs) := by
          by_cases hq : c = '"'
          · subst hq
            exact addChar_bind
          · have hstep : Reader.step limit ⟨.inQuotedField, g, fs⟩ (some c) =
                Reader.addChar limit ⟨.inQuotedField, g, fs⟩ .inQuotedField c := by
              simp [step, hq]
            rw [doubled, if_neg hq, List.singleton_append, scan_cons hlf, hstep, addChar_bind]
        rw [hchar, hjoined, List.count_cons_of_ne (by simpa using hlf)]
        by_cases hlim : limit ≤ g.length
        · rw [if_pos hlim, if_neg (by simp; omega)]
        · rw [if_neg hlim, ih (by simp; omega)]
          simp [Nat.add_assoc, Nat.add_comm 1]

/-- Where a field may end. -/
def Mode.Closes (m : Mode) : Prop := m = .startField ∨ m = .inField ∨ m = .quoteInQuotedField

/-- **A field reads back as it was**, less its line feeds. -/
theorem scan_writeField : ∃ m : Mode, m.Closes ∧
    scan limit ⟨.startField, [], fs⟩ n (writeField f ++ cs) =
      readField limit f >>= fun g => scan limit ⟨m, g, fs⟩ (n + f.count '\n') cs := by
  unfold writeField
  split
  · refine ⟨.quoteInQuotedField, Or.inr (Or.inr rfl), ?_⟩
    have hopen : ∀ cs, scan limit ⟨.startField, [], fs⟩ n ('"' :: cs) =
        scan limit ⟨.inQuotedField, [], fs⟩ n cs := fun _ => rfl
    rw [List.cons_append, List.cons_append, hopen, List.append_assoc,
      scan_inQuotedField (Nat.zero_le _), readField]
    simp only [List.length_nil, Nat.zero_add, List.nil_append]
    split <;> rfl
  · next hplain =>
    have hf : ∀ c ∈ f, isSpecial c = false := by simpa using hplain
    have hjoined : joined f = f := List.filter_eq_self.2 fun c hc => by
      have := hf c hc
      simp only [isSpecial, Bool.or_eq_false_iff] at this
      simpa using this.2
    have hcount : f.count '\n' = 0 := by
      rw [List.count_eq_zero]
      intro hmem
      exact absurd (hf _ hmem) (by decide)
    rw [readField, hjoined, hcount]
    cases f with
    | nil => exact ⟨.startField, Or.inl rfl, by simp; rfl⟩
    | cons c f =>
      refine ⟨.inField, Or.inr (Or.inl rfl), ?_⟩
      have hc := hf c List.mem_cons_self
      simp only [isSpecial, Bool.or_eq_false_iff, decide_eq_false_iff_not] at hc
      -- the first character of a field is one of the field
      have hopen : scan limit ⟨.startField, [], fs⟩ n (c :: (f ++ cs)) =
          scan limit ⟨.inField, [], fs⟩ n (c :: (f ++ cs)) := by
        rw [scan_cons hc.2, scan_cons hc.2]
        simp [step, startField, plain, addChar, hc]
      rw [List.cons_append, hopen, ← List.cons_append, scan_inField (Nat.zero_le _) hf]
      simp only [List.length_nil, Nat.zero_add, List.nil_append]
      split <;> rfl

variable {m : Mode} {row : List (List Char)} {rows : List (List (List Char))}

/-- A comma ends a field. -/
theorem scan_comma (hm : m.Closes) :
    scan limit ⟨m, g, fs⟩ n (',' :: cs) = scan limit ⟨.startField, [], fs ++ [g]⟩ n cs := by
  rcases hm with rfl | rfl | rfl <;> rfl

/-- A line end ends a record. -/
theorem scan_lineEnd (hm : m.Closes) :
    scan limit ⟨m, g, fs⟩ n ('\r' :: '\n' :: cs) =
      (scan limit {} (n + 1) cs >>= fun records => pure ((n + 1, fs ++ [g]) :: records)) := by
  rcases hm with rfl | rfl | rfl <;> rfl

theorem writeFields_cons (hrow : row ≠ []) :
    writeFields (f :: row) = writeField f ++ ',' :: writeFields row := by
  cases row with
  | nil => exact absurd rfl hrow
  | cons f' row => rfl

/-- The fields of a row, one after the other. -/
theorem scan_writeFields (hrow : row ≠ []) :
    ∃ n', scan limit ⟨.startField, [], fs⟩ n (writeFields row ++ '\r' :: '\n' :: cs) =
      (row.mapM (readField limit) >>= fun gs => scan limit {} n' cs >>= fun records =>
        pure ((n', fs ++ gs) :: records)) := by
  induction row generalizing fs n with
  | nil => exact absurd rfl hrow
  | cons f row ih =>
      by_cases hlast : row = []
      · subst hlast
        obtain ⟨m, hm, hscan⟩ := @scan_writeField limit n ('\r' :: '\n' :: cs) f fs
        refine ⟨n + f.count '\n' + 1, ?_⟩
        rw [writeFields, hscan, List.mapM_cons]
        simp [scan_lineEnd hm]
      · obtain ⟨m, hm, hscan⟩ := @scan_writeField limit n
          (',' :: (writeFields row ++ '\r' :: '\n' :: cs)) f fs
        have htext : writeFields (f :: row) ++ '\r' :: '\n' :: cs =
            writeField f ++ ',' :: (writeFields row ++ '\r' :: '\n' :: cs) := by
          rw [writeFields_cons hlast, List.append_assoc, List.cons_append]
        cases hf : readField limit f with
        | error e =>
            refine ⟨0, ?_⟩
            rw [htext, hscan, List.mapM_cons, hf]
            rfl
        | ok g =>
            obtain ⟨n', ih⟩ := @ih (n + f.count '\n') (fs ++ [g]) hlast
            refine ⟨n', ?_⟩
            rw [htext, hscan, List.mapM_cons, hf]
            refine (scan_comma hm).trans (ih.trans ?_)
            cases row.mapM (readField limit) with
            | error e => rfl
            | ok gs =>
                show _ = scan limit {} n' cs >>= fun records =>
                  pure ((n', fs ++ (g :: gs)) :: records)
                rw [List.append_cons fs g gs]
                rfl

/-- What is written of a row begins with no line end. -/
theorem writeFields_head (hrow : row ≠ []) (hone : row ≠ [[]]) :
    ∃ c cs, writeFields row = c :: cs ∧ c ≠ '\r' ∧ c ≠ '\n' := by
  have hfield : ∀ f, f ≠ [] → ∃ c cs, writeField f = c :: cs ∧ c ≠ '\r' ∧ c ≠ '\n' := by
    intro f hne
    unfold writeField
    split
    · exact ⟨_, _, rfl, by decide, by decide⟩
    · next hplain =>
      cases f with
      | nil => exact absurd rfl hne
      | cons c f =>
        have hc : isSpecial c = false := by simpa using (by simpa using hplain : _ ∧ _).1
        simp only [isSpecial, Bool.or_eq_false_iff, decide_eq_false_iff_not] at hc
        exact ⟨c, f, rfl, hc.1.2, hc.2⟩
  match row with
  | [] => exact absurd rfl hrow
  | [f] => exact hfield f fun hf => hone (by rw [hf])
  | f :: f' :: row =>
    by_cases hf : f = []
    · subst hf
      exact ⟨',', _, rfl, by decide, by decide⟩
    · obtain ⟨c, cs, hcs, hc⟩ := hfield f hf
      refine ⟨c, cs ++ ',' :: writeFields (f' :: row), ?_, hc⟩
      rw [writeFields_cons (List.cons_ne_nil _ _), hcs, List.cons_append]

/-- **A row reads back as it was**, less the line feeds of its fields. -/
theorem scan_writeRow :
    ∃ n', scan limit {} n (writeRow row ++ cs) =
      (row.mapM (readField limit) >>= fun gs => scan limit {} n' cs >>= fun records =>
        pure ((n', gs) :: records)) := by
  by_cases hrow : row = []
  · subst hrow
    exact ⟨n + 1, rfl⟩
  by_cases hone : row = [[]]
  · subst hone
    exact ⟨n + 1, rfl⟩
  obtain ⟨n', hscan⟩ := @scan_writeFields limit n cs [] row hrow
  obtain ⟨c, rest, hhead, hcr, hlf⟩ := writeFields_head hrow hone
  refine ⟨n', ?_⟩
  rw [writeRow, if_neg hone, List.append_assoc]
  have hopen : scan limit {} n (c :: (rest ++ ['\r', '\n'] ++ cs)) =
      scan limit ⟨.startField, [], []⟩ n (c :: (rest ++ ['\r', '\n'] ++ cs)) := by
    rw [scan_cons hlf, scan_cons hlf]
    simp [step, hcr, hlf, startField, plain, addChar, saveField]
  rw [hhead] at hscan ⊢
  simpa using hopen.trans (by simpa using hscan)

/-- **What was written, cut at its line feeds, reads back** as the rows,
less the line feeds of their fields, and an empty record for what is after
the last line feed. -/
theorem records_splitOn_rows :
    (records limit {} n ((rows.flatMap writeRow).splitOn '\n')).map (·.map Prod.snd) =
      (rows.mapM fun row : List (List Char) => row.mapM (readField limit)).map (· ++ [[]]) := by
  rw [records_splitOn]
  induction rows generalizing n with
  | nil => rfl
  | cons row rows ih =>
      obtain ⟨n', hrow⟩ := @scan_writeRow limit n (rows.flatMap writeRow) row
      rw [List.flatMap_cons, hrow, List.mapM_cons]
      cases row.mapM (readField limit) with
      | error e => rfl
      | ok gs =>
          have hcons : ∀ x : Except Error (List Record),
              (x >>= fun records => pure ((n', gs) :: records)).map (·.map Prod.snd) =
                (x.map (·.map Prod.snd)).map (gs :: ·) := by
            intro x
            cases x <;> rfl
          refine (hcons _).trans ?_
          rw [ih]
          cases rows.mapM fun row : List (List Char) => row.mapM (readField limit) <;> rfl

/-- **A `DictReader` of what was written.** -/
theorem dictReader_rows {names : List (List Char)} :
    (dictReader limit (((names :: rows).flatMap writeRow).splitOn '\n')).map (·.map Prod.snd) =
      (do
        let names ← names.mapM (readField limit)
        let rows ← rows.mapM fun row : List (List Char) => row.mapM (readField limit)
        return (rows.filter (· ≠ [])).map (dictRow names)) := by
  have hrows := @records_splitOn_rows limit 0 (names :: rows)
  -- the rows depend on the records, not on their numbers
  have hsnd : ∀ records : List Record, (dictRows records).map Prod.snd =
      match records.map Prod.snd with
      | [] => []
      | names :: rows => (rows.filter (· ≠ [])).map (dictRow names) := by
    intro records
    cases records with
    | nil => rfl
    | cons record records =>
        obtain ⟨n, names⟩ := record
        show _ = ((records.map Prod.snd).filter (· ≠ [])).map (dictRow names)
        rw [dictRows, List.map_map, List.filter_map, List.map_map]
        rfl
  have hmap : ∀ x : Except Error (List Record),
      (x >>= fun records => pure (dictRows records)).map (·.map Prod.snd) =
        (x.map (·.map Prod.snd)).map fun records => match records with
          | [] => []
          | names :: rows => (rows.filter (· ≠ [])).map (dictRow names) := by
    intro x
    cases x with
    | error e => rfl
    | ok records => exact congrArg Except.ok (hsnd records)
  refine (hmap _).trans ?_
  rw [hrows, List.mapM_cons]
  cases names.mapM (readField limit) with
  | error e => rfl
  | ok names =>
      cases rows.mapM fun row : List (List Char) => row.mapM (readField limit) with
      | error e => rfl
      | ok rows =>
          refine congrArg Except.ok (congrArg (List.map (dictRow names)) ?_)
          exact (List.filter_append _ _).trans (List.append_nil _)

/-- A field that is read. -/
theorem readField_eq_ok : readField limit f = .ok g ↔ (joined f).length ≤ limit ∧ g = joined f := by
  rw [readField]
  split
  · next h => simp [h, eq_comm]
  · next h => simp [h]

/-- Rows that are read. -/
theorem mapM_readField_eq_ok {gss : List (List (List Char))} :
    (rows.mapM fun row : List (List Char) => row.mapM (readField limit)) = .ok gss ↔
      (∀ row ∈ rows, ∀ f ∈ row, (joined f).length ≤ limit) ∧
        gss = rows.map fun row => row.map joined :=
  mapM_eq_ok_iff_map (mapM_eq_ok_iff_map readField_eq_ok)

/-- A field without a line feed is read as it is. -/
theorem joined_eq_self : joined f = f ↔ '\n' ∉ f := by
  rw [joined, List.filter_eq_self]
  constructor
  · intro h hmem
    exact absurd (h _ hmem) (by decide)
  · intro h c hc
    simpa using fun hcf : c = '\n' => h (hcf ▸ hc)

theorem not_mem_joined : '\n' ∉ joined f := by
  intro hmem
  exact absurd (List.mem_filter.1 hmem).2 (by decide)

end ReadBack

end Excel

end WazoDird
