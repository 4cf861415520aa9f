import WazoDird.Backends.SourceResult

/-!
# Format columns

What `_NoErrorFormatter` gives and in what order it gives it. A formatter
reads the fields by their names, through `get_value`, and what it writes
is stripped. A format column is added to the fields before the next one is
formatted, so the order of the columns shows in the result exactly when
one of them reads another.
-/

namespace WazoDird

/-! ## A formatter -/

/-- `_NoErrorFormatter.get_value`, of a name. -/
def getValue (fields : Fields) (key : String) : Value :=
  match fields.get? key with
  | none | some .none => .str ""
  | some value => value

/-- A blank, as `strip` knows it. -/
def TextOps.isBlank (py : TextOps) (c : Char) : Bool :=
  if c.toNat < 128 then
    c = ' ' || (9 ≤ c.toNat && c.toNat ≤ 13) || (28 ≤ c.toNat && c.toNat ≤ 31)
  else py.isSpace c

/-- `s.strip()`. -/
def TextOps.strip (py : TextOps) (s : String) : String :=
  String.ofList (WazoDird.strip py.isBlank s.toList)

/-- **The language with a formatter**: `Formatter.format` makes its text of
a format string and of the values of names, and may raise. -/
def TextOps.formatting (py : TextOps) (vformat : String → (String → Value) → Option String) :
    TextOps :=
  { py with format := fun formatString fields =>
      (vformat formatString (getValue fields)).map py.strip }

/-- Text that has no blank at either end. -/
def TextOps.Stripped (py : TextOps) (s : String) : Prop :=
  (∀ c ∈ s.toList.head?, py.isBlank c = false) ∧ ∀ c ∈ s.toList.getLast?, py.isBlank c = false

/-- What is left of the beginning of a list has its beginning. -/
theorem head?_of_prefix {α : Type*} {l l' : List α} (h : l <+: l') {a : α}
    (ha : l.head? = some a) : l'.head? = some a := by
  obtain ⟨rest, rfl⟩ := h
  rw [List.head?_append, ha]
  rfl

/-- **What `strip` gives is stripped.** -/
theorem TextOps.stripped_strip (py : TextOps) (s : String) : py.Stripped (py.strip s) := by
  simp only [Stripped, TextOps.strip, String.toList_ofList]
  constructor
  · intro c hc
    have hdrop := head?_of_prefix (List.rdropWhile_prefix py.isBlank _) hc
    have := List.head?_dropWhile_not py.isBlank s.toList
    rw [hdrop] at this
    simpa using this
  · intro c hc
    obtain ⟨hne, hlast⟩ := List.mem_getLast?_eq_getLast hc
    have := List.rdropWhile_last_not py.isBlank (s.toList.dropWhile py.isBlank) hne
    rw [hlast]
    exact Bool.eq_false_iff.2 this

variable {py : TextOps} {vformat : String → (String → Value) → Option String}

/-- What a formatter makes of fields depends on the values it can get. -/
theorem format_congr {fields fields' : Fields} (h : fields.Same fields') (formatString : String) :
    (py.formatting vformat).format formatString fields =
      (py.formatting vformat).format formatString fields' := by
  have hget : getValue fields = getValue fields' := by
    funext key
    rw [getValue, getValue, Dict.same_iff.1 h key]
  simp only [TextOps.formatting, hget]

/-! ## Columns one after another -/

variable (py) in
/-- The value of a format column: its text, or none when there is none. -/
def columnValue (formatString : String) (fields : Fields) : Value :=
  match py.format formatString fields with
  | none | some "" => .none
  | some value => .str value

variable (py) in
/-- `_add_formatted_columns`, of the columns that are left. -/
def addFormatColumns (entries : List (String × String)) (fields : Fields) : Except PyError Fields :=
  entries.foldlM (fun fields (column, formatString) => do
    let value ← noErrorFormat py formatString fields
    return fields.set column (match value with
      | none | some "" => .none
      | some value => .str value)) fields

theorem addFormattedColumns_eq (formatColumns : Dict String String) (fields : Fields) :
    addFormattedColumns py formatColumns fields = addFormatColumns py formatColumns.entries fields :=
  rfl

/-- No parameter of a formatter is among the names. -/
def Callable (names : List String) : Prop := ∀ name ∈ formatParameters, name ∉ names

instance (names : List String) : Decidable (Callable names) :=
  inferInstanceAs (Decidable (∀ name ∈ formatParameters, name ∉ names))

variable {fields : Fields} {entries : List (String × String)} {entry : String × String}

/-- A column that can be formatted is, and then the ones after it. -/
theorem addFormatColumns_cons (h : Callable fields.keys) :
    addFormatColumns py (entry :: entries) fields =
      addFormatColumns py entries (fields.set entry.1 (columnValue py entry.2 fields)) := by
  have hcall : noErrorFormat py entry.2 fields = .ok (py.format entry.2 fields) :=
    if_neg fun ⟨name, hname, hmem⟩ => h name hname hmem
  simp only [addFormatColumns, List.foldlM_cons, hcall, columnValue]
  rfl

/-- A column that cannot be formatted ends it. -/
theorem addFormatColumns_cons_error (h : ¬ Callable fields.keys) :
    addFormatColumns py (entry :: entries) fields = .error .typeError := by
  have hnamed : ∃ name ∈ formatParameters, name ∈ fields.keys := by
    by_contra hnone
    exact h fun name hname hmem => hnone ⟨name, hname, hmem⟩
  have hcall : noErrorFormat py entry.2 fields = .error .typeError := if_pos hnamed
  simp only [addFormatColumns, List.foldlM_cons, hcall]
  rfl

/-- Columns, and then others. -/
theorem addFormatColumns_append (entries' : List (String × String)) :
    addFormatColumns py (entries ++ entries') fields =
      addFormatColumns py entries fields >>= addFormatColumns py entries' := by
  rw [addFormatColumns, List.foldlM_append]
  rfl

/-- What is raised is a `TypeError`. -/
theorem addFormatColumns_eq_error {e : PyError} (h : addFormatColumns py entries fields = .error e) :
    e = .typeError := by
  induction entries generalizing fields with
  | nil => cases h
  | cons entry entries ih =>
    by_cases hcall : Callable fields.keys
    · rw [addFormatColumns_cons hcall] at h
      exact ih h
    · rw [addFormatColumns_cons_error hcall] at h
      cases h
      rfl

/-- What is added, one column after another. -/
theorem addFormatColumns_eq_ok {formatted : Fields}
    (h : addFormatColumns py entries fields = .ok formatted) :
    formatted = entries.foldl (fun fields entry =>
      fields.set entry.1 (columnValue py entry.2 fields)) fields := by
  induction entries generalizing fields with
  | nil =>
    cases h
    rfl
  | cons entry entries ih =>
    by_cases hcall : Callable fields.keys
    · rw [addFormatColumns_cons hcall] at h
      exact ih h
    · rw [addFormatColumns_cons_error hcall] at h
      cases h

/-- A column that none of them writes stays. -/
theorem get?_addFormatColumns {formatted : Fields}
    (h : addFormatColumns py entries fields = .ok formatted) {column : String}
    (hcolumn : column ∉ entries.map Prod.fst) :
    formatted.get? column = fields.get? column := by
  induction entries generalizing fields with
  | nil =>
    cases h
    rfl
  | cons entry entries ih =>
    rw [List.map_cons, List.mem_cons, not_or] at hcolumn
    by_cases hcall : Callable fields.keys
    · rw [addFormatColumns_cons hcall] at h
      rw [ih h hcolumn.2, Dict.get?_set_of_ne _ _ (Ne.symm hcolumn.1)]
    · rw [addFormatColumns_cons_error hcall] at h
      cases h

/-! ## What a column ends up as -/

/-- A value that a formatter gives: none, or text that is stripped. -/
def Formatted (py : TextOps) (value : Value) : Prop :=
  value = .none ∨ ∃ text, value = .str text ∧ text ≠ "" ∧ py.Stripped text

theorem formatted_columnValue (py : TextOps)
    (vformat : String → (String → Value) → Option String) (formatString : String)
    (fields : Fields) : Formatted py (columnValue (py.formatting vformat) formatString fields) := by
  unfold columnValue
  split
  · exact Or.inl rfl
  · exact Or.inl rfl
  · next text hne htext =>
    refine Or.inr ⟨text, rfl, hne, ?_⟩
    obtain ⟨raw, -, rfl⟩ := Option.map_eq_some_iff.1 htext
    exact py.stripped_strip raw

/-- **Every column that is written ends up formatted.** -/
theorem get?_column {formatted : Fields}
    (h : addFormatColumns (py.formatting vformat) entries fields = .ok formatted) {column : String}
    (hcolumn : column ∈ entries.map Prod.fst) :
    ∃ value, formatted.get? column = some value ∧ Formatted py value := by
  induction entries generalizing fields with
  | nil => cases hcolumn
  | cons entry entries ih =>
    by_cases hcall : Callable fields.keys
    · rw [addFormatColumns_cons hcall] at h
      by_cases hlater : column ∈ entries.map Prod.fst
      · exact ih h hlater
      · obtain rfl : column = entry.1 := (List.mem_cons.1 hcolumn).resolve_right hlater
        refine ⟨_, ?_, formatted_columnValue py vformat entry.2 fields⟩
        rw [get?_addFormatColumns h hlater, Dict.get?_set_self]
    · rw [addFormatColumns_cons_error hcall] at h
      cases h

/-- **A result is built cleanly**: it is built, its format columns are
formatted, and its other fields are the contact's. -/
def BuildsCleanly (py : TextOps) (cls : ResultClass) (fields : Fields) (relations : Relations) :
    Prop :=
  ∃ entry, cls.make py fields relations = .ok entry ∧
    (∀ column ∈ cls.formatColumns.keys, ∃ value,
      entry.fields.get? column = some value ∧ Formatted py value) ∧
    ∀ column, column ∉ cls.formatColumns.keys →
      entry.fields.get? column = fields.get? column

/-- **A result is built cleanly exactly when its columns can be formatted**:
no field, and no column but the last, is named as a parameter of the
formatter. -/
theorem buildsCleanly_iff (py : TextOps) (vformat : String → (String → Value) → Option String)
    (cls : ResultClass) (fields : Fields) (relations : Relations) :
    BuildsCleanly (py.formatting vformat) cls fields relations ↔
      CanFormat cls.formatColumns.keys fields.keys := by
  refine Iff.trans ?_ (@ResultClass.exists_make_iff (py.formatting vformat) cls fields relations)
  constructor
  · rintro ⟨entry, hmake, -, -⟩
    exact ⟨entry, hmake⟩
  · rintro ⟨entry, hmake⟩
    refine ⟨entry, hmake, ?_⟩
    obtain ⟨formatted, hformatted, hentry⟩ := bind_eq_ok.1 hmake
    cases hentry
    refine ⟨fun column hcolumn => ?_, fun column hcolumn => ?_⟩
    · exact get?_column hformatted hcolumn
    · exact get?_addFormatColumns hformatted hcolumn

/-- A formatter of format strings that are one name in braces. -/
def formatName (formatString : String) (getValue : String → Value) : Option String :=
  (getValue (String.ofList (formatString.toList.filter fun c => c ≠ '{' ∧ c ≠ '}'))).asStr?

/-- A contact with a field named `self` cannot be shown by a source that
formats a column. -/
theorem not_buildsCleanly : ¬ ∀ (py : TextOps) (vformat : String → (String → Value) → Option String)
    (cls : ResultClass) (fields : Fields) (relations : Relations),
    BuildsCleanly (py.formatting vformat) cls fields relations := by
  intro h
  obtain ⟨entry, hmake, -⟩ := h plainText formatName
    (makeResultClass "phonebook" "book" none (some (Dict.ofList [("reverse", "\x7bfirstname\x7d")])))
    (Dict.ofList [("firstname", .str "Ann"), ("self", .str "x")]) {}
  have hcan := (ResultClass.exists_make_iff _).1 ⟨entry, hmake⟩
  exact absurd hcan (by decide)

/-! ## The order of the columns -/

/-- Two outcomes that are one: the same fields, or the same error. -/
def SameOutcome : Except PyError Fields → Except PyError Fields → Prop
  | .ok formatted, .ok formatted' => formatted.Same formatted'
  | .error e, .error e' => e = e'
  | _, _ => False

instance : (outcome outcome' : Except PyError Fields) → Decidable (SameOutcome outcome outcome')
  | .ok formatted, .ok formatted' => inferInstanceAs (Decidable (formatted.Same formatted'))
  | .error e, .error e' => inferInstanceAs (Decidable (e = e'))
  | .ok _, .error _ | .error _, .ok _ => inferInstanceAs (Decidable False)

/-- **The order of format columns does not matter**, for the fields of a
contact: what is stored without an order gives one result. -/
def OrderFree (py : TextOps) (formatColumns : Dict String String) (fields : Fields) : Prop :=
  ∀ reordered : Dict String String, reordered.Same formatColumns →
    SameOutcome (addFormattedColumns py reordered fields)
      (addFormattedColumns py formatColumns fields)

variable (py fields entries) in
/-- The fields, with columns at the values formatted from the fields alone. -/
def withOwn : Fields :=
  fields.setAll (entries.map fun entry => (entry.1, columnValue py entry.2 fields))

/-- Format columns do not read each other: with any of the others at their
own values, each is formatted as from the fields alone. -/
def Independent (py : TextOps) (columns : List (String × String)) (fields : Fields) : Prop :=
  ∀ column ∈ columns, ∀ others ⊆ columns, column ∉ others →
    columnValue py column.2 (withOwn py fields others) = columnValue py column.2 fields

/-- Columns that cannot be formatted in any order: a field is named as a
parameter of the formatter, or two columns are. -/
def NeverFormat (columns names : List String) : Prop :=
  ¬ Callable names ∨ ∀ name ∈ formatParameters, name ∈ columns

/-- Columns that can be formatted in any order. -/
def AlwaysFormat (columns : List String) : Prop := Callable columns ∨ columns.length ≤ 1

section Own

variable {columns others done todo : List (String × String)} {column : String × String}

@[simp] theorem withOwn_nil : withOwn py fields [] = fields := rfl

/-- One more column at its own value. -/
theorem withOwn_append_singleton : withOwn py fields (others ++ [column]) =
    (withOwn py fields others).set column.1 (columnValue py column.2 fields) := by
  rw [withOwn, List.map_append, Dict.setAll_append]
  rfl

/-- A column at its own value reads as that. -/
theorem get?_withOwn_of_mem (hnodup : (columns.map Prod.fst).Nodup) (hsub : others ⊆ columns)
    (hmem : column ∈ others) :
    (withOwn py fields others).get? column.1 = some (columnValue py column.2 fields) := by
  induction others using List.reverseRecOn with
  | nil => cases hmem
  | append_singleton others last ih =>
    rw [withOwn_append_singleton, Dict.get?_set]
    obtain ⟨hbefore, hlast⟩ := List.append_subset.1 hsub
    split
    · next hkey =>
      have hlast : last ∈ columns := hlast (List.mem_singleton_self last)
      rw [List.inj_on_of_nodup_map hnodup hlast (hsub hmem) hkey]
    · next hkey =>
      refine ih hbefore ((List.mem_append.1 hmem).resolve_right fun hmem => hkey ?_)
      rw [List.mem_singleton.1 hmem]

/-- The other fields stay. -/
theorem get?_withOwn_of_notMem {key : String} (h : key ∉ others.map Prod.fst) :
    (withOwn py fields others).get? key = fields.get? key := by
  induction others using List.reverseRecOn with
  | nil => rfl
  | append_singleton others last ih =>
    rw [List.map_append, List.mem_append, not_or] at h
    rw [withOwn_append_singleton, Dict.get?_set_of_ne, ih h.1]
    intro hkey
    exact h.2 (List.mem_singleton.2 hkey.symm)

/-- The names of the fields, with columns at their own values. -/
theorem mem_keys_withOwn {key : String} (h : key ∈ (withOwn py fields others).keys) :
    key ∈ fields.keys ∨ key ∈ others.map Prod.fst := by
  by_cases hmem : key ∈ others.map Prod.fst
  · exact Or.inr hmem
  · rw [Dict.mem_keys_iff, get?_withOwn_of_notMem hmem, ← Dict.mem_keys_iff] at h
    exact Or.inl h

/-- The order of columns at their own values does not matter. -/
theorem withOwn_same (hnodup : (columns.map Prod.fst).Nodup) (hperm : others.Perm columns) :
    (withOwn py fields others).Same (withOwn py fields columns) := by
  refine Dict.same_iff.2 fun key => ?_
  by_cases hmem : key ∈ columns.map Prod.fst
  · obtain ⟨column, hcolumn, rfl⟩ := List.mem_map.1 hmem
    rw [get?_withOwn_of_mem hnodup hperm.subset (hperm.mem_iff.2 hcolumn),
      get?_withOwn_of_mem hnodup (List.Subset.refl _) hcolumn]
  · have hothers : key ∉ others.map Prod.fst := fun h => hmem ((hperm.map _).mem_iff.1 h)
    rw [get?_withOwn_of_notMem hothers, get?_withOwn_of_notMem hmem]

/-- **Columns that do not read each other** each end up at their own value. -/
theorem addFormatColumns_withOwn (done : List (String × String)) (hcall : Callable fields.keys)
    (hsub : done ++ todo ⊆ columns) (hnodup : (done ++ todo).Nodup)
    (hlast : Callable ((done ++ todo).map Prod.fst).dropLast)
    (hindependent : Independent py columns fields) :
    addFormatColumns py todo (withOwn py fields done) = .ok (withOwn py fields (done ++ todo)) := by
  -- by the columns still to come, those done at their own values
  induction todo generalizing done with
  | nil =>
    rw [List.append_nil]
    rfl
  | cons column todo ih =>
    have hnext : done ++ column :: todo = (done ++ [column]) ++ todo := by simp
    have hcalls : Callable (withOwn py fields done).keys := by
      intro name hname hmem
      rcases mem_keys_withOwn hmem with hfield | hcolumn
      · exact hcall name hname hfield
      · refine hlast name hname ?_
        rw [List.map_append, List.map_cons, List.dropLast_append_of_ne_nil (List.cons_ne_nil _ _)]
        exact List.mem_append_left _ hcolumn
    have hown : columnValue py column.2 (withOwn py fields done) =
        columnValue py column.2 fields := by
      refine hindependent column (hsub (by simp)) done
        (fun _ h => hsub (List.mem_append_left _ h)) fun hmem => ?_
      exact (List.nodup_append.1 hnodup).2.2 column hmem column List.mem_cons_self rfl
    rw [addFormatColumns_cons hcalls, hown, ← withOwn_append_singleton, hnext]
    rw [hnext] at hsub hnodup hlast
    exact ih _ hsub hnodup hlast

end Own

/-! ## When the order does not matter -/

section Orders

variable {columns columns' names : List String} {formatColumns reordered : Dict String String}

/-- Of two names that are there, one is not the last. -/
theorem mem_dropLast_or {name name' : String} (hne : name ≠ name') (h : name ∈ columns)
    (h' : name' ∈ columns) : name ∈ columns.dropLast ∨ name' ∈ columns.dropLast := by
  have hnonempty : columns ≠ [] := List.ne_nil_of_mem h
  rw [← List.dropLast_append_getLast hnonempty, List.mem_append, List.mem_singleton] at h h'
  rcases h with h | h
  · exact Or.inl h
  · rcases h' with h' | h'
    · exact Or.inr h'
    · exact absurd (h.trans h'.symm) hne

theorem not_canFormat_of_never (h : NeverFormat columns names) (hne : columns ≠ []) :
    ¬ CanFormat columns names := by
  intro hcan
  rcases h with hnames | hcolumns
  · exact hnames fun name hname => (hcan hne name hname).1
  · have hself : "self" ∈ formatParameters := by decide
    have hformat : "format_string" ∈ formatParameters := by decide
    rcases mem_dropLast_or (by decide) (hcolumns _ hself) (hcolumns _ hformat) with hmem | hmem
    · exact (hcan hne _ hself).2 hmem
    · exact (hcan hne _ hformat).2 hmem

theorem NeverFormat.perm (h : NeverFormat columns names) (hperm : columns'.Perm columns) :
    NeverFormat columns' names :=
  h.imp_right fun hall name hname => hperm.mem_iff.2 (hall name hname)

theorem AlwaysFormat.perm (h : AlwaysFormat columns) (hperm : columns'.Perm columns) :
    AlwaysFormat columns' := by
  rw [AlwaysFormat, hperm.length_eq]
  exact h.imp_left fun hcall name hname hmem => hcall name hname (hperm.mem_iff.1 hmem)

theorem AlwaysFormat.dropLast (h : AlwaysFormat columns) : Callable columns.dropLast := by
  intro name hname hmem
  rcases h with hcall | hlength
  · exact hcall name hname (List.mem_of_mem_dropLast hmem)
  · have hempty : columns.dropLast = [] := by
      rw [← List.length_eq_zero_iff, List.length_dropLast]
      omega
    rw [hempty] at hmem
    cases hmem

/-- Columns that cannot be formatted raise. -/
theorem addFormattedColumns_of_not_canFormat (h : ¬ CanFormat formatColumns.keys fields.keys) :
    addFormattedColumns py formatColumns fields = .error .typeError := by
  cases hadd : addFormattedColumns py formatColumns fields with
  | ok formatted => exact absurd ((exists_addFormattedColumns_iff py).1 ⟨formatted, hadd⟩) h
  | error e => rw [addFormatColumns_eq_error hadd]

theorem keys_perm (h : reordered.Same formatColumns) : reordered.keys.Perm formatColumns.keys :=
  h.map Prod.fst

/-- Columns that are formatted in no order raise in all. -/
theorem orderFree_of_never (h : NeverFormat formatColumns.keys fields.keys) :
    OrderFree py formatColumns fields := by
  intro reordered hsame
  have hperm := keys_perm hsame
  by_cases hempty : formatColumns.entries = []
  · have hentries : reordered.entries = [] := List.Perm.eq_nil (hempty ▸ hsame)
    rw [addFormattedColumns_eq, addFormattedColumns_eq, hempty, hentries]
    exact List.Perm.refl _
  · have hne : formatColumns.keys ≠ [] := fun h => hempty (List.map_eq_nil_iff.1 h)
    have hne' : reordered.keys ≠ [] := fun h => hne (List.Perm.eq_nil (h ▸ hperm.symm))
    rw [addFormattedColumns_of_not_canFormat (not_canFormat_of_never h hne),
      addFormattedColumns_of_not_canFormat (not_canFormat_of_never (h.perm hperm) hne')]
    rfl

/-- **Columns that do not read each other** may be in any order. -/
theorem orderFree_of_independent (hcall : Callable fields.keys)
    (halways : AlwaysFormat formatColumns.keys)
    (hindependent : Independent py formatColumns.entries fields) :
    OrderFree py formatColumns fields := by
  intro reordered hsame
  have hrun (order : Dict String String) (horder : order.Same formatColumns) :
      addFormattedColumns py order fields = .ok (withOwn py fields order.entries) :=
    addFormatColumns_withOwn [] hcall horder.subset order.nodup.of_map
      (halways.perm (keys_perm horder)).dropLast hindependent
  rw [hrun reordered hsame, hrun formatColumns (List.Perm.refl _)]
  exact withOwn_same formatColumns.nodup hsame

/-- An order, as a dictionary. -/
def ofPerm (entries : List (String × String)) (h : entries.Perm formatColumns.entries) :
    Dict String String :=
  ⟨entries, (h.map Prod.fst).nodup_iff.2 formatColumns.nodup⟩

theorem ofPerm_same (h : entries.Perm formatColumns.entries) :
    (ofPerm entries h).Same formatColumns := h

/-- Of two outcomes that are one, both give fields or neither does. -/
theorem SameOutcome.exists_ok_iff {outcome outcome' : Except PyError Fields}
    (h : SameOutcome outcome outcome') :
    (∃ formatted, outcome = .ok formatted) ↔ ∃ formatted, outcome' = .ok formatted := by
  cases outcome with
  | ok formatted =>
    cases outcome' with
    | ok formatted' => exact iff_of_true ⟨_, rfl⟩ ⟨_, rfl⟩
    | error e => cases h
  | error e =>
    cases outcome' with
    | ok formatted' => cases h
    | error e' => exact iff_of_false (fun ⟨_, h⟩ => by cases h) fun ⟨_, h⟩ => by cases h

/-- Columns in an order that matters not are formatted when they are in
another. -/
theorem OrderFree.canFormat_iff (hfree : OrderFree py formatColumns fields)
    {order order' : Dict String String} (h : order.Same formatColumns)
    (h' : order'.Same formatColumns) :
    CanFormat order.keys fields.keys ↔ CanFormat order'.keys fields.keys := by
  rw [← exists_addFormattedColumns_iff py, ← exists_addFormattedColumns_iff py,
    (hfree order h).exists_ok_iff, (hfree order' h').exists_ok_iff]

/-- **A column that is formatted only when it is last** is the only one. -/
theorem alwaysFormat_of_orderFree (hfree : OrderFree py formatColumns fields)
    (hcall : Callable fields.keys)
    (hnever : ¬ ∀ name ∈ formatParameters, name ∈ formatColumns.keys) :
    AlwaysFormat formatColumns.keys := by
  by_contra halways
  rw [AlwaysFormat, not_or, Nat.not_le] at halways
  obtain ⟨hnamed, hlength⟩ := halways
  obtain ⟨name, hname, hmem⟩ : ∃ name ∈ formatParameters, name ∈ formatColumns.keys := by
    by_contra hnone
    exact hnamed fun name hname hmem => hnone ⟨name, hname, hmem⟩
  obtain ⟨column, hcolumn, rfl⟩ := List.mem_map.1 hmem
  -- the column before the others, and after them
  have hfirst := (List.perm_cons_erase hcolumn).symm
  have hlast := (List.perm_append_singleton column _).trans hfirst
  have hnodup : (column.1 :: (formatColumns.entries.erase column).map Prod.fst).Nodup :=
    (hfirst.map Prod.fst).nodup_iff.2 formatColumns.nodup
  have hothers : (formatColumns.entries.erase column).map Prod.fst ≠ [] := by
    intro hempty
    have hone := (hfirst.map Prod.fst).length_eq
    rw [List.map_cons, hempty] at hone
    change 1 = formatColumns.keys.length at hone
    omega
  have hiff := hfree.canFormat_iff (ofPerm_same hfirst) (ofPerm_same hlast)
  refine absurd (hiff.2 fun _ other hother => ⟨hcall other hother, ?_⟩) fun hcan => ?_
  · have hkeys : (ofPerm _ hlast).keys.dropLast =
        (formatColumns.entries.erase column).map Prod.fst := by
      simp [Dict.keys, ofPerm]
    rw [hkeys]
    intro hmem'
    -- the other parameter names no column
    refine hnever fun name' hname' => ?_
    have hother' : other ∈ formatColumns.keys :=
      (hfirst.map Prod.fst).mem_iff.1 (List.mem_cons_of_mem _ hmem')
    have hne : column.1 ≠ other := fun h => (List.nodup_cons.1 hnodup).1 (h ▸ hmem')
    have htwo : name' = column.1 ∨ name' = other := by
      simp only [formatParameters, List.mem_cons, List.not_mem_nil, or_false] at hname hother hname'
      rcases hname with h | h <;> rcases hother with h' | h' <;> rcases hname' with h'' | h'' <;>
        simp_all
    rcases htwo with rfl | rfl
    · exact hmem
    · exact hother'
  · have hmem' : column.1 ∈ (ofPerm _ hfirst).keys.dropLast := by
      change column.1 ∈ (column.1 :: (formatColumns.entries.erase column).map Prod.fst).dropLast
      rw [List.dropLast_cons_of_ne_nil hothers]
      exact List.mem_cons_self
    exact (hcan (List.cons_ne_nil _ _) column.1 hname).2 hmem'

/-- Columns that can be in any order are, where no field is named as a
parameter. -/
theorem exists_addFormattedColumns (py : TextOps) (hcall : Callable fields.keys)
    (halways : AlwaysFormat formatColumns.keys) (hsame : reordered.Same formatColumns) :
    ∃ formatted, addFormattedColumns py reordered fields = .ok formatted :=
  (exists_addFormattedColumns_iff py).2 fun _ name hname =>
    ⟨hcall name hname, (halways.perm (keys_perm hsame)).dropLast name hname⟩

/-- **What an order shows of each column**: its own value, as if it came
first. -/
theorem get?_of_orderFree (hfree : OrderFree py formatColumns fields) (hcall : Callable fields.keys)
    (halways : AlwaysFormat formatColumns.keys) {formatted : Fields}
    (hsame : reordered.Same formatColumns)
    (hformatted : addFormattedColumns py reordered fields = .ok formatted)
    {column : String × String} (hcolumn : column ∈ formatColumns.entries) :
    formatted.get? column.1 = some (columnValue py column.2 fields) := by
  have hfirst := (List.perm_cons_erase hcolumn).symm
  obtain ⟨shown, hshown⟩ := exists_addFormattedColumns py hcall halways (ofPerm_same hfirst)
  obtain ⟨common, hcommon⟩ := exists_addFormattedColumns py hcall halways
    (List.Perm.refl _ : formatColumns.Same formatColumns)
  have hnodup : (column.1 :: (formatColumns.entries.erase column).map Prod.fst).Nodup :=
    (hfirst.map Prod.fst).nodup_iff.2 formatColumns.nodup
  have hone := hfree _ (ofPerm_same hfirst)
  have hother := hfree _ hsame
  rw [hshown, hcommon] at hone
  rw [hformatted, hcommon] at hother
  rw [Dict.same_iff.1 hother, ← Dict.same_iff.1 hone]
  change addFormatColumns py (column :: formatColumns.entries.erase column) fields =
    .ok shown at hshown
  rw [addFormatColumns_cons hcall] at hshown
  rw [get?_addFormatColumns hshown (List.nodup_cons.1 hnodup).1, Dict.get?_set_self]

/-- **Columns whose order does not matter do not read each other.** -/
theorem independent_of_orderFree {py : TextOps} {vformat : String → (String → Value) → Option String}
    (hfree : OrderFree (py.formatting vformat) formatColumns fields) (hcall : Callable fields.keys)
    (halways : AlwaysFormat formatColumns.keys) :
    Independent (py.formatting vformat) formatColumns.entries fields := by
  intro column hcolumn others hothers hnot
  -- the others first, then the column, then what is left
  obtain ⟨before, hbefore⟩ : ∃ before, before =
    formatColumns.entries.filter fun other => decide (other ∈ others) := ⟨_, rfl⟩
  obtain ⟨after, hafter⟩ : ∃ after, after =
    (formatColumns.entries.filter fun other => !decide (other ∈ others)).erase column := ⟨_, rfl⟩
  have hperm : (before ++ column :: after).Perm formatColumns.entries := by
    have hleft : column ∈ formatColumns.entries.filter fun other => !decide (other ∈ others) :=
      List.mem_filter.2 ⟨hcolumn, by simpa using hnot⟩
    rw [hbefore, hafter]
    exact ((List.perm_cons_erase hleft).symm.append_left _).trans (List.filter_append_perm _ _)
  have hnodup : ((before ++ column :: after).map Prod.fst).Nodup :=
    (hperm.map Prod.fst).nodup_iff.2 formatColumns.nodup
  rw [List.map_append, List.map_cons, List.nodup_append] at hnodup
  obtain ⟨hnodupBefore, hnodupAfter, hdisjoint⟩ := hnodup
  have hmem {other : String × String} : other ∈ before ↔ other ∈ others := by
    rw [hbefore, List.mem_filter, decide_eq_true_eq]
    exact and_iff_right_of_imp fun h => hothers h
  obtain ⟨formatted, hformatted⟩ := exists_addFormattedColumns (py.formatting vformat) hcall
    halways (ofPerm_same hperm)
  have hown {other : String × String} (hother : other ∈ formatColumns.entries) :=
    get?_of_orderFree hfree hcall halways (ofPerm_same hperm) hformatted hother
  change addFormatColumns (py.formatting vformat) (before ++ column :: after) fields = _ at hformatted
  rw [addFormatColumns_append] at hformatted
  obtain ⟨mid, hmid, hrest⟩ := bind_eq_ok.1 hformatted
  have hmidOwn : mid.Same (withOwn (py.formatting vformat) fields others) := by
    refine Dict.same_iff.2 fun key => ?_
    by_cases hkey : key ∈ others.map Prod.fst
    · obtain ⟨other, hother, rfl⟩ := List.mem_map.1 hkey
      have hlater : other.1 ∉ (column :: after).map Prod.fst := fun h =>
        hdisjoint other.1 (List.mem_map_of_mem (hmem.2 hother)) other.1 h rfl
      rw [get?_withOwn_of_mem formatColumns.nodup hothers hother, ← hown (hothers hother),
        get?_addFormatColumns hrest hlater]
    · have hkey' : key ∉ before.map Prod.fst := by
        intro h
        obtain ⟨other, hother, rfl⟩ := List.mem_map.1 h
        exact hkey (List.mem_map_of_mem (hmem.1 hother))
      rw [get?_withOwn_of_notMem hkey, get?_addFormatColumns hmid hkey']
  have hcalls : Callable mid.keys := by
    by_contra hcalls
    rw [addFormatColumns_cons_error hcalls] at hrest
    cases hrest
  rw [addFormatColumns_cons hcalls] at hrest
  have hvalue := hown hcolumn
  rw [get?_addFormatColumns hrest (List.nodup_cons.1 hnodupAfter).1, Dict.get?_set_self] at hvalue
  rw [← Option.some.inj hvalue, columnValue, columnValue, format_congr hmidOwn]

/-- **The order of format columns does not matter exactly when** they are
formatted in no order, or in every order and none reads another. -/
theorem orderFree_iff (py : TextOps) (vformat : String → (String → Value) → Option String)
    (formatColumns : Dict String String) (fields : Fields) :
    OrderFree (py.formatting vformat) formatColumns fields ↔
      NeverFormat formatColumns.keys fields.keys ∨ AlwaysFormat formatColumns.keys ∧
        Independent (py.formatting vformat) formatColumns.entries fields := by
  constructor
  · intro hfree
    by_cases hnever : NeverFormat formatColumns.keys fields.keys
    · exact Or.inl hnever
    · obtain ⟨hcall, hcolumns⟩ := not_or.1 hnever
      have halways := alwaysFormat_of_orderFree hfree (not_not.1 hcall) hcolumns
      exact Or.inr ⟨halways, independent_of_orderFree hfree (not_not.1 hcall) halways⟩
  · rintro (hnever | ⟨halways, hindependent⟩)
    · exact orderFree_of_never hnever
    · by_cases hcall : Callable fields.keys
      · exact orderFree_of_independent hcall halways hindependent
      · exact orderFree_of_never (Or.inl hcall)

end Orders

/-- A column that reads the column before it shows nothing when it comes
first. -/
theorem not_orderFree : ¬ ∀ (py : TextOps) (vformat : String → (String → Value) → Option String)
    (formatColumns : Dict String String) (fields : Fields),
    OrderFree (py.formatting vformat) formatColumns fields := by
  intro h
  have hfree := h plainText formatName
    (Dict.ofList [("name", "\x7bfirstname\x7d"), ("reverse", "\x7bname\x7d")])
    (Dict.ofList [("firstname", .str "Ann")])
    (Dict.ofList [("reverse", "\x7bname\x7d"), ("name", "\x7bfirstname\x7d")]) (by decide)
  exact absurd hfree (by decide)

end WazoDird
