import WazoDird.Backends.SourceResult
import WazoDird.Common.Rfc4515.Filter
import WazoDird.Ldap.Config

/-!
# The LDAP backend

`plugins/ldap_backend/plugin.py` over a directory that answers: the entries
that satisfy a filter, with the attributes asked for, each formatted by its
attributes' first values. How the server compares (`holds`) and which
attributes it returns for those asked (`select`) are its own.
-/

namespace WazoDird

/-- The attributes of an entry, each with its values. -/
abbrev LdapAttrs := Dict String (List Bytes)

/-- An entry of a directory. -/
structure LdapEntry where
  dn : String
  attrs : LdapAttrs
  dn_ne : dn ≠ "" := by decide

/-- What the server answers with. -/
inductive RawResult where
  | entry (dn : String) (attrs : LdapAttrs)
  /-- A reference to other servers, which comes without a name. -/
  | reference (urls : List String)

/-- **A directory**, under the base of a source. -/
structure LdapServer where
  entries : List LdapEntry
  references : List (List String) := []
  /-- The truth of an item for an entry, none when it is undefined. -/
  holds : Rfc4515.Item → LdapEntry → Option Bool
  /-- The attributes returned for those asked. -/
  select : Option (List String) → LdapAttrs → LdapAttrs

namespace LdapServer

variable (server : LdapServer)

/-- **An entry satisfies the text of a filter.** Text that is no filter is
refused. -/
def Satisfies (filter : String) (entry : LdapEntry) : Prop :=
  ∃ f, Rfc4515.parse filter.toList = some f ∧ f.Satisfied (server.holds · entry)

instance (filter : String) (entry : LdapEntry) : Decidable (server.Satisfies filter entry) :=
  match h : Rfc4515.parse filter.toList with
  | none => isFalse fun ⟨f, hf, _⟩ => by cases h.symm.trans hf
  | some f => decidable_of_iff (f.Satisfied (server.holds · entry))
      ⟨fun hs => ⟨f, h, hs⟩, fun ⟨g, hg, hs⟩ => by cases h.symm.trans hg; exact hs⟩

/-- `search_ext_s`, without a size limit. A filter that cannot be parsed
is a `FILTER_ERROR`, on which `_search` returns nothing. -/
def search (attributes : Option (List String)) (filter : String) : List RawResult :=
  match Rfc4515.parse filter.toList with
  | none => []
  | some _ =>
    (server.entries.filter (server.Satisfies filter)).map
        (fun entry => .entry entry.dn (server.select attributes entry.attrs)) ++
      server.references.map .reference

end LdapServer

namespace LdapConfig

variable (py : TextOps) (config : LdapConfig)

/-- The class of a source's results. -/
def resultClass : ResultClass :=
  makeResultClass "ldap" config.name config.uniqueColumn config.formatColumns

/-- The text of a value: of the unique column, when it is binary, that of
a uuid. -/
def decodeValue (name : String) (value : Bytes) : Option String :=
  if some name = config.uniqueColumn ∧ config.hasBinaryUuid then
    (PyUuid.ofBytes? value).map PyUuid.str
  else decodeUtf8 value

/-- The text of an attribute's first value. -/
def formatValue (name : String) : List Bytes → Except PyError String
  | [] => .error .indexError
  | value :: _ => (config.decodeValue name value).elim (.error .valueError) .ok

/-- The field of an attribute. -/
def formatField (attr : String × List Bytes) : Except PyError (String × Value) := do
  let text ← config.formatValue attr.1 attr.2
  return (attr.1, .str text)

/-- `format_one_result`. -/
def formatOneResult (attrs : LdapAttrs) : Except PyError SourceResult := do
  let fields ← attrs.entries.mapM config.formatField
  config.resultClass.make py (Dict.ofList fields)

/-- `_LDAPResultFormatter.format`. -/
def format (results : List RawResult) : Except PyError (List SourceResult) :=
  (results.filterMap fun
    | .entry dn attrs => if dn = "" then none else some attrs
    | .reference _ => none).mapM (config.formatOneResult py)

/-- **An entry of these attributes can be formatted**: each has a first
value that is text, and the columns can be formatted from them. -/
structure Formattable (attrs : LdapAttrs) : Prop where
  values : ∀ e ∈ attrs.entries, ∃ value ∈ e.2.head?, (config.decodeValue e.1 value).isSome
  columns : CanFormat (config.formatColumns.getD ∅).keys attrs.keys

instance (attrs : LdapAttrs) : Decidable (config.Formattable attrs) :=
  decidable_of_iff
    ((∀ e ∈ attrs.entries, ∃ value ∈ e.2.head?, (config.decodeValue e.1 value).isSome) ∧
      CanFormat (config.formatColumns.getD ∅).keys attrs.keys)
    ⟨fun h => ⟨h.1, h.2⟩, fun h => ⟨h.values, h.columns⟩⟩

variable {py config}

/-- **The field of an attribute** has its name, and the text of its first
value. -/
theorem formatField_eq_ok {attr : String × List Bytes} {field : String × Value} :
    config.formatField attr = .ok field ↔ ∃ value ∈ attr.2.head?, ∃ text,
      config.decodeValue attr.1 value = some text ∧ field = (attr.1, .str text) := by
  obtain ⟨name, values⟩ := attr
  cases values with
  | nil => exact iff_of_false (fun h => by cases h) fun ⟨_, h, _⟩ => by cases h
  | cons value values =>
    simp only [formatField, formatValue, List.head?_cons, Option.mem_some_iff, exists_eq_left']
    cases config.decodeValue name value with
    | none => exact iff_of_false (fun h => by cases h) fun ⟨_, h, _⟩ => by cases h
    | some text =>
      constructor
      · intro h
        exact ⟨text, rfl, (Except.ok.inj h).symm⟩
      · rintro ⟨_, ⟨⟩, rfl⟩
        rfl

/-- The fields are named as the attributes are. -/
theorem keys_fields {attrs : LdapAttrs} {fields : List (String × Value)}
    (h : attrs.entries.mapM config.formatField = .ok fields) :
    (Dict.ofList fields).keys = attrs.keys := by
  have hnames : fields.map Prod.fst = attrs.entries.map Prod.fst := by
    refine map_eq_of_mapM_eq_ok (fun {e field} hfield => ?_) h
    obtain ⟨value, -, text, -, rfl⟩ := formatField_eq_ok.1 hfield
    rfl
  rw [Dict.keys_ofList_of_nodup (hnames ▸ attrs.nodup), hnames]
  rfl

/-- **What a field holds** is the text of the first value of the attribute
of its name. -/
theorem get?_fields {attrs : LdapAttrs} {fields : List (String × Value)}
    (h : attrs.entries.mapM config.formatField = .ok fields) {name : String} {v : Value} :
    (Dict.ofList fields).get? name = some v ↔ ∃ values, attrs.get? name = some values ∧
      config.formatField (name, values) = .ok (name, v) := by
  -- a field comes from the attribute of its name
  have hfrom : ∀ {v}, (name, v) ∈ fields → ∃ values, attrs.get? name = some values ∧
      config.formatField (name, values) = .ok (name, v) := by
    intro v hmem
    obtain ⟨⟨name', values⟩, hattr, hfield⟩ := mem_of_mapM_eq_ok h hmem
    obtain ⟨value, -, text, -, heq⟩ := formatField_eq_ok.1 hfield
    obtain ⟨rfl, -⟩ := Prod.mk.inj heq
    exact ⟨values, Dict.get?_eq_some_iff.2 hattr, hfield⟩
  constructor
  · intro hget
    exact hfrom (Dict.mem_of_get?_ofList hget)
  · rintro ⟨values, hvalues, hfield⟩
    have hname : name ∈ (Dict.ofList fields).keys := by
      rw [keys_fields h, Dict.mem_keys_iff, hvalues]
      rfl
    obtain ⟨v', hv'⟩ := Option.isSome_iff_exists.1 (Dict.mem_keys_iff.1 hname)
    obtain ⟨values', hvalues', hfield'⟩ := hfrom (Dict.mem_of_get?_ofList hv')
    cases hvalues.symm.trans hvalues'
    cases hfield.symm.trans hfield'
    exact hv'

/-- **What can be formatted.** -/
theorem exists_formatOneResult_iff {attrs : LdapAttrs} :
    (∃ r, config.formatOneResult py attrs = .ok r) ↔ config.Formattable attrs := by
  have hfields : (∃ fields, attrs.entries.mapM config.formatField = .ok fields) ↔
      ∀ e ∈ attrs.entries, ∃ value ∈ e.2.head?, (config.decodeValue e.1 value).isSome := by
    rw [exists_mapM_eq_ok]
    refine forall₂_congr fun e _ => ?_
    simp only [formatField_eq_ok, Option.isSome_iff_exists]
    constructor
    · rintro ⟨field, value, hvalue, text, htext, -⟩
      exact ⟨value, hvalue, text, htext⟩
    · rintro ⟨value, hvalue, text, htext⟩
      exact ⟨_, value, hvalue, text, htext, rfl⟩
  constructor
  · rintro ⟨r, hr⟩
    obtain ⟨fields, hmap, hmake⟩ := bind_eq_ok.1 hr
    refine ⟨hfields.1 ⟨fields, hmap⟩, ?_⟩
    rw [← keys_fields hmap]
    exact (ResultClass.exists_make_iff py).1 ⟨r, hmake⟩
  · rintro ⟨hvalues, hcolumns⟩
    obtain ⟨fields, hmap⟩ := hfields.2 hvalues
    rw [← keys_fields hmap] at hcolumns
    obtain ⟨r, hr⟩ := (@ResultClass.exists_make_iff py config.resultClass _ {}).2 hcolumns
    exact ⟨r, bind_eq_ok.2 ⟨fields, hmap, hr⟩⟩

/-- **A column that no format writes** shows the text of the first value of
its attribute. -/
theorem get?_formatOneResult {attrs : LdapAttrs} {r : SourceResult}
    (h : config.formatOneResult py attrs = .ok r) {column : String}
    (hcolumn : column ∉ (config.formatColumns.getD ∅).keys) {text : String} :
    r.fields.get? column = some (.str text) ↔
      ∃ values, attrs.get? column = some values ∧
        ∃ value ∈ values.head?, config.decodeValue column value = some text := by
  obtain ⟨fields, hfields, hmake⟩ := bind_eq_ok.1 h
  obtain ⟨formatted, hformatted, hpure⟩ := bind_eq_ok.1 hmake
  cases hpure
  rw [get?_addFormattedColumns py hformatted hcolumn, get?_fields hfields]
  refine exists_congr fun values => and_congr_right fun _ => ?_
  rw [formatField_eq_ok]
  constructor
  · rintro ⟨value, hvalue, text', htext, heq⟩
    cases heq
    exact ⟨value, hvalue, htext⟩
  · rintro ⟨value, hvalue, htext⟩
    exact ⟨value, hvalue, text, htext, rfl⟩

end LdapConfig

/-- `LDAPPlugin`. -/
structure LdapPlugin where
  config : LdapConfig
  server : LdapServer

namespace LdapPlugin

variable (py : TextOps) (escapeFilterChars : String → String) (plugin : LdapPlugin)

/-- `_search_and_format`, and `_match_all_and_format`, which does the
same. -/
def searchAndFormat (filter : String) : Except PyError (List SourceResult) :=
  plugin.config.format py (plugin.server.search (plugin.config.attributes py) filter)

/-- The result of an entry, with the attributes asked for. -/
def formatted (entry : LdapEntry) : Except PyError SourceResult :=
  plugin.config.formatOneResult py
    (plugin.server.select (plugin.config.attributes py) entry.attrs)

/-- An entry can be formatted, with the attributes asked for. -/
def Formattable (entry : LdapEntry) : Prop :=
  plugin.config.Formattable (plugin.server.select (plugin.config.attributes py) entry.attrs)

instance (entry : LdapEntry) : Decidable (plugin.Formattable py entry) :=
  inferInstanceAs (Decidable (plugin.config.Formattable _))

/-- `match_all`. -/
def matchAll (extens : List String) : Except PyError (Dict String SourceResult) := do
  let columns := plugin.config.firstMatchedColumns
  let entries ← plugin.searchAndFormat py (plugin.config.buildMatchAllFilter escapeFilterChars extens)
  return columns.foldl (fun results column => entries.foldl (keep extens column) results) ∅

/-- `list`. -/
def list (uids : List String) : Except PyError (List SourceResult) :=
  match plugin.config.unique, uids with
  | none, _ | _, [] => .ok []
  | some uniqueColumn, uids =>
    match plugin.config.buildListFilter py uniqueColumn uids with
    | none => .error .valueError
    | some filter => plugin.searchAndFormat py filter

variable {py plugin}

/-- **A search formats the entries that satisfy its filter.** -/
theorem searchAndFormat_eq (filter : String) :
    plugin.searchAndFormat py filter =
      (plugin.server.entries.filter (plugin.server.Satisfies filter)).mapM
        (plugin.formatted py) := by
  unfold searchAndFormat LdapConfig.format LdapServer.search
  cases hparse : Rfc4515.parse filter.toList with
  | none =>
    have hnone : plugin.server.entries.filter (plugin.server.Satisfies filter) = [] := by
      rw [List.filter_eq_nil_iff]
      intro entry _ hsat
      obtain ⟨f, hf, -⟩ := of_decide_eq_true hsat
      rw [hparse] at hf
      cases hf
    rw [hnone]
    rfl
  | some f =>
    simp only
    rw [List.filterMap_append]
    -- references have no name, entries have one
    have hrefs : ∀ l : List (List String), (l.map RawResult.reference).filterMap (fun
        | .entry dn attrs => if dn = "" then none else some attrs
        | .reference _ => none) = [] := by
      intro l
      rw [List.filterMap_map, List.filterMap_eq_nil_iff]
      exact fun urls _ => rfl
    have hentries : ∀ l : List LdapEntry, (l.map fun entry => RawResult.entry entry.dn
        (plugin.server.select (plugin.config.attributes py) entry.attrs)).filterMap (fun
        | .entry dn attrs => if dn = "" then none else some attrs
        | .reference _ => none) =
          l.map fun entry => plugin.server.select (plugin.config.attributes py) entry.attrs := by
      intro l
      rw [List.filterMap_map, ← List.filterMap_eq_map]
      refine List.filterMap_congr fun entry _ => ?_
      simp [entry.dn_ne]
    rw [hrefs, hentries, List.append_nil, List.mapM_map]
    rfl

/-- **A search returns** when each entry that satisfies its filter can be
formatted. -/
theorem exists_searchAndFormat {filter : String} :
    (∃ results, plugin.searchAndFormat py filter = .ok results) ↔
      ∀ entry ∈ plugin.server.entries, plugin.server.Satisfies filter entry →
        plugin.Formattable py entry := by
  rw [searchAndFormat_eq, exists_mapM_eq_ok]
  simp only [List.mem_filter, decide_eq_true_eq, and_imp]
  exact forall₃_congr fun entry _ _ => LdapConfig.exists_formatOneResult_iff

/-- Then its results are theirs. -/
theorem mem_searchAndFormat {filter : String} {results : List SourceResult}
    (h : plugin.searchAndFormat py filter = .ok results) {r : SourceResult} :
    r ∈ results ↔ ∃ entry ∈ plugin.server.entries,
      plugin.server.Satisfies filter entry ∧ plugin.formatted py entry = .ok r := by
  rw [searchAndFormat_eq] at h
  rw [mem_mapM_iff h]
  simp only [List.mem_filter, decide_eq_true_eq, and_assoc]

/-! ## A directory -/

/-- An octet, its case left aside. -/
def foldCase (octet : UInt8) : UInt8 := if 65 ≤ octet ∧ octet ≤ 90 then octet + 32 else octet

/-- A server that knows equality, without regard to case, and presence. -/
def directory (entries : List LdapEntry) : LdapServer where
  entries := entries
  holds item entry :=
    match item.op, item.parts, entry.attrs.get? (String.ofList item.attr) with
    | .equal, [value], some values =>
      some (values.any fun v => v.map foldCase = value.map foldCase)
    | .equal, [_], none => some false
    | .equal, [[], []], values => some values.isSome
    | _, _, _ => none
  select
    | none, attrs => attrs
    | some names, attrs => Dict.ofList (attrs.entries.filter fun e => e.1 ∈ names)

end LdapPlugin

end WazoDird
