import WazoDird.Common.PyUuid

/-!
# The configuration of an LDAP source

`_LDAPConfig` of `plugins/ldap_backend/plugin.py`: the filters it builds
and the attributes it asks for. `ldap.filter.escape_filter_chars` is a
parameter.
-/

namespace WazoDird

/-- `_LDAPConfig`. Its constructor refuses a source that can search for
nothing. -/
structure LdapConfig where
  name : String
  searchedColumns : List String := []
  firstMatchedColumns : List String := []
  formatColumns : Option (Dict String String) := none
  uniqueColumn : Option String := none
  uniqueColumnFormat : String := "string"
  ldapCustomFilter : Option String := none
  searches : ldapCustomFilter.getD "" ≠ "" ∨ searchedColumns ≠ []

namespace LdapConfig

variable (py : TextOps) (escapeFilterChars : String → String) (config : LdapConfig)

/-- `has_binary_uuid`. -/
def hasBinaryUuid : Bool := config.uniqueColumnFormat = "binary_uuid"

/-- The custom filter, when one is configured that is not empty. -/
def customFilter : Option String := config.ldapCustomFilter.filter (· ≠ "")

/-- The unique column, when one is configured that is not empty. -/
def unique : Option String := config.uniqueColumn.filter (· ≠ "")

/-- `re.findall(r'{(\w+)}', text)`, with the name begun after a brace, its
last character first. -/
def findFields : Option (List Char) → List Char → List String
  | _, [] => []
  | none, c :: cs => if c = '{' then findFields (some []) cs else findFields none cs
  | some name, c :: cs =>
    if c = '{' then findFields (some []) cs
    else if c = '}' then
      if name = [] then findFields none cs
      else String.ofList name.reverse :: findFields none cs
    else if py.isWord c then findFields (some (c :: name)) cs
    else findFields none cs

/-- `attributes`: those to ask for, none for all. -/
def attributes : Option (List String) :=
  match config.formatColumns with
  | none => none
  | some formatColumns =>
    if formatColumns.isEmpty then none
    else
      let attributes := formatColumns.values.flatMap fun column => findFields py none column.toList
      match config.unique with
      | none => some attributes
      | some column =>
        some (if column ∈ attributes then attributes else attributes ++ [column])

/-- `_build_filter_from_list`. -/
def buildFilterFromList : List String → String
  | [filter] => filter
  | filters => "(|" ++ String.join filters ++ ")"

/-- `_build_filter_from_custom_and_generated_filter`. -/
def buildFilterFromCustomAndGeneratedFilter (customFilter generatedFilter : String) : String :=
  "(&" ++ customFilter ++ generatedFilter ++ ")"

/-- `_build_search_filter_from_custom_filter`. -/
def buildSearchFilterFromCustomFilter (customFilter termEscaped : String) : String :=
  String.ofList (replaceAll ['%', 'Q'] termEscaped.toList customFilter.toList)

/-- `_build_search_filter_from_searched_columns`. -/
def buildSearchFilterFromSearchedColumns (termEscaped : String) : String :=
  buildFilterFromList (config.searchedColumns.map fun attr =>
    "(" ++ attr ++ "=*" ++ termEscaped ++ "*)")

/-- `(attr=value)`. -/
def equality (attr value : String) : String := "(" ++ attr ++ "=" ++ value ++ ")"

/-- `_build_exact_search_filter_from_first_matched_columns`. -/
def buildExactSearchFilterFromFirstMatchedColumns (termEscaped : String) : String :=
  buildFilterFromList (config.firstMatchedColumns.map (equality · termEscaped))

/-- `build_search_filter` and `build_first_match_filter`: the custom filter
and the one generated from the columns, as far as either is configured. -/
def buildFilter (columns : List String) (generated : String → String) (term : String) :
    Option String :=
  let termEscaped := escapeFilterChars term
  match config.customFilter, columns with
  | some customFilter, _ :: _ => some (buildFilterFromCustomAndGeneratedFilter
      (buildSearchFilterFromCustomFilter customFilter termEscaped) (generated termEscaped))
  | some customFilter, [] => some (buildSearchFilterFromCustomFilter customFilter termEscaped)
  | none, _ :: _ => some (generated termEscaped)
  | none, [] => none

/-- `build_search_filter`. -/
def buildSearchFilter (term : String) : Option String :=
  config.buildFilter escapeFilterChars config.searchedColumns
    config.buildSearchFilterFromSearchedColumns term

/-- `build_first_match_filter`. -/
def buildFirstMatchFilter (term : String) : Option String :=
  config.buildFilter escapeFilterChars config.firstMatchedColumns
    config.buildExactSearchFilterFromFirstMatchedColumns term

/-- `build_match_all_filter`. An empty filter is left out. -/
def buildMatchAllFilter (terms : List String) : String :=
  buildFilterFromList ((terms.filterMap (config.buildFirstMatchFilter escapeFilterChars)).filter
    (· ≠ ""))

/-- The pairs of characters of a text, each after a backslash. -/
def escapePairs : List Char → List Char
  | a :: b :: cs => '\\' :: a :: b :: escapePairs cs
  | _ => []

/-- `_convert_binary_uid`. -/
def convertBinaryUid (uid : String) : Option String :=
  (PyUuid.ofString py uid).map fun uuid => String.ofList (escapePairs (hex uuid))

/-- `_convert_uids`, none where one raises `ValueError`. -/
def convertUids (uids : List String) : Option (List String) :=
  if config.hasBinaryUuid then uids.mapM (convertBinaryUid py) else some uids

/-- `build_list_filter`, of a source with a unique column and of one uid at
least. -/
def buildListFilter (uniqueColumn : String) (uids : List String) : Option String :=
  (config.convertUids py uids).map fun uids =>
    buildFilterFromList (uids.map (equality uniqueColumn))

end LdapConfig

end WazoDird
