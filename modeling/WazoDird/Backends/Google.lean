import WazoDird.Backends.Conference

/-!
# The Google backend

`plugins/google_backend/plugin.py`. The contacts are what
`GoogleService.get_contacts` returns for the user's token; without a token
nothing is looked up.
-/

namespace WazoDird

/-- `GooglePlugin`. -/
structure GooglePlugin where
  name : String
  firstMatchedColumns : List String
  sourceResult : ResultClass

namespace GooglePlugin

/-- `load`. -/
def load (config : PluginConfig) : GooglePlugin where
  name := config.name
  firstMatchedColumns := config.firstMatchedColumns
  sourceResult :=
    let formatColumns := config.formatColumns.getD ∅
    makeResultClass "google" config.name (some "id") (some
      (if "reverse" ∈ formatColumns.keys then formatColumns
        else formatColumns.set "reverse" "{name}"))

variable (py : TextOps) (plugin : GooglePlugin)

/-- The test of one value of a column: its entries when it is a
dictionary, itself otherwise. -/
def valueMatches (term : String) (value : Value) : Except PyError Bool :=
  match value with
  | .dict entries => entries.anyM fun entry => do return term = (← entry.2.lower py.lower)
  | value => do return term = (← value.lower py.lower)

/-- `_first_match_predicate`. A column that is a dictionary is looked at
by its keys. -/
def firstMatchPredicate (term : String) (contact : Fields) : Except PyError Bool :=
  plugin.firstMatchedColumns.anyM fun column =>
    match contact.getOr column with
    | .list values => values.anyM (valueMatches py term)
    | .dict entries => (entries.map fun entry => Value.str entry.1).anyM (valueMatches py term)
    | columnValue => .ok (term = py.lower (py.str columnValue))

/-- `first_match`, with the contacts of the user, none when no token is
found. -/
def firstMatch (contacts : Option (List Fields)) (term : String) :
    Except PyError (Option SourceResult) :=
  if plugin.firstMatchedColumns = [] then .ok none
  else match contacts with
    | none => .ok none
    | some contacts =>
      Scan.first (plugin.firstMatchPredicate py (py.lower term)) (plugin.sourceResult.make py ·)
        contacts

/-- `match_all`. -/
def matchAll (contacts : Option (List Fields)) (terms : List String) :
    Except PyError (Dict String SourceResult) :=
  if plugin.firstMatchedColumns = [] then .ok ∅
  else match contacts with
    | none => .ok ∅
    | some contacts =>
      Scan.byKey (fun term => plugin.firstMatchPredicate py (py.lower term))
        (plugin.sourceResult.make py ·) terms contacts

end GooglePlugin

end WazoDird
