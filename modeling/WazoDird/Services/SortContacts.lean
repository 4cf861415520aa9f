import WazoDird.Common.StableSort
import WazoDird.Common.Text
import WazoDird.Database.Queries.ContactRows
import WazoDird.Services.Sorting

/-!
# What sorted contacts look like

`sort_contacts` is a stable sort by the text of a column, and contacts
without a text come after all others: the text it gives them is beyond any
that is made of ASCII. A column that is empty is no text of its own.
-/

namespace WazoDird

/-- What a contact is sorted by: the text of a column, when there is one that
is not empty, folded and transliterated. -/
def shownText (text : SortText) (order : String) (orderInsensitive : Bool)
    (contact : ContactInfo) : Option String :=
  ((contact.get? order).join.filter (· ≠ "")).map fun value =>
    text.unidecode (if orderInsensitive then text.casefold value else value)

section

variable {text : SortText} {contacts : List ContactInfo} {order : String}
  {direction : Option String} {orderInsensitive : Bool} {contact : ContactInfo}

/-- A contact without a text is compared by the last one. -/
theorem sortValue_eq : sortValue text order orderInsensitive contact =
    (shownText text order orderInsensitive contact).getD almostLastString := by
  unfold sortValue shownText
  cases (contact.get? order).join.filter (· ≠ "") <;> rfl

/-- **Sorting contacts is sorting them by their texts.** -/
theorem sortContacts_eq (horder : order ≠ "") :
    sortContacts text contacts (some order) direction orderInsensitive =
      sortByKey (fun contact =>
          (shownText text order orderInsensitive contact).getD almostLastString)
        (direction = some "desc") contacts := by
  have hfilter : (some order).filter (· ≠ "") = some order := by simp [Option.filter, horder]
  have hvalue : sortValue text order orderInsensitive = fun contact =>
      (shownText text order orderInsensitive contact).getD almostLastString :=
    funext fun _ => sortValue_eq
  rw [sortContacts, hfilter, ← hvalue]
  by_cases hdirection : direction = some "desc"
  · simp only [hdirection, if_true, decide_true]
    rfl
  · simp only [hdirection, if_false, decide_false]
    rfl

/-- A character of ASCII comes before the last one. -/
theorem lt_maxChar {c : Char} (h : c.toNat < 128) : c < Char.ofNat 1114111 := by
  have hlast : (Char.ofNat 1114111).toNat = 1114111 := by decide
  rw [Char.lt_def, UInt32.lt_iff_toNat_lt]
  change c.toNat < (Char.ofNat 1114111).toNat
  omega

/-- A text that begins after every character of another comes after it. -/
theorem lt_ofList_replicate {s : String} {m : Char} (n : ℕ) (h : ∀ c ∈ s.toList, c < m) :
    s < String.ofList (List.replicate (n + 1) m) := by
  rw [String.lt_iff_toList_lt, String.toList_ofList, List.replicate_succ]
  cases hs : s.toList with
  | nil => exact List.nil_lt_cons _ _
  | cons c cs => exact List.Lex.rel (h c (by rw [hs]; exact List.mem_cons_self))

/-- A text of ASCII comes before the last one. -/
theorem lt_almostLastString {s : String} (h : ∀ c ∈ s.toList, c.toNat < 128) :
    s < almostLastString :=
  lt_ofList_replicate 15 fun c hc => lt_maxChar (h c hc)

/-- So does the text of every contact that has one. -/
theorem shownText_lt (hascii : ∀ s, ∀ c ∈ (text.unidecode s).toList, c.toNat < 128)
    {s : String} (h : shownText text order orderInsensitive contact = some s) :
    s < almostLastString := by
  obtain ⟨value, -, rfl⟩ := Option.map_eq_some_iff.1 h
  exact lt_almostLastString (hascii _)

/-- **`sort_contacts` is a stable sort**, the contacts without a text all
after those with one, and before them in the other direction. -/
theorem sortContacts_sorts (text : SortText)
    (hascii : ∀ s, ∀ c ∈ (text.unidecode s).toList, c.toNat < 128)
    (contacts : List ContactInfo) (order direction : Option String) (orderInsensitive : Bool) :
    (∀ column, order = some column → column ≠ "" →
      Sorts (shownText text column orderInsensitive) (direction = some "desc") contacts
        (sortContacts text contacts order direction orderInsensitive)) ∧
    (order.getD "" = "" →
      sortContacts text contacts order direction orderInsensitive = contacts) := by
  constructor
  · rintro column rfl hcolumn
    rw [sortContacts_eq hcolumn]
    exact sorts_sortByKey fun _ _ h => shownText_lt hascii h
  · intro horder
    have hfilter : order.filter (· ≠ "") = none := by
      cases order with
      | none => rfl
      | some column => simpa [Option.filter] using horder
    rw [sortContacts, hfilter]

/-! ## Contacts of any values -/

/-- `get_value`, for a contact with values of any type. -/
def sortFieldsValue (py : TextOps) (text : SortText) (order : String) (orderInsensitive : Bool)
    (contact : Fields) : String :=
  match (contact.get? order).getD .none with
  | .str value =>
    if value = "" then almostLastString
    else text.unidecode (if orderInsensitive then text.casefold value else value)
  | value => if value.truthy then py.str value else almostLastString

/-- `sort_contacts`, for contacts with values of any type. -/
def sortFields (py : TextOps) (text : SortText) (contacts : List Fields)
    (order direction : Option String) (orderInsensitive : Bool) : List Fields :=
  match order.filter (· ≠ "") with
  | none => contacts
  | some order =>
    sortByKey (sortFieldsValue py text order orderInsensitive) (direction = some "desc") contacts

/-- It loses no contact and makes none. -/
theorem sortFields_perm (py : TextOps) (text : SortText) (contacts : List Fields)
    (order direction : Option String) (orderInsensitive : Bool) :
    (sortFields py text contacts order direction orderInsensitive).Perm contacts := by
  unfold sortFields
  split
  · exact List.Perm.refl _
  · exact sortByKey_perm

/-! ## An empty text -/

/-- A transliteration that drops what is not ASCII. -/
def asciiText : SortText where
  casefold := id
  unidecode s := String.ofList (s.toList.filter (·.toNat < 128))

/-- It gives ASCII. -/
theorem asciiText_ascii (s : String) : ∀ c ∈ (asciiText.unidecode s).toList, c.toNat < 128 := by
  intro c hc
  rw [asciiText, String.toList_ofList] at hc
  exact of_decide_eq_true (List.mem_filter.1 hc).2

/-- A contact of one name. -/
def namedContact (name : String) : ContactInfo := Dict.ofList [("name", some name)]

/-- A contact with a name, one with none at all and one with an empty one,
sorted. -/
theorem sortContacts_sorts_three :
    Sorts (shownText asciiText "name" false) false [∅, namedContact "", namedContact "b"]
      (sortContacts asciiText [∅, namedContact "", namedContact "b"] (some "name") none false) := by
  simpa using (sortContacts_sorts asciiText asciiText_ascii [∅, namedContact "", namedContact "b"]
    (some "name") none false).1 "name" rfl (by decide)

/-- **An empty name sorts last**, though as a text it comes before all
others. -/
theorem not_sorts_of_empty :
    ¬ ∀ (text : SortText), (∀ s, ∀ c ∈ (text.unidecode s).toList, c.toNat < 128) →
      ∀ (contacts : List ContactInfo) (column : String) (direction : Option String)
        (orderInsensitive : Bool), column ≠ "" →
      Sorts (fun contact => (contact.get? column).join.map fun value =>
          text.unidecode (if orderInsensitive then text.casefold value else value))
        (direction = some "desc") contacts
        (sortContacts text contacts (some column) direction orderInsensitive) := by
  intro h
  have hsorted : sortContacts asciiText [namedContact "a", namedContact ""] (some "name") none
      false = [namedContact "a", namedContact ""] := by
    have ha : shownText asciiText "name" false (namedContact "a") = some "a" := by decide
    have hascii : ∀ c ∈ ("a" : String).toList, c.toNat < 128 := by
      intro c hc
      obtain rfl := List.mem_singleton.1 hc
      decide
    have hle : KeyLE (fun contact => (shownText asciiText "name" false contact).getD
        almostLastString) false (namedContact "a") (namedContact "") := by
      change (shownText asciiText "name" false (namedContact "a")).getD almostLastString ≤
        almostLastString
      rw [ha]
      exact (lt_almostLastString hascii).le
    rw [sortContacts_eq (by decide), sortByKey, List.insertionSort_cons, List.insertionSort_cons,
      List.insertionSort_nil, List.orderedInsert_nil]
    exact List.orderedInsert_cons_of_le _ _ hle
  have hpairs := (h asciiText asciiText_ascii [namedContact "a", namedContact ""] "name" none false
    (by decide)).ordered
  rw [hsorted] at hpairs
  have hle : "a" ≤ "" := by
    simpa using List.rel_of_pairwise_cons hpairs (List.mem_singleton.2 rfl) "a" "" (by decide)
      (by decide)
  exact absurd hle (by decide)

end

end WazoDird
