import Mathlib.Data.List.DropRight
import Mathlib.Data.List.Infix
import WazoDird.Common.Dict
import WazoDird.Common.Value

/-!
# Text

What the language does with text. Case, classes of characters, printing
and format strings are parameters (`TextOps`); replacing and stripping are
defined here.
-/

namespace WazoDird

/-- The fields of a contact. -/
abbrev Fields := Dict String Value

/-- `fields.get(column) or ''`. -/
def Fields.getOr (fields : Fields) (column : String) : Value :=
  ((fields.get? column).getD .none).or (.str "")

/-- `fields[column]`. -/
def Fields.item (fields : Fields) (column : String) : Except PyError Value :=
  match fields.get? column with
  | none => .error .keyError
  | some value => .ok value

theorem Fields.item_eq_ok {fields : Fields} {column : String} {value : Value} :
    fields.item column = .ok value ↔ fields.get? column = some value := by
  rw [Fields.item]
  cases fields.get? column <;> simp

/-- A column can be read when it is there. -/
theorem Fields.exists_item_iff {fields : Fields} {column : String} :
    (∃ value, fields.item column = .ok value) ↔ column ∈ fields.keys := by
  simp only [Fields.item_eq_ok]
  rw [Dict.mem_keys_iff, Option.isSome_iff_exists]

/-- What the language does with text. -/
structure TextOps where
  /-- `s.lower()`. -/
  lower : String → String
  /-- `str(v)`. -/
  str : Value → String
  /-- `string.Formatter().format(format_string, **fields).strip()`, none
  when it raises. -/
  format : String → Fields → Option String
  str_str : ∀ s, str (.str s) = s
  /-- Whether a character is one of a word, for a regular expression. -/
  isWord : Char → Bool
  /-- Whether a character that is not ASCII is a blank. -/
  isSpace : Char → Bool
  /-- The decimal digit that a character that is not ASCII is. -/
  decimal : Char → Option ℕ

/-- Text of digits and plain names, and format strings of one field. -/
def plainText : TextOps where
  lower s := String.ofList (s.toList.map Char.toLower)
  str
    | .str s => s
    | _ => ""
  format formatString fields :=
    ((fields.get? (String.ofList (formatString.toList.filter fun c => c ≠ '{' ∧ c ≠ '}'))).bind
      Value.asStr?)
  str_str _ := rfl
  isWord c := c.isAlphanum || c = '_'
  isSpace _ := false
  decimal _ := none

/-- `part in text`. -/
def inText (part text : String) : Bool := decide (part.toList <:+: text.toList)

/-! ## Replacing -/

/-- Replace a pattern, after as many characters of an occurrence of it are
passed over. -/
def replaceFrom (pattern value : List Char) : ℕ → List Char → List Char
  | _, [] => []
  | n + 1, _ :: cs => replaceFrom pattern value n cs
  | 0, c :: cs =>
    if pattern.isPrefixOf (c :: cs) then
      value ++ replaceFrom pattern value (pattern.length - 1) cs
    else c :: replaceFrom pattern value 0 cs

/-- **`s.replace(pattern, value)`**, of a pattern that is not empty. -/
def replaceAll (pattern value cs : List Char) : List Char := replaceFrom pattern value 0 cs

@[simp] theorem replaceAll_nil (pattern value : List Char) : replaceAll pattern value [] = [] := rfl

/-- Where the pattern does not begin, a character stays. -/
theorem replaceAll_cons {pattern value : List Char} {c : Char} {cs : List Char}
    (h : pattern.isPrefixOf (c :: cs) = false) :
    replaceAll pattern value (c :: cs) = c :: replaceAll pattern value cs := by
  rw [replaceAll, replaceFrom, if_neg (by simp [h])]
  rfl

/-- Text without the first character of the pattern stays. -/
theorem replaceAll_of_not_mem {p : Char} {pattern value cs : List Char} (h : p ∉ cs) :
    replaceAll (p :: pattern) value cs = cs := by
  induction cs with
  | nil => rfl
  | cons c cs ih =>
    rw [List.mem_cons, not_or] at h
    have hpc : (p :: pattern).isPrefixOf (c :: cs) = false := by
      simp [List.isPrefixOf, h.1]
    rw [replaceAll_cons hpc, ih h.2]

/-- Replacing a character by nothing leaves the others. -/
theorem replaceAll_singleton (p : Char) (cs : List Char) :
    replaceAll [p] [] cs = cs.filter (· ≠ p) := by
  induction cs with
  | nil => rfl
  | cons c cs ih =>
    by_cases hpc : p = c
    · subst hpc
      have hstep : replaceAll [p] [] (p :: cs) = replaceAll [p] [] cs := by
        rw [replaceAll, replaceFrom, if_pos (by simp [List.isPrefixOf])]
        rfl
      rw [hstep, ih]
      simp
    · have hbegins : [p].isPrefixOf (c :: cs) = false := by simp [List.isPrefixOf, hpc]
      rw [replaceAll_cons hbegins, ih, List.filter_cons_of_pos (by simpa using Ne.symm hpc)]

/-! ## Stripping -/

/-- `s.strip(chars)`, the characters by their test. -/
def strip (p : Char → Bool) (cs : List Char) : List Char := (cs.dropWhile p).rdropWhile p

/-- Text without such characters stays. -/
theorem strip_of_forall {p : Char → Bool} {cs : List Char} (h : ∀ c ∈ cs, p c = false) :
    strip p cs = cs := by
  have hdrop : cs.dropWhile p = cs := by
    cases cs with
    | nil => rfl
    | cons c cs => exact List.dropWhile_cons_of_neg (by simp [h c List.mem_cons_self])
  rw [strip, hdrop]
  by_cases hne : cs = []
  · subst hne
    rfl
  · exact (List.rdropWhile_eq_self_iff).2 fun hne' => by
      simp [h _ (List.getLast_mem hne')]

/-! ## Splitting what was joined -/

section Split

variable {α : Type} [BEq α] [LawfulBEq α] {a : α}

/-- A piece of a split has no separator. -/
theorem not_mem_of_mem_splitOn {piece l : List α} (h : piece ∈ l.splitOn a) : a ∉ piece := by
  induction l generalizing piece with
  | nil =>
    obtain rfl : piece = [] := by simpa using h
    exact List.not_mem_nil
  | cons x l ih =>
    rw [List.splitOn_cons_eq_if_modifyHead] at h
    obtain ⟨first, rest, hpieces⟩ := List.exists_cons_of_ne_nil (List.splitOn_ne_nil a l)
    split at h
    · rcases List.mem_cons.1 h with rfl | h
      · exact List.not_mem_nil
      · exact ih h
    · next hx =>
      rw [hpieces, List.modifyHead_cons] at h
      rcases List.mem_cons.1 h with rfl | h
      · intro hmem
        rcases List.mem_cons.1 hmem with rfl | hmem
        · exact hx BEq.rfl
        · exact ih (hpieces ▸ List.mem_cons_self) hmem
      · exact ih (hpieces ▸ List.mem_cons_of_mem _ h)

/-- What was joined is split into the pieces of each of its parts. -/
theorem splitOn_intercalate_eq_flatMap {parts : List (List α)} (h : parts ≠ []) :
    ([a].intercalate parts).splitOn a = parts.flatMap (·.splitOn a) := by
  induction parts with
  | nil => exact absurd rfl h
  | cons part parts ih =>
    cases parts with
    | nil => simp
    | cons part' parts =>
      rw [List.intercalate_cons_of_ne_nil (List.cons_ne_nil _ _), List.append_assoc,
        List.singleton_append, List.splitOn_append_cons_self, ih (List.cons_ne_nil _ _)]
      exact List.flatMap_cons.symm

/-- **A part is found among the pieces** exactly when it has no separator. -/
theorem mem_splitOn_intercalate {part : List α} {parts : List (List α)} (h : part ∈ parts) :
    part ∈ ([a].intercalate parts).splitOn a ↔ a ∉ part := by
  refine ⟨not_mem_of_mem_splitOn, fun hnot => ?_⟩
  rw [splitOn_intercalate_eq_flatMap (List.ne_nil_of_mem h)]
  refine List.mem_flatMap.2 ⟨part, h, ?_⟩
  rw [List.splitOn_eq_singleton hnot]
  exact List.mem_singleton_self part

omit [BEq α] [LawfulBEq α] in
/-- Only empty parts are joined to nothing. -/
theorem eq_nil_of_intercalate_eq_nil {part : List α} {parts : List (List α)}
    (hjoined : [a].intercalate parts = []) (h : part ∈ parts) : part = [] := by
  cases parts with
  | nil => cases h
  | cons first rest =>
    cases rest with
    | nil =>
      obtain rfl := List.mem_singleton.1 h
      simpa using hjoined
    | cons second rest =>
      rw [List.intercalate_cons_of_ne_nil (List.cons_ne_nil _ _)] at hjoined
      simp at hjoined

end Split

end WazoDird
