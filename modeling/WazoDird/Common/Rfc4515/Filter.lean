import Mathlib.Data.List.TakeWhile
import WazoDird.Common.Rfc4515.Assertion
import WazoDird.Common.Rfc4515.Parens

/-!
# Search filters

The items of a search filter (`parseItem`), the filters they make
(`parse`), and their truth, which may be undefined (`SearchFilter.eval`).
-/

namespace WazoDird

namespace Rfc4515

variable {α β : Type}

/-! ## Items -/

/-- How an item compares. -/
inductive Op where
  | equal
  | approx
  | ge
  | le
  | extensible
  deriving DecidableEq, Repr

/-- **An item**: the parts of its assertion are one for a comparison with a
value, two empty ones for a test of presence, and more, or not empty, for
a comparison with substrings. -/
structure Item where
  attr : List Char
  op : Op
  parts : List Bytes
  deriving DecidableEq, Repr

/-- A character of an attribute description. -/
def isAttrChar (c : Char) : Bool := c.isAlphanum || c = '-' || c = '.' || c = ';'

/-- An attribute description, by its characters: it begins with a letter
or a digit. -/
def isAttr : List Char → Bool
  | [] => false
  | c :: cs => c.isAlphanum && cs.all isAttrChar

/-- The left side of an extensible item, by its characters. -/
def isExtensible (lhs : List Char) : Bool :=
  lhs ≠ [] && lhs.all fun c => isAttrChar c || c = ':'

/-- The attribute and the operator of what stands before `=`. -/
def splitOp (lhs : List Char) : List Char × Op :=
  match lhs.getLast? with
  | some '~' => (lhs.dropLast, .approx)
  | some '>' => (lhs.dropLast, .ge)
  | some '<' => (lhs.dropLast, .le)
  | some ':' => (lhs.dropLast, .extensible)
  | _ => (lhs, .equal)

/-- The left side of an operator is one it takes. -/
def attrFits (attr : List Char) : Op → Bool
  | .extensible => isExtensible attr
  | _ => isAttr attr

/-- **Parse an item.** Only equality takes asterisks. -/
def parseItem (text : List Char) : Option Item :=
  match text.dropWhile (· ≠ '=') with
  | [] => none
  | _ :: value =>
    let lhs := splitOp (text.takeWhile (· ≠ '='))
    (decodeAssertion value).bind fun parts =>
      if attrFits lhs.1 lhs.2 && (lhs.2 = .equal || parts.length = 1) then
        some ⟨lhs.1, lhs.2, parts⟩
      else none

/-- An attribute has no character of the syntax. -/
theorem not_mem_of_isAttr {attr : List Char} (h : isAttr attr = true) {c : Char}
    (hc : isAttrChar c = false) : c ∉ attr := by
  cases attr with
  | nil => exact List.not_mem_nil
  | cons d ds =>
    rw [isAttr, Bool.and_eq_true, List.all_eq_true] at h
    intro hmem
    have hchar : isAttrChar c = true := by
      rcases List.mem_cons.1 hmem with rfl | hmem
      · simp [isAttrChar, h.1]
      · exact h.2 c hmem
    rw [hc] at hchar
    cases hchar

/-- The text of an equality splits where it should. -/
theorem span_equality {attr : List Char} (h : '=' ∉ attr) (value : List Char) :
    (attr ++ '=' :: value).takeWhile (· ≠ '=') = attr ∧
      (attr ++ '=' :: value).dropWhile (· ≠ '=') = '=' :: value := by
  have hall : ∀ c ∈ attr, decide (c ≠ '=') = true := by
    intro c hc
    have hne : c ≠ '=' := by rintro rfl; exact h hc
    simpa using hne
  constructor
  · rw [List.takeWhile_append_of_pos hall]
    simp
  · rw [List.dropWhile_append_of_pos hall]
    simp

/-- The last character of an attribute is no operator. -/
theorem splitOp_of_isAttr {attr : List Char} (h : isAttr attr = true) :
    splitOp attr = (attr, .equal) := by
  have hno : ∀ c, attr.getLast? = some c → isAttrChar c = true := by
    intro c hc
    by_contra hne
    exact not_mem_of_isAttr h (by simpa using hne) (List.mem_of_getLast? hc)
  unfold splitOp
  split
  all_goals first
    | rfl
    | next hlast => exact absurd (hno _ hlast) (by decide)

/-- **An equality, parsed.** -/
theorem parseItem_equality {attr : List Char} (h : isAttr attr = true) (value : List Char) :
    parseItem (attr ++ '=' :: value) =
      (decodeAssertion value).map fun parts => ⟨attr, .equal, parts⟩ := by
  obtain ⟨htake, hdrop⟩ := span_equality (not_mem_of_isAttr h (c := '=') (by decide)) value
  unfold parseItem
  simp only [hdrop, htake, splitOp_of_isAttr h, attrFits, h, Bool.true_and, decide_true,
    Bool.true_or, if_true]
  cases decodeAssertion value <;> rfl

/-- The text of an equality can stand as an item. -/
theorem isItemText_equality {attr value : List Char} (h : isAttr attr = true)
    (hvalue : '(' ∉ value ∧ ')' ∉ value) : IsItemText (attr ++ '=' :: value) := by
  refine ⟨?_, ?_, ?_⟩
  · simp [not_mem_of_isAttr h (c := '(') (by decide), hvalue.1]
  · simp [not_mem_of_isAttr h (c := ')') (by decide), hvalue.2]
  · cases attr with
    | nil => cases h
    | cons c cs =>
      rw [isAttr, Bool.and_eq_true] at h
      refine ⟨c, cs ++ '=' :: value, rfl, ?_, ?_, ?_⟩ <;> rintro rfl <;> exact absurd h.1 (by decide)

/-- A character of the left side of an item. -/
def isLhsChar (c : Char) : Bool := isAttrChar c || c = '~' || c = '>' || c = '<' || c = ':'

/-- The left side of an operator, and the operator, are made of their
characters. -/
theorem isLhsChar_of_attrFits {lhs : List Char}
    (h : attrFits (splitOp lhs).1 (splitOp lhs).2 = true) :
    lhs ≠ [] ∧ ∀ c ∈ lhs, isLhsChar c = true := by
  have hattr : ∀ {attr : List Char} {op : Op}, attrFits attr op = true →
      attr ≠ [] ∧ ∀ c ∈ attr, isLhsChar c = true := by
    intro attr op hfits
    by_cases hop : op = .extensible
    · subst hop
      simp only [attrFits, isExtensible, Bool.and_eq_true, decide_eq_true_eq,
        List.all_eq_true, Bool.or_eq_true] at hfits
      refine ⟨hfits.1, fun c hc => ?_⟩
      rcases hfits.2 c hc with hchar | hcolon
      · simp [isLhsChar, hchar]
      · simp [isLhsChar, hcolon]
    · have hisAttr : isAttr attr = true := by
        cases op <;> first
          | exact hfits
          | exact absurd rfl hop
      refine ⟨fun hnil => (by rw [hnil] at hisAttr; cases hisAttr), fun c hc => ?_⟩
      by_contra hne
      have hchar : isAttrChar c = false := by
        simp only [isLhsChar, Bool.or_eq_true, not_or] at hne
        simpa using hne.1.1.1.1
      exact not_mem_of_isAttr hisAttr hchar hc
  -- the last character is of the attribute, or an operator
  have hlast : ∀ {op : Char}, lhs.getLast? = some op → isLhsChar op = true →
      (∀ c ∈ lhs.dropLast, isLhsChar c = true) → lhs ≠ [] ∧ ∀ c ∈ lhs, isLhsChar c = true := by
    intro op hop hchar hrest
    have hne : lhs ≠ [] := by
      rintro rfl
      cases hop
    refine ⟨hne, fun c hc => ?_⟩
    rw [← List.dropLast_append_getLast hne] at hc
    rcases List.mem_append.1 hc with hc | hc
    · exact hrest c hc
    · rw [List.mem_singleton.1 hc,
        ← Option.some.inj (hop.symm.trans (List.getLast?_eq_some_getLast hne))]
      exact hchar
  unfold splitOp at h
  split at h
  · next hop => exact hlast hop (by decide) (hattr h).2
  · next hop => exact hlast hop (by decide) (hattr h).2
  · next hop => exact hlast hop (by decide) (hattr h).2
  · next hop => exact hlast hop (by decide) (hattr h).2
  · exact hattr h

/-- **An item that parses, in its parts**: what its left side is made of
and gives, and that another value of as many parts may stand there. -/
theorem parseItem_spec {text : List Char} {item : Item} (h : parseItem text = some item) :
    ∃ lhs value, text = lhs ++ '=' :: value ∧ lhs ≠ [] ∧ (∀ c ∈ lhs, isLhsChar c = true) ∧
      splitOp lhs = (item.attr, item.op) ∧ decodeAssertion value = some item.parts ∧
      ∀ value' parts', decodeAssertion value' = some parts' → parts'.length = item.parts.length →
        parseItem (lhs ++ '=' :: value') = some ⟨item.attr, item.op, parts'⟩ := by
  unfold parseItem at h
  split at h
  · cases h
  · next d value hdrop =>
    obtain ⟨parts, hparts, h⟩ := Option.bind_eq_some_iff.1 h
    split at h
    · next hfits =>
      rw [Bool.and_eq_true] at hfits
      have hd : d = '=' := by
        have hhead := List.head?_dropWhile_not (fun c => decide (c ≠ '=')) text
        rw [hdrop] at hhead
        simpa using hhead
      subst hd
      obtain ⟨hne, hchars⟩ := isLhsChar_of_attrFits hfits.1
      have heq : '=' ∉ text.takeWhile (fun c => decide (c ≠ '=')) := by
        intro hmem
        have hne := List.mem_takeWhile_imp hmem
        simp at hne
      cases h
      refine ⟨text.takeWhile (fun c => decide (c ≠ '=')), value, ?_, hne, hchars, rfl, hparts, ?_⟩
      · rw [← hdrop, List.takeWhile_append_dropWhile]
      · intro value' parts' hparts' hlength
        obtain ⟨htake, hdrop'⟩ := span_equality heq value'
        unfold parseItem
        simp only [htake, hdrop', hparts', Option.bind_some]
        rw [hlength, if_pos (by rw [Bool.and_eq_true]; exact hfits)]
    · cases h

/-- What parses to an equality is the text of one. -/
theorem exists_value_of_parseItem {text attr : List Char} {parts : List Bytes}
    (h : parseItem text = some ⟨attr, .equal, parts⟩) :
    ∃ value, text = attr ++ '=' :: value ∧ decodeAssertion value = some parts := by
  obtain ⟨lhs, value, rfl, -, -, hsplit, hparts, -⟩ := parseItem_spec h
  refine ⟨value, ?_, hparts⟩
  have hlhs : lhs = attr := by
    unfold splitOp at hsplit
    split at hsplit
    · cases hsplit
    · cases hsplit
    · cases hsplit
    · cases hsplit
    · exact congrArg Prod.fst hsplit
  rw [hlhs]

/-! ## Filters -/

mutual

/-- Read the items of a filter. -/
def SearchFilter.traverse (f : α → Option β) : SearchFilter α → Option (SearchFilter β)
  | .and fs => (traverseAll f fs).map .and
  | .or fs => (traverseAll f fs).map .or
  | .not g => (g.traverse f).map .not
  | .item a => (f a).map .item

/-- Read the items of a list of filters. -/
def traverseAll (f : α → Option β) : List (SearchFilter α) → Option (List (SearchFilter β))
  | [] => some []
  | g :: gs => (g.traverse f).bind fun g' => (traverseAll f gs).map (g' :: ·)

end

/-- What is read to an item is one. -/
theorem exists_text_of_traverse {tree : Tree} {i : Item}
    (h : tree.traverse parseItem = some (.item i)) :
    ∃ text, tree = .item text ∧ parseItem text = some i := by
  cases tree with
  | item text =>
    obtain ⟨i', hi, hitem⟩ := Option.map_eq_some_iff.1 h
    cases hitem
    exact ⟨text, rfl, hi⟩
  | and trees =>
    obtain ⟨_, -, hand⟩ := Option.map_eq_some_iff.1 h
    cases hand
  | or trees =>
    obtain ⟨_, -, hor⟩ := Option.map_eq_some_iff.1 h
    cases hor
  | not tree =>
    obtain ⟨_, -, hnot⟩ := Option.map_eq_some_iff.1 h
    cases hnot

/-- **Parse a filter.** -/
def parse (cs : List Char) : Option (SearchFilter Item) :=
  (parseTree cs).bind (SearchFilter.traverse parseItem)

/-- A list of texts that parse, one after another, is the text of filters
that are read to what they parse to. -/
theorem exists_renderAll {texts : List (List Char)} {fs : List (SearchFilter Item)}
    (h : List.Forall₂ (fun cs f => parse cs = some f) texts fs) :
    ∃ trees, renderAll trees = texts.flatten ∧ AllWellFormed trees ∧
      traverseAll parseItem trees = some fs := by
  induction h with
  | nil => exact ⟨[], rfl, trivial, rfl⟩
  | cons hparse _ ih =>
    obtain ⟨tree, htree, hread⟩ := Option.bind_eq_some_iff.1 hparse
    obtain ⟨htext, hgood⟩ := parseTree_eq_some_iff.1 htree
    obtain ⟨trees, htexts, hgoods, hreads⟩ := ih
    refine ⟨tree :: trees, ?_, ⟨hgood, hgoods⟩, ?_⟩
    · rw [renderAll, htext, htexts, List.flatten_cons]
    · rw [traverseAll, hread, Option.bind_some, hreads]
      rfl

/-- **The disjunction of texts that parse.** -/
theorem parse_or {texts : List (List Char)} {fs : List (SearchFilter Item)}
    (h : List.Forall₂ (fun cs f => parse cs = some f) texts fs) :
    parse ('(' :: '|' :: (texts.flatten ++ [')'])) = some (.or fs) := by
  obtain ⟨trees, htexts, hgoods, hreads⟩ := exists_renderAll h
  have hrender : render (.or trees) = '(' :: '|' :: (texts.flatten ++ [')']) := by
    rw [render, htexts]
  rw [parse, ← hrender, parseTree_render (.or trees) hgoods, Option.bind_some, SearchFilter.traverse,
    hreads]
  rfl

/-- **The conjunction of texts that parse.** -/
theorem parse_and {texts : List (List Char)} {fs : List (SearchFilter Item)}
    (h : List.Forall₂ (fun cs f => parse cs = some f) texts fs) :
    parse ('(' :: '&' :: (texts.flatten ++ [')'])) = some (.and fs) := by
  obtain ⟨trees, htexts, hgoods, hreads⟩ := exists_renderAll h
  have hrender : render (.and trees) = '(' :: '&' :: (texts.flatten ++ [')']) := by
    rw [render, htexts]
  rw [parse, ← hrender, parseTree_render (.and trees) hgoods, Option.bind_some, SearchFilter.traverse,
    hreads]
  rfl

/-- **An equality with a value.** -/
theorem parse_equality {attr value : List Char} {b : Bytes} (h : isAttr attr = true)
    (hvalue : decodeAssertion value = some [b]) :
    parse ('(' :: (attr ++ '=' :: value ++ [')'])) = some (.item ⟨attr, .equal, [b]⟩) := by
  have hgood : WellFormed (.item (attr ++ '=' :: value)) :=
    isItemText_equality h (no_paren_of_decodeAssertion hvalue)
  have htree := parseTree_render (.item (attr ++ '=' :: value)) hgood
  rw [render] at htree
  rw [parse, htree, Option.bind_some, SearchFilter.traverse, parseItem_equality h, hvalue]
  rfl

/-- What parses to an item is one between parentheses. -/
theorem exists_text_of_parse {cs : List Char} {i : Item} (h : parse cs = some (.item i)) :
    ∃ text, cs = '(' :: (text ++ [')']) ∧ parseItem text = some i := by
  obtain ⟨tree, htree, hread⟩ := Option.bind_eq_some_iff.1 h
  obtain ⟨rfl, -⟩ := parseTree_eq_some_iff.1 htree
  obtain ⟨text, rfl, hitem⟩ := exists_text_of_traverse hread
  exact ⟨text, rfl, hitem⟩

/-- What parses to a disjunction is a list of filters, each read. -/
theorem exists_trees_of_parse {cs : List Char} {fs : List (SearchFilter Item)}
    (h : parse cs = some (.or fs)) :
    ∃ trees, cs = '(' :: '|' :: (renderAll trees ++ [')']) ∧
      traverseAll parseItem trees = some fs := by
  obtain ⟨tree, htree, hread⟩ := Option.bind_eq_some_iff.1 h
  obtain ⟨rfl, -⟩ := parseTree_eq_some_iff.1 htree
  cases tree with
  | or trees =>
    obtain ⟨fs', hfs, hor⟩ := Option.map_eq_some_iff.1 hread
    cases hor
    exact ⟨trees, rfl, hfs⟩
  | and trees =>
    obtain ⟨_, -, hand⟩ := Option.map_eq_some_iff.1 hread
    cases hand
  | not tree =>
    obtain ⟨_, -, hnot⟩ := Option.map_eq_some_iff.1 hread
    cases hnot
  | item text =>
    obtain ⟨_, -, hitem⟩ := Option.map_eq_some_iff.1 hread
    cases hitem

/-- The disjunction of filters, which one filter is by itself. -/
def disjunction : List (SearchFilter α) → SearchFilter α
  | [f] => f
  | fs => .or fs

/-! ## Evaluation -/

/-- Both, of truth values that may be undefined. -/
def and3 : Option Bool → Option Bool → Option Bool
  | some false, _ | _, some false => some false
  | some true, b => b
  | none, _ => none

/-- Either, of truth values that may be undefined. -/
def or3 : Option Bool → Option Bool → Option Bool
  | some true, _ | _, some true => some true
  | some false, b => b
  | none, _ => none

mutual

/-- **The truth of a filter**, from that of its items. -/
def SearchFilter.eval (leaf : α → Option Bool) : SearchFilter α → Option Bool
  | .and fs => evalAnd leaf fs
  | .or fs => evalOr leaf fs
  | .not f => (f.eval leaf).map (!·)
  | .item a => leaf a

/-- All of a list of filters. -/
def evalAnd (leaf : α → Option Bool) : List (SearchFilter α) → Option Bool
  | [] => some true
  | f :: fs => and3 (f.eval leaf) (evalAnd leaf fs)

/-- Some of a list of filters. -/
def evalOr (leaf : α → Option Bool) : List (SearchFilter α) → Option Bool
  | [] => some false
  | f :: fs => or3 (f.eval leaf) (evalOr leaf fs)

end

/-- A filter is satisfied when it is true, not when it is undefined. -/
def SearchFilter.Satisfied (leaf : α → Option Bool) (f : SearchFilter α) : Prop :=
  f.eval leaf = some true

instance (leaf : α → Option Bool) (f : SearchFilter α) : Decidable (f.Satisfied leaf) :=
  inferInstanceAs (Decidable (f.eval leaf = some true))

theorem or3_eq_true {a b : Option Bool} :
    or3 a b = some true ↔ a = some true ∨ b = some true := by
  match a, b with
  | none, none | none, some true | none, some false | some true, none | some false, none
  | some true, some true | some true, some false | some false, some true
  | some false, some false => decide

theorem and3_eq_true {a b : Option Bool} :
    and3 a b = some true ↔ a = some true ∧ b = some true := by
  match a, b with
  | none, none | none, some true | none, some false | some true, none | some false, none
  | some true, some true | some true, some false | some false, some true
  | some false, some false => decide

/-- **A conjunction is satisfied when all of its filters are.** -/
theorem satisfied_and {leaf : α → Option Bool} {fs : List (SearchFilter α)} :
    (SearchFilter.and fs).Satisfied leaf ↔ ∀ f ∈ fs, f.Satisfied leaf := by
  rw [SearchFilter.Satisfied, SearchFilter.eval]
  induction fs with
  | nil => simp [evalAnd]
  | cons f fs ih =>
    rw [evalAnd, and3_eq_true, ih, List.forall_mem_cons]
    rfl

/-- **A disjunction is satisfied when one of its filters is.** -/
theorem satisfied_or {leaf : α → Option Bool} {fs : List (SearchFilter α)} :
    (SearchFilter.or fs).Satisfied leaf ↔ ∃ f ∈ fs, f.Satisfied leaf := by
  rw [SearchFilter.Satisfied, SearchFilter.eval]
  induction fs with
  | nil => simp [evalOr]
  | cons f fs ih =>
    rw [evalOr, or3_eq_true, ih, List.exists_mem_cons_iff]
    rfl

theorem satisfied_disjunction {leaf : α → Option Bool} {fs : List (SearchFilter α)} :
    (disjunction fs).Satisfied leaf ↔ ∃ f ∈ fs, f.Satisfied leaf := by
  unfold disjunction
  split
  · simp
  · exact satisfied_or

/-- An item is satisfied when it is true. -/
@[simp] theorem satisfied_item {leaf : α → Option Bool} {a : α} :
    (SearchFilter.item a).Satisfied leaf ↔ leaf a = some true := by
  rw [SearchFilter.Satisfied, SearchFilter.eval]

end Rfc4515

end WazoDird
