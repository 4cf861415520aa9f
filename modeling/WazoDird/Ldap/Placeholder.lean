import WazoDird.Common.Rfc4515.Ask
import WazoDird.Common.Text

/-!
# The placeholder of a custom filter

A custom filter has `%Q` where the term goes. Its items are read with a
hole there (`parseHoled`), before any term is known, and whatever value is
then put in the place of the placeholder, the filter parses to what was
read, the holes filled with the octets of the value (`parse_fill`). So a
value never changes the filter around it.
-/

namespace WazoDird

open Rfc4515

namespace LdapConfig

/-! ## Values with holes -/

/-- Octets, with holes where the placeholder stands. -/
abbrev Holed := List (Option UInt8)

/-- Octets in the place of the holes. -/
def fillHoles (b : Bytes) (part : Holed) : Bytes := part.flatMap fun octet? => octet?.elim b ([·])

/-- Octets and holes before the first part of an assertion. -/
def prependHoled (part : Holed) : List Holed → List Holed
  | [] => [part]
  | part' :: parts => (part ++ part') :: parts

/-- **The parts of an assertion, with a hole for each placeholder.** -/
def decodeHoled : List Char → Option (List Holed)
  | [] => some [[]]
  | '*' :: cs => (decodeHoled cs).map ([] :: ·)
  | '%' :: 'Q' :: cs => (decodeHoled cs).map (prependHoled [none])
  | '\\' :: a :: b :: cs =>
    (hexOctet? a b).bind fun octet => (decodeHoled cs).map (prependHoled [some octet])
  | c :: cs =>
    if isSpecial c then none
    else (decodeHoled cs).map (prependHoled ((String.utf8EncodeChar c).map some))

/-- An item with holes in its assertion. -/
structure HoledItem where
  attr : List Char
  op : Op
  parts : List Holed
  deriving DecidableEq, Repr

/-- Octets in the holes of an item. -/
def HoledItem.fill (b : Bytes) (item : HoledItem) : Item :=
  ⟨item.attr, item.op, item.parts.map (fillHoles b)⟩

/-- The test that an item with holes is. -/
def HoledItem.test (item : HoledItem) : Test (Option UInt8) :=
  ⟨item.attr, item.op, .ofParts item.parts⟩

/-- An item, its value read with holes. -/
def parseHoledItem (text : List Char) : Option HoledItem :=
  (parseItem text).bind fun item =>
    (decodeHoled (text.dropWhile (· ≠ '=')).tail).map fun parts => ⟨item.attr, item.op, parts⟩

/-- **Parse a filter with placeholders.** -/
def parseHoled (cs : List Char) : Option (SearchFilter HoledItem) :=
  (parseTree cs).bind (SearchFilter.traverse parseHoledItem)

theorem fillHoles_append (b : Bytes) (part part' : Holed) :
    fillHoles b (part ++ part') = fillHoles b part ++ fillHoles b part' := List.flatMap_append

/-- Octets are no holes. -/
theorem fillHoles_some (b octets : Bytes) : fillHoles b (octets.map some) = octets := by
  induction octets with
  | nil => rfl
  | cons octet octets ih => exact congrArg (octet :: ·) ih

/-- Octets fill holes with something. -/
theorem fillHoles_eq_nil {b : Bytes} (hb : b ≠ []) (part : Holed) :
    fillHoles b part = [] ↔ part = [] := by
  cases part with
  | nil => exact iff_of_true rfl rfl
  | cons octet? part =>
    refine iff_of_false (fun h => ?_) (List.cons_ne_nil _ _)
    have hfirst := (List.append_eq_nil_iff.1 h).1
    cases octet? with
    | none => exact hb hfirst
    | some octet => cases hfirst

/-- The first part is filled with what is before it. -/
theorem map_prependHoled (b : Bytes) (part : Holed) (parts : List Holed) :
    (prependHoled part parts).map (fillHoles b) =
      prepend (fillHoles b part) (parts.map (fillHoles b)) := by
  cases parts with
  | nil => rfl
  | cons part' parts => simp [prependHoled, prepend, fillHoles_append]

/-- **The test of an item filled with octets** is its test, filled. -/
theorem test_fill {b : Bytes} (hb : b ≠ []) (item : HoledItem) :
    (item.fill b).test = item.test.map (fillHoles b) := by
  rw [Item.test, HoledItem.fill, Ask.ofParts_map (fillHoles_eq_nil hb)]
  rfl

/-- What does not read as a placeholder does not begin with one. -/
theorem not_placeholder {c : Char} {cs : List Char}
    (h : ∀ cs', c = '%' → cs = 'Q' :: cs' → False) : ¬ (c = '%' ∧ cs.head? = some 'Q') := by
  rintro ⟨rfl, hhead⟩
  obtain ⟨cs', rfl⟩ := List.head?_eq_some_iff.1 hhead
  exact h cs' rfl rfl

/-- A character that stands for itself, and begins no placeholder. -/
theorem decodeHoled_plain {c : Char} {cs : List Char} (h : isSpecial c = false)
    (hplace : ¬ (c = '%' ∧ cs.head? = some 'Q')) :
    decodeHoled (c :: cs) =
      (decodeHoled cs).map (prependHoled ((String.utf8EncodeChar c).map some)) := by
  have hstar : c ≠ '*' := by rintro rfl; cases h
  have hslash : c ≠ '\\' := by rintro rfl; cases h
  rw [decodeHoled]
  · rw [if_neg (by simp [h])]
  · simpa using hstar
  · rintro cs' rfl rfl
    exact hplace ⟨rfl, rfl⟩
  · rintro a b cs' rfl
    exact absurd rfl hslash

/-- **A value can be read with holes.** -/
theorem exists_decodeHoled {cs : List Char} {parts : List Bytes}
    (h : decodeAssertion cs = some parts) : ∃ holed, decodeHoled cs = some holed := by
  induction cs using decodeHoled.induct generalizing parts with
  | case1 => exact ⟨[[]], rfl⟩
  | case2 cs ih =>
    rw [decodeAssertion] at h
    obtain ⟨parts', hparts, -⟩ := Option.map_eq_some_iff.1 h
    obtain ⟨holed, hholed⟩ := ih hparts
    exact ⟨[] :: holed, by rw [decodeHoled, hholed]; rfl⟩
  | case3 cs ih =>
    -- the two characters of the placeholder stand for themselves
    rw [decodeAssertion_plain (by decide), decodeAssertion_plain (by decide), Option.map_map] at h
    obtain ⟨parts', hparts, -⟩ := Option.map_eq_some_iff.1 h
    obtain ⟨holed, hholed⟩ := ih hparts
    exact ⟨prependHoled [none] holed, by rw [decodeHoled, hholed]; rfl⟩
  | case4 a b cs ih =>
    rw [decodeAssertion_escape] at h
    obtain ⟨octet, hoctet, h⟩ := Option.bind_eq_some_iff.1 h
    obtain ⟨parts', hparts, -⟩ := Option.map_eq_some_iff.1 h
    obtain ⟨holed, hholed⟩ := ih hparts
    exact ⟨prependHoled [some octet] holed, by rw [decodeHoled, hoctet, Option.bind_some, hholed]; rfl⟩
  | case5 c cs _ _ _ hspecial =>
    rw [decodeAssertion] at h
    · rw [if_pos hspecial] at h
      cases h
    all_goals assumption
  | case6 c cs _ hplace _ hspecial ih =>
    have hplain : isSpecial c = false := by simpa using hspecial
    rw [decodeAssertion_plain hplain] at h
    obtain ⟨parts', hparts, -⟩ := Option.map_eq_some_iff.1 h
    obtain ⟨holed, hholed⟩ := ih hparts
    have hno := not_placeholder hplace
    exact ⟨_, by rw [decodeHoled_plain hplain hno, hholed]; rfl⟩

/-! ## The placeholder replaced -/

section Placeholder

variable {v : List Char} {b : Bytes}

/-- The placeholder is replaced. -/
theorem fill_placeholder (v cs : List Char) :
    replaceAll ['%', 'Q'] v ('%' :: 'Q' :: cs) = v ++ replaceAll ['%', 'Q'] v cs := rfl

/-- Another character stays. -/
theorem fill_cons {c : Char} (h : c ≠ '%') (v cs : List Char) :
    replaceAll ['%', 'Q'] v (c :: cs) = c :: replaceAll ['%', 'Q'] v cs :=
  replaceAll_cons (by simp [List.isPrefixOf, Ne.symm h])

/-- A percent sign without the rest of the placeholder stays. -/
theorem fill_percent {cs : List Char} (h : cs.head? ≠ some 'Q') (v : List Char) :
    replaceAll ['%', 'Q'] v ('%' :: cs) = '%' :: replaceAll ['%', 'Q'] v cs := by
  refine replaceAll_cons ?_
  cases cs with
  | nil => rfl
  | cons d cs =>
    have hd : ¬ 'Q' = d := fun heq => h (congrArg some heq.symm)
    simp [List.isPrefixOf, hd]

/-- The placeholder does not stand across a text that does not begin with
its second character. -/
theorem fill_append (v : List Char) (x y : List Char) (h : y.head? ≠ some 'Q') :
    replaceAll ['%', 'Q'] v (x ++ y) =
      replaceAll ['%', 'Q'] v x ++ replaceAll ['%', 'Q'] v y := by
  match x with
  | [] => rfl
  | [c] =>
    by_cases hc : c = '%'
    · subst hc
      rw [List.singleton_append, fill_percent h, fill_percent (by simp)]
      rfl
    · rw [List.singleton_append, fill_cons hc, fill_cons hc]
      rfl
  | c :: d :: x =>
    have hshort := fill_append v x y h
    have hlong := fill_append v (d :: x) y h
    by_cases hc : c = '%'
    · subst hc
      by_cases hd : d = 'Q'
      · subst hd
        rw [List.cons_append, List.cons_append, fill_placeholder, fill_placeholder, hshort,
          List.append_assoc]
      · have hhead : (d :: x).head? ≠ some 'Q' := by simpa using hd
        have hhead' : (d :: x ++ y).head? ≠ some 'Q' := by simpa using hd
        rw [List.cons_append, fill_percent hhead', hlong, fill_percent hhead]
        rfl
    · rw [List.cons_append, fill_cons hc, hlong, fill_cons hc]
      rfl
termination_by x.length

/-- **A value in the place of the placeholder fills the holes.** -/
theorem decodeAssertion_fill (hv : decodeAssertion v = some [b]) {value : List Char}
    {holed : List Holed} (h : decodeHoled value = some holed) :
    decodeAssertion (replaceAll ['%', 'Q'] v value) = some (holed.map (fillHoles b)) := by
  induction value using decodeHoled.induct generalizing holed with
  | case1 =>
    cases h
    rfl
  | case2 cs ih =>
    rw [decodeHoled] at h
    obtain ⟨holed, hholed, rfl⟩ := Option.map_eq_some_iff.1 h
    rw [fill_cons (by decide), decodeAssertion, ih hholed]
    rfl
  | case3 cs ih =>
    rw [decodeHoled] at h
    obtain ⟨holed, hholed, rfl⟩ := Option.map_eq_some_iff.1 h
    rw [fill_placeholder, decodeAssertion_append hv, ih hholed, map_prependHoled]
    simp [fillHoles]
  | case4 a d cs ih =>
    rw [decodeHoled] at h
    obtain ⟨octet, hoctet, h⟩ := Option.bind_eq_some_iff.1 h
    obtain ⟨holed, hholed, rfl⟩ := Option.map_eq_some_iff.1 h
    -- the digits of an escape are no part of a placeholder
    have hne : ∀ e, (hexDigit? e).isSome = true → e ≠ '%' := by
      rintro e he rfl
      exact absurd he (by decide)
    obtain ⟨hi, hhi, hlo⟩ := Option.bind_eq_some_iff.1 hoctet
    obtain ⟨lo, hlo, -⟩ := Option.bind_eq_some_iff.1 hlo
    rw [fill_cons (by decide), fill_cons (hne a (by rw [hhi]; rfl)),
      fill_cons (hne d (by rw [hlo]; rfl)), decodeAssertion_escape, hoctet, Option.bind_some,
      ih hholed, map_prependHoled]
    rfl
  | case5 c cs _ _ _ hspecial =>
    rw [decodeHoled] at h
    · rw [if_pos hspecial] at h
      cases h
    all_goals assumption
  | case6 c cs _ hplace _ hspecial ih =>
    have hplain : isSpecial c = false := by simpa using hspecial
    have hno := not_placeholder hplace
    rw [decodeHoled_plain hplain hno] at h
    obtain ⟨holed, hholed, rfl⟩ := Option.map_eq_some_iff.1 h
    have hstay : replaceAll ['%', 'Q'] v (c :: cs) = c :: replaceAll ['%', 'Q'] v cs := by
      by_cases hp : c = '%'
      · subst hp
        exact fill_percent (fun hhead => hno ⟨rfl, hhead⟩) v
      · exact fill_cons hp v cs
    rw [hstay, decodeAssertion_plain hplain, ih hholed, map_prependHoled, fillHoles_some]
    rfl

/-- The placeholder may be replaced by itself. -/
theorem fill_self (cs : List Char) : replaceAll ['%', 'Q'] ['%', 'Q'] cs = cs := by
  match cs with
  | [] => rfl
  | [c] =>
    by_cases hc : c = '%'
    · subst hc
      rfl
    · rw [fill_cons hc, replaceAll_nil]
  | c :: d :: cs =>
    have hshort := fill_self cs
    have hlong := fill_self (d :: cs)
    by_cases hc : c = '%'
    · subst hc
      by_cases hd : d = 'Q'
      · subst hd
        rw [fill_placeholder, hshort]
        rfl
      · rw [fill_percent (by simpa using hd), hlong]
    · rw [fill_cons hc, hlong]
termination_by cs.length

/-- **An item can be read with holes**, and with a value in the place of the
placeholder it is the item so read, filled. -/
theorem parseItem_fill {text : List Char} {item : Item} (h : parseItem text = some item)
    (htext : IsItemText text) :
    ∃ holed, parseHoledItem text = some holed ∧
      ∀ {v : List Char} {b : Bytes}, decodeAssertion v = some [b] →
        parseItem (replaceAll ['%', 'Q'] v text) = some (holed.fill b) ∧
          IsItemText (replaceAll ['%', 'Q'] v text) := by
  obtain ⟨lhs, value, rfl, hne, hchars, -, hparts, hother⟩ := parseItem_spec h
  obtain ⟨holed, hholed⟩ := exists_decodeHoled hparts
  have hclear : ∀ {c : Char}, isLhsChar c = false → c ∉ lhs := by
    intro c hc hmem
    rw [hchars c hmem] at hc
    cases hc
  have hvalue : ((lhs ++ '=' :: value).dropWhile (· ≠ '=')).tail = value := by
    rw [(span_equality (hclear (by decide)) value).2, List.tail_cons]
  -- as many parts as without a value
  have hlength : holed.length = item.parts.length := by
    have hself := decodeAssertion_fill (v := ['%', 'Q']) (b := utf8 ['%', 'Q']) (by decide) hholed
    rw [fill_self, hparts] at hself
    rw [Option.some.inj hself, List.length_map]
  refine ⟨⟨item.attr, item.op, holed⟩, by rw [parseHoledItem, h, hvalue, hholed]; rfl, ?_⟩
  intro v b hv
  have hfill : replaceAll ['%', 'Q'] v (lhs ++ '=' :: value) =
      lhs ++ '=' :: replaceAll ['%', 'Q'] v value := by
    rw [fill_append v _ _ (by simp), replaceAll_of_not_mem (hclear (by decide)),
      fill_cons (by decide)]
  have hfilled := decodeAssertion_fill hv hholed
  obtain ⟨hopen, hclose⟩ := no_paren_of_decodeAssertion hfilled
  rw [hfill]
  refine ⟨hother _ _ hfilled (by rw [List.length_map, hlength]), ?_, ?_, ?_⟩
  · have hlhs : '(' ∉ lhs := hclear (by decide)
    simp [hlhs, hopen]
  · have hlhs : ')' ∉ lhs := hclear (by decide)
    simp [hlhs, hclose]
  · obtain ⟨-, -, c, cs, hcons, hc⟩ := htext
    cases lhs with
    | nil => exact absurd rfl hne
    | cons d lhs =>
      obtain ⟨rfl, -⟩ := List.cons.inj hcons
      exact ⟨d, _, rfl, hc⟩

mutual

/-- A filter with the placeholder replaced in its items. -/
def fillTree (v : List Char) : Tree → Tree
  | .and fs => .and (fillTrees v fs)
  | .or fs => .or (fillTrees v fs)
  | .not f => .not (fillTree v f)
  | .item text => .item (replaceAll ['%', 'Q'] v text)

/-- The filters of a list with the placeholder replaced in their items. -/
def fillTrees (v : List Char) : List Tree → List Tree
  | [] => []
  | f :: fs => fillTree v f :: fillTrees v fs

end

/-- A filter begins with a parenthesis, a list of them too. -/
theorem head?_renderAll (fs : List Tree) : (renderAll fs).head? ≠ some 'Q' := by
  cases fs with
  | nil => simp [renderAll]
  | cons f fs => cases f <;> simp [renderAll, render]

mutual

/-- **The placeholder stands in items only.** -/
theorem fill_render (v : List Char) (f : Tree) :
    replaceAll ['%', 'Q'] v (render f) = render (fillTree v f) := by
  match f with
  | .and fs =>
    rw [render, fill_cons (by decide), fill_cons (by decide), fill_append v _ _ (by simp),
      fill_renderAll v fs, fillTree, render]
    rfl
  | .or fs =>
    rw [render, fill_cons (by decide), fill_cons (by decide), fill_append v _ _ (by simp),
      fill_renderAll v fs, fillTree, render]
    rfl
  | .not f =>
    rw [render, fill_cons (by decide), fill_cons (by decide), fill_append v _ _ (by simp),
      fill_render v f, fillTree, render]
    rfl
  | .item text =>
    rw [render, fill_cons (by decide), fill_append v _ _ (by simp), fillTree, render]
    rfl

/-- And in the items of a list of filters. -/
theorem fill_renderAll (v : List Char) (fs : List Tree) :
    replaceAll ['%', 'Q'] v (renderAll fs) = renderAll (fillTrees v fs) := by
  match fs with
  | [] => rfl
  | f :: fs =>
    rw [renderAll, fill_append v _ _ (head?_renderAll fs), fill_render v f, fill_renderAll v fs,
      fillTrees, renderAll]

end

mutual

/-- **A filter can be read with holes**, and with a value in the place of the
placeholder it is the filter so read, filled. -/
theorem traverse_fillTree (f : Tree) {g : SearchFilter Item} (hf : WellFormed f)
    (h : f.traverse parseItem = some g) :
    ∃ holed, f.traverse parseHoledItem = some holed ∧
      ∀ {v : List Char} {b : Bytes}, decodeAssertion v = some [b] →
        (fillTree v f).traverse parseItem = some (holed.map (HoledItem.fill b)) ∧
          WellFormed (fillTree v f) := by
  match f with
  | .and fs =>
    obtain ⟨gs, hgs, -⟩ := Option.map_eq_some_iff.1 h
    obtain ⟨holed, hholed, hfilled⟩ := traverse_fillTrees fs hf hgs
    refine ⟨.and holed, by rw [SearchFilter.traverse, hholed]; rfl, fun hv => ?_⟩
    obtain ⟨hread, hgood⟩ := hfilled hv
    exact ⟨by rw [fillTree, SearchFilter.traverse, hread]; rfl, hgood⟩
  | .or fs =>
    obtain ⟨gs, hgs, -⟩ := Option.map_eq_some_iff.1 h
    obtain ⟨holed, hholed, hfilled⟩ := traverse_fillTrees fs hf hgs
    refine ⟨.or holed, by rw [SearchFilter.traverse, hholed]; rfl, fun hv => ?_⟩
    obtain ⟨hread, hgood⟩ := hfilled hv
    exact ⟨by rw [fillTree, SearchFilter.traverse, hread]; rfl, hgood⟩
  | .not f =>
    obtain ⟨g, hg, -⟩ := Option.map_eq_some_iff.1 h
    obtain ⟨holed, hholed, hfilled⟩ := traverse_fillTree f hf hg
    refine ⟨.not holed, by rw [SearchFilter.traverse, hholed]; rfl, fun hv => ?_⟩
    obtain ⟨hread, hgood⟩ := hfilled hv
    exact ⟨by rw [fillTree, SearchFilter.traverse, hread]; rfl, hgood⟩
  | .item text =>
    obtain ⟨item, hitem, -⟩ := Option.map_eq_some_iff.1 h
    obtain ⟨holed, hholed, hfilled⟩ := parseItem_fill hitem hf
    refine ⟨.item holed, by rw [SearchFilter.traverse, hholed]; rfl, fun hv => ?_⟩
    obtain ⟨hread, hgood⟩ := hfilled hv
    exact ⟨by rw [fillTree, SearchFilter.traverse, hread]; rfl, hgood⟩

/-- And the filters of a list. -/
theorem traverse_fillTrees (fs : List Tree) {gs : List (SearchFilter Item)}
    (hfs : AllWellFormed fs) (h : traverseAll parseItem fs = some gs) :
    ∃ holed, traverseAll parseHoledItem fs = some holed ∧
      ∀ {v : List Char} {b : Bytes}, decodeAssertion v = some [b] →
        traverseAll parseItem (fillTrees v fs) = some (mapAll (HoledItem.fill b) holed) ∧
          AllWellFormed (fillTrees v fs) := by
  match fs with
  | [] => exact ⟨[], rfl, fun _ => ⟨rfl, trivial⟩⟩
  | f :: fs =>
    obtain ⟨g, hg, h⟩ := Option.bind_eq_some_iff.1 h
    obtain ⟨gs, hgs, -⟩ := Option.map_eq_some_iff.1 h
    obtain ⟨holed, hholed, hfilled⟩ := traverse_fillTree f hfs.1 hg
    obtain ⟨holeds, hholeds, hfilleds⟩ := traverse_fillTrees fs hfs.2 hgs
    refine ⟨holed :: holeds, by rw [traverseAll, hholed, hholeds]; rfl, fun hv => ?_⟩
    obtain ⟨hread, hgood⟩ := hfilled hv
    obtain ⟨hreads, hgoods⟩ := hfilleds hv
    exact ⟨by rw [fillTrees, traverseAll, hread, hreads]; rfl, hgood, hgoods⟩

end

/-- **A value never changes the filter around it**: the filter is read with
holes, and parses to what was read, filled, whatever the value. -/
theorem parse_fill {cs : List Char} {f : SearchFilter Item} (h : parse cs = some f) :
    ∃ holed, parseHoled cs = some holed ∧
      ∀ {v : List Char} {b : Bytes}, decodeAssertion v = some [b] →
        parse (replaceAll ['%', 'Q'] v cs) = some (holed.map (HoledItem.fill b)) := by
  obtain ⟨tree, htree, hread⟩ := Option.bind_eq_some_iff.1 h
  obtain ⟨rfl, hgood⟩ := parseTree_eq_some_iff.1 htree
  obtain ⟨holed, hholed, hfilled⟩ := traverse_fillTree tree hgood hread
  refine ⟨holed, by rw [parseHoled, htree, Option.bind_some, hholed], fun hv => ?_⟩
  obtain ⟨hread', hgood'⟩ := hfilled hv
  rw [fill_render, parse, parseTree_render _ hgood', Option.bind_some, hread']

/-- The placeholder fills the holes with itself. -/
theorem parse_eq_fill {cs : List Char} {f : SearchFilter Item} (h : parse cs = some f) :
    ∃ holed, parseHoled cs = some holed ∧ f = holed.map (HoledItem.fill (utf8 ['%', 'Q'])) := by
  obtain ⟨holed, hholed, hfilled⟩ := parse_fill h
  have hself := hfilled (v := ['%', 'Q']) (b := utf8 ['%', 'Q']) (by decide)
  rw [fill_self, h] at hself
  exact ⟨holed, hholed, Option.some.inj hself⟩

end Placeholder

end LdapConfig

end WazoDird
