import WazoDird.Common.Rfc4515.Filter

/-!
# What an item asks for

RFC 4511 makes an equality a choice: a value, presence, or substrings,
those before the first asterisk and after the last named apart. The choice
is read off the parts of the assertion (`Ask.ofParts`), and a function that
keeps empty parts empty, and only those, does not change it
(`Ask.ofParts_map`).
-/

namespace WazoDird

namespace Rfc4515

variable {α β γ δ : Type}

/-! ## A function on the items of a filter -/

mutual

/-- A function on the items of a filter. -/
def SearchFilter.map (f : α → β) : SearchFilter α → SearchFilter β
  | .and fs => .and (mapAll f fs)
  | .or fs => .or (mapAll f fs)
  | .not g => .not (g.map f)
  | .item a => .item (f a)

/-- A function on the items of a list of filters. -/
def mapAll (f : α → β) : List (SearchFilter α) → List (SearchFilter β)
  | [] => []
  | g :: gs => g.map f :: mapAll f gs

end

mutual

/-- One function after another, of which another does the same. -/
theorem SearchFilter.map_map {f : α → β} {g : β → γ} {f' : α → δ} {g' : δ → γ}
    (h : ∀ a, g (f a) = g' (f' a)) (t : SearchFilter α) :
    (t.map f).map g = (t.map f').map g' := by
  match t with
  | .and ts => simp only [SearchFilter.map, mapAll_mapAll h ts]
  | .or ts => simp only [SearchFilter.map, mapAll_mapAll h ts]
  | .not t => simp only [SearchFilter.map, SearchFilter.map_map h t]
  | .item a => simp only [SearchFilter.map, h a]

/-- And on a list of filters. -/
theorem mapAll_mapAll {f : α → β} {g : β → γ} {f' : α → δ} {g' : δ → γ}
    (h : ∀ a, g (f a) = g' (f' a)) (ts : List (SearchFilter α)) :
    mapAll g (mapAll f ts) = mapAll g' (mapAll f' ts) := by
  match ts with
  | [] => rfl
  | t :: ts => simp only [mapAll, SearchFilter.map_map h t, mapAll_mapAll h ts]

end

theorem mapAll_eq_map (f : α → β) (fs : List (SearchFilter α)) :
    mapAll f fs = fs.map (SearchFilter.map f) := by
  induction fs with
  | nil => rfl
  | cons g gs ih => rw [mapAll, ih, List.map_cons]

/-- A disjunction, its filters each with the function. -/
theorem map_disjunction (f : α → β) (fs : List (SearchFilter α)) :
    (disjunction fs).map f = disjunction (fs.map (SearchFilter.map f)) := by
  match fs with
  | [] => rfl
  | [g] => rfl
  | g :: g' :: gs => exact congrArg SearchFilter.or (mapAll_eq_map f (g :: g' :: gs))

/-! ## The choice -/

/-- **What the parts of an assertion ask of an attribute**: a value, that
there is one, or substrings. -/
inductive Ask (γ : Type) where
  | value (v : List γ)
  | present
  | substrings (initial : Option (List γ)) (any : List (List γ)) (final : Option (List γ))
  deriving DecidableEq, Repr

/-- A part at an end of an assertion, which may be left out. -/
def endPart : List γ → Option (List γ)
  | [] => none
  | c :: cs => some (c :: cs)

/-- **The choice, read off the parts** between the asterisks, of which there
is one at least. -/
def Ask.ofParts : List (List γ) → Ask γ
  | [] => .present
  | [v] => .value v
  | v :: v' :: vs =>
    if v.isEmpty && v'.isEmpty && vs.isEmpty then .present
    else .substrings (endPart v) (v' :: vs).dropLast
      (endPart ((v' :: vs).getLast (List.cons_ne_nil v' vs)))

/-- A function on what is asked for. -/
def Ask.map (f : List γ → List δ) : Ask γ → Ask δ
  | .value v => .value (f v)
  | .present => .present
  | .substrings initial any final => .substrings (initial.map f) (any.map f) (final.map f)

/-- An end is left out when it is empty. -/
theorem endPart_map {f : List γ → List δ} (hf : ∀ v, f v = [] ↔ v = []) (v : List γ) :
    endPart (f v) = (endPart v).map f := by
  cases v with
  | nil => rw [(hf []).2 rfl]; rfl
  | cons c cs =>
    have hne : f (c :: cs) ≠ [] := fun h => List.cons_ne_nil _ _ ((hf _).1 h)
    obtain ⟨d, ds, hcons⟩ := List.exists_cons_of_ne_nil hne
    rw [hcons, endPart, endPart, Option.map_some, hcons]

/-- **The choice stays** when empty parts, and only those, stay empty. -/
theorem Ask.ofParts_map {f : List γ → List δ} (hf : ∀ v, f v = [] ↔ v = [])
    (parts : List (List γ)) : Ask.ofParts (parts.map f) = (Ask.ofParts parts).map f := by
  have hempty : ∀ v, (f v).isEmpty = v.isEmpty := fun v => by
    rw [Bool.eq_iff_iff, List.isEmpty_iff, List.isEmpty_iff, hf v]
  match parts with
  | [] => rfl
  | [v] => rfl
  | v :: v' :: vs =>
    have hlast : ((v' :: vs).map f).getLast (by simp) =
        f ((v' :: vs).getLast (List.cons_ne_nil v' vs)) := List.getLast_map _
    have hinner : ((v' :: vs).map f).dropLast = (v' :: vs).dropLast.map f :=
      List.map_dropLast.symm
    simp only [List.map_cons] at hlast hinner
    simp only [List.map_cons, Ask.ofParts, hempty, List.isEmpty_map, hlast, hinner, endPart_map hf]
    split
    · rfl
    · rfl

/-! ## Tests -/

/-- **A test**: an item, by what it asks for. -/
structure Test (γ : Type) where
  attr : List Char
  op : Op
  ask : Ask γ
  deriving DecidableEq, Repr

/-- The test that an item is. -/
def Item.test (item : Item) : Test UInt8 := ⟨item.attr, item.op, .ofParts item.parts⟩

/-- A value is equal to octets. -/
def Test.equals (attr : List Char) (b : Bytes) : Test UInt8 := ⟨attr, .equal, .value b⟩

/-- A value has octets as a substring. -/
def Test.contains (attr : List Char) (b : Bytes) : Test UInt8 :=
  ⟨attr, .equal, .substrings none [b] none⟩

/-- A function on what a test asks for. -/
def Test.map (f : List γ → List δ) (test : Test γ) : Test δ :=
  ⟨test.attr, test.op, test.ask.map f⟩

/-- **Parse a filter to its tests.** -/
def parseTests (cs : List Char) : Option (SearchFilter (Test UInt8)) :=
  (parse cs).map (SearchFilter.map Item.test)

/-- A value between asterisks is asked for as a substring. -/
theorem test_contains (attr : List Char) (b : Bytes) :
    Item.test ⟨attr, .equal, [[], b, []]⟩ = .contains attr b := by
  simp [Item.test, Test.contains, Ask.ofParts, endPart]

theorem parseTests_eq_some_iff {cs : List Char} {t : SearchFilter (Test UInt8)} :
    parseTests cs = some t ↔ ∃ f, parse cs = some f ∧ f.map Item.test = t :=
  Option.map_eq_some_iff

/-- Texts that parse to tests parse. -/
theorem exists_parse_of_parseTests {texts : List (List Char)} {ts : List (SearchFilter (Test UInt8))}
    (h : List.Forall₂ (fun cs t => parseTests cs = some t) texts ts) :
    ∃ fs, List.Forall₂ (fun cs f => parse cs = some f) texts fs ∧
      fs.map (SearchFilter.map Item.test) = ts := by
  induction h with
  | nil => exact ⟨[], .nil, rfl⟩
  | cons hparse _ ih =>
    obtain ⟨f, hf, rfl⟩ := parseTests_eq_some_iff.1 hparse
    obtain ⟨fs, hfs, rfl⟩ := ih
    exact ⟨f :: fs, .cons hf hfs, rfl⟩

/-- **Substrings with a value between asterisks.** -/
theorem parse_contains {attr value : List Char} {b : Bytes} (h : isAttr attr = true)
    (hvalue : decodeAssertion value = some [b]) :
    parse ('(' :: (attr ++ '=' :: '*' :: (value ++ ['*']) ++ [')'])) =
      some (.item ⟨attr, .equal, [[], b, []]⟩) := by
  have hparts : decodeAssertion ('*' :: (value ++ ['*'])) = some [[], b, []] := by
    rw [decodeAssertion, decodeAssertion_append hvalue]
    simp [decodeAssertion, prepend]
  have hgood : WellFormed (.item (attr ++ '=' :: '*' :: (value ++ ['*']))) :=
    isItemText_equality h (no_paren_of_decodeAssertion hparts)
  have htree := parseTree_render (.item (attr ++ '=' :: '*' :: (value ++ ['*']))) hgood
  rw [render] at htree
  rw [parse, htree, Option.bind_some, SearchFilter.traverse, parseItem_equality h, hparts]
  rfl

end Rfc4515

end WazoDird
