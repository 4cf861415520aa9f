import WazoDird.Common.Dict
import WazoDird.Common.Except

/-!
# Scans of a list, for one key and for many

A test of an item may raise, and so may what is built from an item that
passes. The scan for one key stops at the first item that passes
(`Scan.first`); the scan for many keys goes on to the end, over the items
and then the keys or the other way round, and keeps what it built last
under each key (`Scan.byItem`, `Scan.byKey`). `Scan.agrees_iff` is when
the two give the same.
-/

namespace WazoDird

namespace Scan

variable {ε κ α β : Type} [DecidableEq κ]

/-- The test passed. -/
def holds : Except ε Bool → Bool
  | .ok b => b
  | .error _ => false

/-- **The first item that passes.** -/
def first (test : α → Except ε Bool) (build : α → Except ε β) : List α → Except ε (Option β)
  | [] => .ok none
  | x :: xs => do
    if ← test x then return some (← build x)
    first test build xs

/-- Keep what is built from an item under a key, if the item passes. -/
def note (test : κ → α → Except ε Bool) (build : α → Except ε β) (found : Dict κ β) (key : κ)
    (x : α) : Except ε (Dict κ β) := do
  if ← test key x then return found.set key (← build x)
  return found

variable (test : κ → α → Except ε Bool) (build : α → Except ε β)

/-- The scan for many keys, item by item. -/
def byItem (keys : List κ) (items : List α) : Except ε (Dict κ β) :=
  items.foldlM (fun found x => keys.foldlM (fun found key => note test build found key x) found) ∅

/-- The scan for many keys, key by key. -/
def byKey (keys : List κ) (items : List α) : Except ε (Dict κ β) :=
  keys.foldlM (fun found key => items.foldlM (fun found x => note test build found key x) found) ∅

/-- Nothing raises for an item under a key. -/
def Fine (key : κ) (x : α) : Prop :=
  test key x = .ok false ∨ test key x = .ok true ∧ ∃ r, build x = .ok r

/-- The scan for one key comes to an item: those before do not pass. -/
def StopsAt (test : α → Except ε Bool) (items : List α) (x : α) : Prop :=
  ∃ pre post, items = pre ++ x :: post ∧ (∀ y ∈ pre, test y = .ok false) ∧ test x = .ok true

/-- The last item that passes. -/
def last (test : α → Except ε Bool) (items : List α) : Option α :=
  (items.filter fun x => holds (test x)).getLast?

/-! ## One key -/

variable {test build} in
/-- The scan for one key gives what is built from the item it stops at. -/
theorem first_eq_some {test : α → Except ε Bool} {items : List α} {r : β} :
    first test build items = .ok (some r) ↔ ∃ x, StopsAt test items x ∧ build x = .ok r := by
  induction items with
  | nil =>
    refine ⟨fun h => (by cases h), ?_⟩
    rintro ⟨x, ⟨pre, post, h, -⟩, -⟩
    cases pre <;> cases h
  | cons y ys ih =>
    rw [first, bind_eq_ok]
    constructor
    · rintro ⟨b, htest, h⟩
      cases b with
      | true =>
        obtain ⟨r', hbuild, h⟩ := bind_eq_ok.1 h
        cases h
        exact ⟨y, ⟨[], ys, rfl, fun z hz => (by cases hz), htest⟩, hbuild⟩
      | false =>
        obtain ⟨x, ⟨pre, post, rfl, hpre, hx⟩, hbuild⟩ := ih.1 h
        refine ⟨x, ⟨y :: pre, post, rfl, ?_, hx⟩, hbuild⟩
        intro z hz
        rcases List.mem_cons.1 hz with rfl | hz
        · exact htest
        · exact hpre z hz
    · rintro ⟨x, ⟨pre, post, hsplit, hpre, hx⟩, hbuild⟩
      cases pre with
      | nil =>
        obtain ⟨rfl, rfl⟩ := List.cons.inj hsplit
        exact ⟨true, hx, bind_eq_ok.2 ⟨r, hbuild, rfl⟩⟩
      | cons z pre =>
        obtain ⟨rfl, rfl⟩ := List.cons.inj hsplit
        refine ⟨false, hpre y List.mem_cons_self, ih.2 ⟨x, ⟨pre, post, rfl, ?_, hx⟩, hbuild⟩⟩
        exact fun w hw => hpre w (List.mem_cons_of_mem _ hw)

/-- Where nothing raises before an item is built, the scan for one key builds
the first that passes. -/
theorem first_eq_find? {test : α → Bool} {build : α → Except ε β} {items : List α} :
    first (fun x => .ok (test x)) build items =
      (items.find? test).elim (.ok none) fun x => (build x).map some := by
  induction items with
  | nil => rfl
  | cons x xs ih =>
    rw [first, List.find?_cons]
    cases hx : test x with
    | true =>
      cases hbuild : build x <;> simp [bind, Except.bind, Except.map, pure, Except.pure, hbuild]
    | false => exact ih

/-- Items that are mapped are tested and built as what they are mapped to. -/
theorem first_map {γ : Type} {test : α → Except ε Bool} {build : α → Except ε β} (f : γ → α)
    (items : List γ) : first test build (items.map f) =
      first (fun x => test (f x)) (fun x => build (f x)) items := by
  induction items with
  | nil => rfl
  | cons x xs ih => rw [List.map_cons, first, first, ih]

/-- Where no item passes, the scan for one key gives none. -/
theorem first_eq_none {test : α → Except ε Bool} {build : α → Except ε β} {items : List α}
    (h : ∀ x ∈ items, test x = .ok false) : first test build items = .ok none := by
  induction items with
  | nil => rfl
  | cons x xs ih =>
    rw [first, h x List.mem_cons_self]
    exact ih fun y hy => h y (List.mem_cons_of_mem _ hy)

variable {test build} in
/-- What the scan for one key gives is built from one of the items. -/
theorem exists_mem_of_first {test : α → Except ε Bool} {items : List α} {r : β}
    (h : first test build items = .ok (some r)) : ∃ x ∈ items, build x = .ok r := by
  obtain ⟨x, ⟨pre, post, rfl, -⟩, hbuild⟩ := first_eq_some.1 h
  exact ⟨x, List.mem_append_right _ List.mem_cons_self, hbuild⟩

/-- Where nothing raises, the scan for one key stops at an item as soon as
one passes. -/
theorem exists_stopsAt {test : α → Except ε Bool} {items : List α}
    (hfine : ∀ y ∈ items, ∃ b, test y = .ok b) (hex : ∃ y ∈ items, test y = .ok true) :
    ∃ x ∈ items, StopsAt test items x := by
  induction items with
  | nil =>
    obtain ⟨y, hy, -⟩ := hex
    cases hy
  | cons z zs ih =>
    obtain ⟨b, hz⟩ := hfine z List.mem_cons_self
    cases b with
    | true => exact ⟨z, List.mem_cons_self, [], zs, rfl, fun y hy => (by cases hy), hz⟩
    | false =>
      obtain ⟨y, hy, hpass⟩ := hex
      rcases List.mem_cons.1 hy with rfl | hy
      · rw [hz] at hpass
        cases hpass
      · obtain ⟨x, hx, pre, post, rfl, hpre, hstop⟩ :=
          ih (fun w hw => hfine w (List.mem_cons_of_mem _ hw)) ⟨y, hy, hpass⟩
        refine ⟨x, List.mem_cons_of_mem _ hx, z :: pre, post, rfl, fun w hw => ?_, hstop⟩
        rcases List.mem_cons.1 hw with rfl | hw
        · exact hz
        · exact hpre w hw

/-! ## The first and the last of a list -/

/-- An item with a property, and none before it. -/
def FirstOf (p : α → Prop) (items : List α) (x : α) : Prop :=
  ∃ pre post, items = pre ++ x :: post ∧ p x ∧ ∀ y ∈ pre, ¬ p y

/-- An item with a property, and none after it. -/
def LastOf (p : α → Prop) (items : List α) (x : α) : Prop :=
  ∃ pre post, items = pre ++ x :: post ∧ p x ∧ ∀ y ∈ post, ¬ p y

theorem FirstOf.mem {p : α → Prop} {items : List α} {x : α} (h : FirstOf p items x) :
    x ∈ items ∧ p x := by
  obtain ⟨pre, post, rfl, hx, -⟩ := h
  exact ⟨List.mem_append_right _ List.mem_cons_self, hx⟩

theorem LastOf.mem {p : α → Prop} {items : List α} {x : α} (h : LastOf p items x) :
    x ∈ items ∧ p x := by
  obtain ⟨pre, post, rfl, hx, -⟩ := h
  exact ⟨List.mem_append_right _ List.mem_cons_self, hx⟩

theorem find?_eq_some_iff_firstOf {p : α → Prop} [DecidablePred p] {items : List α} {x : α} :
    items.find? (fun y => decide (p y)) = some x ↔ FirstOf p items x := by
  rw [List.find?_eq_some_iff_append]
  constructor
  · rintro ⟨hx, pre, post, hsplit, hpre⟩
    exact ⟨pre, post, hsplit, of_decide_eq_true hx, fun y hy => by simpa using hpre y hy⟩
  · rintro ⟨pre, post, hsplit, hx, hpre⟩
    exact ⟨decide_eq_true hx, pre, post, hsplit, fun y hy => by simpa using hpre y hy⟩

theorem getLast?_filter_eq_some_iff_lastOf {p : α → Prop} [DecidablePred p] {items : List α}
    {x : α} : (items.filter fun y => decide (p y)).getLast? = some x ↔ LastOf p items x := by
  rw [List.getLast?_filter, find?_eq_some_iff_firstOf]
  -- the last of a list is the first of it reversed
  constructor
  · rintro ⟨pre, post, hsplit, hx, hpre⟩
    refine ⟨post.reverse, pre.reverse, ?_, hx, fun y hy => hpre y (List.mem_reverse.1 hy)⟩
    simpa using congrArg List.reverse hsplit
  · rintro ⟨pre, post, rfl, hx, hpost⟩
    exact ⟨post.reverse, pre.reverse, by simp, hx, fun y hy => hpost y (List.mem_reverse.1 hy)⟩

/-- Some item has a property exactly when one is the first that has. -/
theorem exists_firstOf {p : α → Prop} {items : List α} :
    (∃ x, FirstOf p items x) ↔ ∃ x ∈ items, p x := by
  classical
  constructor
  · rintro ⟨x, hfirst⟩
    exact ⟨x, hfirst.mem⟩
  · rintro ⟨x, hmem, hx⟩
    have hsome : (items.find? fun y => decide (p y)).isSome :=
      List.find?_isSome.2 ⟨x, hmem, decide_eq_true hx⟩
    obtain ⟨y, hy⟩ := Option.isSome_iff_exists.1 hsome
    exact ⟨y, find?_eq_some_iff_firstOf.1 hy⟩

/-- Or one is the last that has. -/
theorem exists_lastOf {p : α → Prop} {items : List α} :
    (∃ x, LastOf p items x) ↔ ∃ x ∈ items, p x := by
  classical
  constructor
  · rintro ⟨x, hlast⟩
    exact ⟨x, hlast.mem⟩
  · rintro ⟨x, hmem, hx⟩
    have hne : (items.filter fun y => decide (p y)) ≠ [] :=
      List.ne_nil_of_mem (List.mem_filter.2 ⟨hmem, decide_eq_true hx⟩)
    exact ⟨_, getLast?_filter_eq_some_iff_lastOf.1 (List.getLast?_eq_some_getLast hne)⟩

theorem FirstOf.congr {p q : α → Prop} {items : List α} {x : α} (h : ∀ y ∈ items, p y ↔ q y) :
    FirstOf p items x ↔ FirstOf q items x := by
  unfold FirstOf
  refine exists_congr fun pre => exists_congr fun post => and_congr_right fun hsplit => ?_
  subst hsplit
  refine and_congr (h x (List.mem_append_right _ List.mem_cons_self)) ?_
  exact forall₂_congr fun y hy => not_congr (h y (List.mem_append_left _ hy))

theorem LastOf.congr {p q : α → Prop} {items : List α} {x : α} (h : ∀ y ∈ items, p y ↔ q y) :
    LastOf p items x ↔ LastOf q items x := by
  unfold LastOf
  refine exists_congr fun pre => exists_congr fun post => and_congr_right fun hsplit => ?_
  subst hsplit
  refine and_congr (h x (List.mem_append_right _ List.mem_cons_self)) ?_
  exact forall₂_congr fun y hy =>
    not_congr (h y (List.mem_append_right _ (List.mem_cons_of_mem _ hy)))

/-! ## Many keys -/

/-- Note a list of keys and items in its order. -/
def notePairs (found : Dict κ β) (pairs : List (κ × α)) : Except ε (Dict κ β) :=
  pairs.foldlM (fun found p => note test build found p.1 p.2) found

variable {test build}

/-- A loop in a loop is one loop over the pairs. -/
theorem foldlM_flatMap {γ δ : Type} (f : γ → List δ) (step : β → δ → Except ε β) (l : List γ)
    (b : β) :
    (l.flatMap f).foldlM step b = l.foldlM (fun b a => (f a).foldlM step b) b := by
  induction l generalizing b with
  | nil => rfl
  | cons a l ih =>
    rw [List.flatMap_cons, List.foldlM_append, List.foldlM_cons]
    congr 1
    funext b'
    exact ih b'

theorem byItem_eq (keys : List κ) (items : List α) :
    byItem test build keys items =
      notePairs test build ∅ (items.flatMap fun x => keys.map fun key => (key, x)) := by
  rw [notePairs, foldlM_flatMap, byItem]
  simp only [List.foldlM_map]

theorem byKey_eq (keys : List κ) (items : List α) :
    byKey test build keys items =
      notePairs test build ∅ (keys.flatMap fun key => items.map fun x => (key, x)) := by
  rw [notePairs, foldlM_flatMap, byKey]
  simp only [List.foldlM_map]

/-- What noting one item does, when it does not raise. -/
theorem note_eq_ok {found found' : Dict κ β} {key : κ} {x : α} :
    note test build found key x = .ok found' ↔
      test key x = .ok false ∧ found' = found ∨
        test key x = .ok true ∧ ∃ r, build x = .ok r ∧ found' = found.set key r := by
  rw [note, bind_eq_ok]
  constructor
  · rintro ⟨b, htest, h⟩
    cases b with
    | true =>
      obtain ⟨r, hbuild, h⟩ := bind_eq_ok.1 h
      exact Or.inr ⟨htest, r, hbuild, (Except.ok.inj h).symm⟩
    | false => exact Or.inl ⟨htest, (Except.ok.inj h).symm⟩
  · rintro (⟨htest, rfl⟩ | ⟨htest, r, hbuild, rfl⟩)
    · exact ⟨false, htest, rfl⟩
    · exact ⟨true, htest, bind_eq_ok.2 ⟨r, hbuild, rfl⟩⟩

/-- The scan ends exactly when no pair raises. -/
theorem exists_notePairs {found : Dict κ β} {pairs : List (κ × α)} :
    (∃ found', notePairs test build found pairs = .ok found') ↔
      ∀ p ∈ pairs, Fine test build p.1 p.2 := by
  induction pairs generalizing found with
  | nil => exact ⟨fun _ p hp => (by cases hp), fun _ => ⟨found, rfl⟩⟩
  | cons p pairs ih =>
    simp only [notePairs, List.foldlM_cons, bind_eq_ok] at ih ⊢
    rw [List.forall_mem_cons]
    constructor
    · rintro ⟨found', mid, hmid, hrest⟩
      refine ⟨?_, ih.1 ⟨found', hrest⟩⟩
      rcases note_eq_ok.1 hmid with ⟨htest, -⟩ | ⟨htest, r, hbuild, -⟩
      · exact Or.inl htest
      · exact Or.inr ⟨htest, r, hbuild⟩
    · rintro ⟨htest | ⟨htest, r, hbuild⟩, hrest⟩
      · obtain ⟨found', h⟩ := ih.2 hrest
        exact ⟨found', found, note_eq_ok.2 (Or.inl ⟨htest, rfl⟩), h⟩
      · obtain ⟨found', h⟩ := ih.2 hrest
        exact ⟨found', _, note_eq_ok.2 (Or.inr ⟨htest, r, hbuild, rfl⟩), h⟩

/-- The last pair of a key whose item passes. -/
def lastPair (test : κ → α → Except ε Bool) (key : κ) (pairs : List (κ × α)) : Option α :=
  ((pairs.filter fun p => p.1 = key && holds (test p.1 p.2)).getLast?).map Prod.snd

theorem lastPair_append (key : κ) (pairs pairs' : List (κ × α)) :
    lastPair test key (pairs ++ pairs') = (lastPair test key pairs').or (lastPair test key pairs) := by
  rw [lastPair, List.filter_append, List.getLast?_append, Option.map_or]
  rfl

theorem lastPair_singleton (key : κ) (p : κ × α) :
    lastPair test key [p] = if p.1 = key ∧ holds (test p.1 p.2) = true then some p.2 else none := by
  by_cases h : p.1 = key ∧ holds (test p.1 p.2) = true
  · rw [if_pos h, lastPair, List.filter_cons_of_pos (by simpa using h)]
    rfl
  · rw [if_neg h, lastPair, List.filter_cons_of_neg (by simpa using h)]
    rfl

/-- **Under a key stands what was built last.** -/
theorem get?_notePairs {found found' : Dict κ β} {pairs : List (κ × α)} (key : κ)
    (h : notePairs test build found pairs = .ok found') :
    found'.get? key =
      ((lastPair test key pairs).bind fun x => (build x).toOption).or (found.get? key) := by
  induction pairs generalizing found with
  | nil =>
    cases h
    rfl
  | cons p pairs ih =>
    simp only [notePairs, List.foldlM_cons, bind_eq_ok] at h
    obtain ⟨mid, hmid, hrest⟩ := h
    -- an item that passes later could be built, or the scan had raised
    have hbuilt : ∀ x, lastPair test key pairs = some x → ∃ r, build x = .ok r := by
      intro x hx
      obtain ⟨q, hq, rfl⟩ := Option.map_eq_some_iff.1 hx
      obtain ⟨hmem, hpass⟩ := List.mem_filter.1 (List.mem_of_getLast? hq)
      rcases exists_notePairs.1 ⟨found', hrest⟩ q hmem with hno | ⟨-, r, hr⟩
      · simp [hno, holds] at hpass
      · exact ⟨r, hr⟩
    rw [ih hrest, ← List.singleton_append, lastPair_append, lastPair_singleton]
    cases hlast : lastPair test key pairs with
    | some x =>
      obtain ⟨r, hr⟩ := hbuilt x hlast
      simp [hr, Except.toOption]
    | none =>
      rcases note_eq_ok.1 hmid with ⟨htest, rfl⟩ | ⟨htest, r, hr, rfl⟩
      · simp [htest, holds]
      · by_cases hkey : p.1 = key
        · subst hkey
          simp [htest, holds, hr, Except.toOption]
        · simp [hkey, Dict.get?_set_of_ne]

/-! ## The last item that passes -/

theorem last_cons (test : α → Except ε Bool) (x : α) (items : List α) :
    last test (x :: items) =
      (last test items).or (if holds (test x) = true then some x else none) := by
  rw [last, List.filter_cons]
  split
  · rw [List.getLast?_cons, last]
    cases (items.filter fun x => holds (test x)).getLast? <;> rfl
  · rw [Option.or_none, last]

/-- The last item that passes is one of the list, and passes. -/
theorem mem_of_last {test : α → Except ε Bool} {items : List α} {x : α}
    (h : last test items = some x) : x ∈ items ∧ test x = .ok true := by
  obtain ⟨hmem, hpass⟩ := List.mem_filter.1 (List.mem_of_getLast? h)
  refine ⟨hmem, ?_⟩
  cases htest : test x with
  | error e => simp [htest, holds] at hpass
  | ok b =>
    have hb : b = true := by simpa [htest, holds] using hpass
    rw [hb]

theorem lastPair_keys (key : κ) (keys : List κ) (x : α) :
    lastPair test key (keys.map fun k => (k, x)) =
      if key ∈ keys ∧ holds (test key x) = true then some x else none := by
  induction keys with
  | nil => simp [lastPair]
  | cons k keys ih =>
    rw [List.map_cons, ← List.singleton_append, lastPair_append, lastPair_singleton, ih]
    by_cases hpass : holds (test key x) = true
    · by_cases hk : k = key
      · subst hk
        by_cases hmem : k ∈ keys <;> simp [hpass, hmem]
      · have hk' : ¬ key = k := fun h => hk h.symm
        simp [hpass, hk, hk']
    · by_cases hk : k = key
      · subst hk
        simp [hpass]
      · simp [hpass, hk]

theorem lastPair_items (key k : κ) (items : List α) :
    lastPair test key (items.map fun x => (k, x)) =
      if k = key then last (test key) items else none := by
  induction items with
  | nil => simp [lastPair, last]
  | cons x items ih =>
    rw [List.map_cons, ← List.singleton_append, lastPair_append, lastPair_singleton, ih]
    by_cases hk : k = key
    · subst hk
      simp [last_cons]
    · simp [hk]

theorem lastPair_byItem {key : κ} {keys : List κ} (hkey : key ∈ keys) (items : List α) :
    lastPair test key (items.flatMap fun x => keys.map fun k => (k, x)) =
      last (test key) items := by
  induction items with
  | nil => rfl
  | cons x items ih =>
    rw [List.flatMap_cons, lastPair_append, ih, lastPair_keys, last_cons]
    simp [hkey]

theorem lastPair_byKey {key : κ} {keys : List κ} (hkey : key ∈ keys) (items : List α) :
    lastPair test key (keys.flatMap fun k => items.map fun x => (k, x)) =
      last (test key) items := by
  have hall : lastPair test key (keys.flatMap fun k => items.map fun x => (k, x)) =
      if key ∈ keys then last (test key) items else none := by
    clear hkey
    induction keys with
    | nil => rfl
    | cons k keys ih =>
      rw [List.flatMap_cons, lastPair_append, ih, lastPair_items]
      by_cases hk : k = key
      · subst hk
        by_cases hmem : k ∈ keys <;> simp [hmem]
      · have hk' : ¬ key = k := fun h => hk h.symm
        simp [hk, hk']
  rw [hall, if_pos hkey]

/-! ## One key after another -/

/-- Keep what is found for a key, if anything is. -/
def keepOne (one : κ → Except ε (Option β)) (found : Dict κ β) (key : κ) :
    Except ε (Dict κ β) := do
  match ← one key with
  | none => return found
  | some r => return found.set key r

/-- Many keys, each looked up on its own. -/
def oneByOne (one : κ → Except ε (Option β)) (keys : List κ) : Except ε (Dict κ β) :=
  keys.foldlM (keepOne one) ∅

/-- **One by one, each key has what is found for it.** -/
theorem oneByOne_eq_ok {one : κ → Except ε (Option β)} {result : κ → Option β} {keys : List κ}
    (h : ∀ key ∈ keys, one key = .ok (result key)) :
    ∃ found, oneByOne one keys = .ok found ∧
      ∀ key, found.get? key = if key ∈ keys then result key else none := by
  have hloop : ∀ start : Dict κ β, ∃ found, keys.foldlM (keepOne one) start = .ok found ∧
      ∀ key, found.get? key =
        if key ∈ keys then (result key).or (start.get? key) else start.get? key := by
    induction keys with
    | nil => exact fun start => ⟨start, rfl, fun key => rfl⟩
    | cons k keys ih =>
      intro start
      have hrest := ih fun key hkey => h key (List.mem_cons_of_mem _ hkey)
      rw [List.foldlM_cons, keepOne, h k List.mem_cons_self]
      cases hr : result k with
      | none =>
        obtain ⟨found, hfound, hget⟩ := hrest start
        refine ⟨found, hfound, fun key => ?_⟩
        rw [hget]
        by_cases hk : key = k
        · subst hk
          simp [hr]
        · simp [hk]
      | some r =>
        obtain ⟨found, hfound, hget⟩ := hrest (start.set k r)
        refine ⟨found, hfound, fun key => ?_⟩
        rw [hget, Dict.get?_set]
        by_cases hk : key = k
        · subst hk
          simp [hr]
        · have hk' : ¬ k = key := fun heq => hk heq.symm
          simp [hk, hk']
  obtain ⟨found, hfound, hget⟩ := hloop ∅
  refine ⟨found, hfound, fun key => ?_⟩
  rw [hget, Dict.get?_empty, Option.or_none]

/-! ## The two scans -/

/-- What a scan for many keys gives: nothing when a pair raises, else
under each key what the last item that passes is built to. -/
structure Collects (test : κ → α → Except ε Bool) (build : α → Except ε β) (keys : List κ)
    (items : List α) (all : Except ε (Dict κ β)) : Prop where
  ends : (∃ found, all = .ok found) ↔ ∀ key ∈ keys, ∀ x ∈ items, Fine test build key x
  get?_eq : ∀ found, all = .ok found → ∀ key ∈ keys,
    found.get? key = (last (test key) items).bind fun x => (build x).toOption

/-- Item by item. -/
theorem collects_byItem (keys : List κ) (items : List α) :
    Collects test build keys items (byItem test build keys items) where
  ends := by
    rw [byItem_eq, exists_notePairs]
    simp only [List.mem_flatMap, List.mem_map]
    constructor
    · exact fun h key hkey x hx => h (key, x) ⟨x, hx, key, hkey, rfl⟩
    · rintro h p ⟨x, hx, key, hkey, rfl⟩
      exact h key hkey x hx
  get?_eq := by
    intro found h key hkey
    rw [byItem_eq] at h
    rw [get?_notePairs key h, lastPair_byItem hkey, Dict.get?_empty, Option.or_none]

/-- Key by key. -/
theorem collects_byKey (keys : List κ) (items : List α) :
    Collects test build keys items (byKey test build keys items) where
  ends := by
    rw [byKey_eq, exists_notePairs]
    simp only [List.mem_flatMap, List.mem_map]
    constructor
    · exact fun h key hkey x hx => h (key, x) ⟨key, hkey, x, hx, rfl⟩
    · rintro h p ⟨key, hkey, x, hx, rfl⟩
      exact h key hkey x hx
  get?_eq := by
    intro found h key hkey
    rw [byKey_eq] at h
    rw [get?_notePairs key h, lastPair_byKey hkey, Dict.get?_empty, Option.or_none]

/-- **A search for one key and a search for many agree**: what the first
gives for a key of the list is what the second has under it. -/
def Agrees (one : κ → Except ε (Option β)) (all : Except ε (Dict κ β)) (keys : List κ) : Prop :=
  ∀ key ∈ keys, ∀ r, one key = .ok (some r) ↔ ∃ found, all = .ok found ∧ found.get? key = some r

/-- **The last item that passes counts as the first.** Where the scan for
one key stops at an item it can build from, the scan for many raises
nowhere, and the last item that passes is built to the same. -/
def LastIsFirst (test : κ → α → Except ε Bool) (build : α → Except ε β) (keys : List κ)
    (items : List α) : Prop :=
  ∀ key ∈ keys, ∀ x r, StopsAt (test key) items x → build x = .ok r →
    (∀ key' ∈ keys, ∀ y ∈ items, Fine test build key' y) ∧
      ∃ y, last (test key) items = some y ∧ build y = build x

/-- **When the scan for one key and a scan for many agree.** -/
theorem agrees_iff {keys : List κ} {items : List α} {all : Except ε (Dict κ β)}
    (hall : Collects test build keys items all) :
    Agrees (fun key => first (test key) build items) all keys ↔
      LastIsFirst test build keys items := by
  constructor
  · intro h key hkey x r hstop hbuild
    obtain ⟨found, hfound, hget⟩ := (h key hkey r).1 (first_eq_some.2 ⟨x, hstop, hbuild⟩)
    refine ⟨hall.ends.1 ⟨found, hfound⟩, ?_⟩
    rw [hall.get?_eq found hfound key hkey] at hget
    obtain ⟨y, hlast, hy⟩ := Option.bind_eq_some_iff.1 hget
    refine ⟨y, hlast, ?_⟩
    cases hb : build y with
    | error e =>
      rw [hb] at hy
      cases hy
    | ok r' =>
      rw [hb] at hy
      rw [hbuild, Option.some.inj hy]
  · intro h key hkey r
    constructor
    · intro hone
      obtain ⟨x, hstop, hbuild⟩ := first_eq_some.1 hone
      obtain ⟨hfine, y, hlast, hsame⟩ := h key hkey x r hstop hbuild
      obtain ⟨found, hfound⟩ := hall.ends.2 hfine
      refine ⟨found, hfound, ?_⟩
      rw [hall.get?_eq found hfound key hkey, hlast, Option.bind_some, hsame, hbuild]
      rfl
    · rintro ⟨found, hfound, hget⟩
      have hfine := hall.ends.1 ⟨found, hfound⟩
      rw [hall.get?_eq found hfound key hkey] at hget
      obtain ⟨y, hlast, hy⟩ := Option.bind_eq_some_iff.1 hget
      obtain ⟨hmem, hpass⟩ := mem_of_last hlast
      -- something passes, so the scan for the key stops somewhere
      have htest : ∀ z ∈ items, ∃ b, test key z = .ok b := by
        intro z hz
        rcases hfine key hkey z hz with hno | ⟨hyes, -⟩
        · exact ⟨false, hno⟩
        · exact ⟨true, hyes⟩
      obtain ⟨x, hx, hstop⟩ := exists_stopsAt htest ⟨y, hmem, hpass⟩
      have hx' : test key x = .ok true := by
        obtain ⟨-, -, -, -, hpass'⟩ := hstop
        exact hpass'
      rcases hfine key hkey x hx with hno | ⟨-, r', hbuild⟩
      · rw [hx'] at hno
        cases hno
      · obtain ⟨-, y', hlast', hsame⟩ := h key hkey x r' hstop hbuild
        rw [hlast, Option.some.injEq] at hlast'
        subst hlast'
        rw [hsame, hbuild] at hy
        obtain rfl : r' = r := Option.some.inj hy
        exact first_eq_some.2 ⟨x, hstop, hbuild⟩

/-- Where the two agree, a key has the same result in both, or in none. -/
theorem Agrees.eq {one : κ → Except ε (Option β)} {all : Except ε (Dict κ β)} {keys : List κ}
    (h : Agrees one all keys) {key : κ} (hkey : key ∈ keys) :
    (one key).toOption.join = all.toOption.bind (·.get? key) := by
  have hone : ∀ r, (one key).toOption.join = some r ↔ one key = .ok (some r) := by
    intro r
    cases one key with
    | error e => simp [Except.toOption]
    | ok found => simp [Except.toOption]
  have hall : ∀ r, all.toOption.bind (·.get? key) = some r ↔
      ∃ found, all = .ok found ∧ found.get? key = some r := by
    intro r
    cases all with
    | error e => simp [Except.toOption]
    | ok found => simp [Except.toOption]
  refine Option.ext fun r => ?_
  rw [hone, hall]
  exact h key hkey r

/-- Searches that find nothing agree. -/
theorem agrees_none_empty (keys : List κ) :
    Agrees (fun _ => .ok none : κ → Except ε (Option β)) (.ok ∅) keys := by
  intro key _ r
  refine ⟨fun h => (by cases h), ?_⟩
  rintro ⟨found, hfound, hget⟩
  cases hfound
  rw [Dict.get?_empty] at hget
  cases hget

omit [DecidableEq κ] in
/-- Without an item that passes, the last counts as the first. -/
theorem lastIsFirst_of_fails {keys : List κ} {items : List α}
    (h : ∀ key ∈ keys, ∀ x ∈ items, test key x ≠ .ok true) :
    LastIsFirst test build keys items := by
  rintro key hkey x r ⟨pre, post, rfl, -, hpass⟩
  exact absurd hpass (h key hkey x (List.mem_append_right _ List.mem_cons_self))

end Scan

end WazoDird
