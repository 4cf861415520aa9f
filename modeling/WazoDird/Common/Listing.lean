import WazoDird.Common.Scan

/-!
# Listing rows by their ids

A listing goes through rows, compares each with the ids asked for, and
builds what it gives from those that compare: row by row (`lazily`), or
one pass for each of the three (`eagerly`). Any of it may raise. What
both give is the same (`Selects`), and from it `listsBack_iff` says when
whatever was found, by whatever means, is listed back by its own id.
-/

namespace WazoDird

namespace Listing

variable {ε α β ρ : Type}

/-- Row by row: read it, and build from it when it passes. -/
def lazily (read : α → Except ε β) (keep : β → Except ε Bool) (build : β → Except ε ρ) :
    List α → Except ε (List ρ)
  | [] => .ok []
  | row :: rows => do
    let item ← read row
    if ← keep item then
      let r ← build item
      return r :: (← lazily read keep build rows)
    lazily read keep build rows

/-- Pass by pass: read all rows, keep those that pass, and build from
these. -/
def eagerly (read : α → Except ε β) (keep : β → Except ε Bool) (build : β → Except ε ρ)
    (rows : List α) : Except ε (List ρ) := do
  let items ← rows.mapM read
  let kept ← lazily .ok keep .ok items
  kept.mapM build

/-- **A selection**: it gives something when every row passes or fails and
those that pass can be built from, and then it gives just what they
build. -/
structure Selects (pass : α → Except ε Bool) (make : α → Except ε ρ) (rows : List α)
    (result : Except ε (List ρ)) : Prop where
  exists_iff : (∃ rs, result = .ok rs) ↔
    ∀ row ∈ rows, ∃ b, pass row = .ok b ∧ (b = true → ∃ r, make row = .ok r)
  mem_iff : ∀ rs, result = .ok rs → ∀ r,
    r ∈ rs ↔ ∃ row ∈ rows, pass row = .ok true ∧ make row = .ok r

/-- What a selection gives is built from one of the rows. -/
theorem Selects.exists_mem {pass : α → Except ε Bool} {make : α → Except ε ρ} {rows : List α}
    {result : Except ε (List ρ)} {rs : List ρ} {r : ρ} (h : Selects pass make rows result)
    (hrs : result = .ok rs) (hr : r ∈ rs) : ∃ row ∈ rows, make row = .ok r := by
  obtain ⟨row, hrow, -, hmake⟩ := (h.mem_iff rs hrs r).1 hr
  exact ⟨row, hrow, hmake⟩

/-- **A row is picked**: it passes, and of every row it is known whether it
does, and those that do can be built from. -/
structure Picked (pass : α → Except ε Bool) (make : α → Except ε ρ) (rows : List α) (row : α) :
    Prop where
  mem : row ∈ rows
  passes : pass row = .ok true
  others : ∀ row ∈ rows, ∃ b, pass row = .ok b ∧ (b = true → ∃ r, make row = .ok r)

theorem Picked.exists_make {pass : α → Except ε Bool} {make : α → Except ε ρ} {rows : List α}
    {row : α} (h : Picked pass make rows row) : ∃ r, make row = .ok r := by
  obtain ⟨b, hb, hmake⟩ := h.others row h.mem
  exact hmake (Except.ok.inj (hb.symm.trans h.passes))

/-- **A selection has what is made of the rows that are picked.** -/
theorem Selects.exists_mem_iff {pass : α → Except ε Bool} {make : α → Except ε ρ} {rows : List α}
    {result : Except ε (List ρ)} {r : ρ} (h : Selects pass make rows result) :
    (∃ rs, result = .ok rs ∧ r ∈ rs) ↔ ∃ row, Picked pass make rows row ∧ make row = .ok r := by
  constructor
  · rintro ⟨rs, hrs, hr⟩
    obtain ⟨row, hrow, hpass, hmake⟩ := (h.mem_iff rs hrs r).1 hr
    exact ⟨row, ⟨hrow, hpass, h.exists_iff.1 ⟨rs, hrs⟩⟩, hmake⟩
  · rintro ⟨row, hpicked, hmake⟩
    obtain ⟨rs, hrs⟩ := h.exists_iff.2 hpicked.others
    exact ⟨rs, hrs, (h.mem_iff rs hrs r).2 ⟨row, hpicked.mem, hpicked.passes, hmake⟩⟩

variable {read : α → Except ε β} {keep : β → Except ε Bool} {build : β → Except ε ρ}
  {rows : List α}

/-- What a listing gives, by its first row. -/
theorem lazily_cons_eq_ok {row : α} {rs : List ρ} :
    lazily read keep build (row :: rows) = .ok rs ↔
      ((read row >>= keep) = .ok false ∧ lazily read keep build rows = .ok rs) ∨
      ((read row >>= keep) = .ok true ∧ ∃ r, (read row >>= build) = .ok r ∧
        ∃ rs', lazily read keep build rows = .ok rs' ∧ rs = r :: rs') := by
  rw [lazily, bind_eq_ok, bind_eq_ok, bind_eq_ok]
  constructor
  · rintro ⟨item, hread, h⟩
    obtain ⟨b, hkeep, h⟩ := bind_eq_ok.1 h
    cases b with
    | false => exact Or.inl ⟨⟨item, hread, hkeep⟩, h⟩
    | true =>
        obtain ⟨r, hr, h⟩ := bind_eq_ok.1 h
        obtain ⟨rs', hrs', h⟩ := bind_eq_ok.1 h
        cases h
        exact Or.inr ⟨⟨item, hread, hkeep⟩, r, bind_eq_ok.2 ⟨item, hread, hr⟩, rs', hrs', rfl⟩
  · rintro (⟨⟨item, hread, hkeep⟩, h⟩ | ⟨⟨item, hread, hkeep⟩, r, hr, rs', hrs', rfl⟩)
    · exact ⟨item, hread, bind_eq_ok.2 ⟨false, hkeep, h⟩⟩
    · obtain ⟨item', hread', hr⟩ := bind_eq_ok.1 hr
      obtain rfl := Except.ok.inj (hread.symm.trans hread')
      have hrest : (do return r :: (← lazily read keep build rows)) = .ok (r :: rs') :=
        bind_eq_ok.2 ⟨rs', hrs', rfl⟩
      exact ⟨item, hread, bind_eq_ok.2 ⟨true, hkeep, bind_eq_ok.2 ⟨r, hr, hrest⟩⟩⟩

/-- Row by row is a selection. -/
theorem selects_lazily : Selects (fun row => read row >>= keep) (fun row => read row >>= build) rows
    (lazily read keep build rows) := by
  induction rows with
  | nil =>
      refine ⟨iff_of_true ⟨[], rfl⟩ fun row hrow => (by cases hrow), fun rs h r => ?_⟩
      cases h
      simp
  | cons row rows ih =>
      refine ⟨?_, fun rs h r => ?_⟩
      · simp only [lazily_cons_eq_ok]
        rw [List.forall_mem_cons, ← ih.exists_iff]
        constructor
        · rintro ⟨rs, ⟨hfail, h⟩ | ⟨hpass, r, hr, rs', hrs', -⟩⟩
          · exact ⟨⟨false, hfail, fun hb => by cases hb⟩, rs, h⟩
          · exact ⟨⟨true, hpass, fun _ => ⟨r, hr⟩⟩, rs', hrs'⟩
        · rintro ⟨⟨b, hb, hmake⟩, rs, hrs⟩
          cases b with
          | false => exact ⟨rs, Or.inl ⟨hb, hrs⟩⟩
          | true =>
              obtain ⟨r, hr⟩ := hmake rfl
              exact ⟨r :: rs, Or.inr ⟨hb, r, hr, rs, hrs, rfl⟩⟩
      · rcases lazily_cons_eq_ok.1 h with ⟨hfail, h⟩ | ⟨hpass, r', hr', rs', hrs', rfl⟩
        · rw [ih.mem_iff rs h r, List.exists_mem_cons_iff, hfail]
          simp
        · rw [List.mem_cons, ih.mem_iff rs' hrs' r, List.exists_mem_cons_iff, hpass, hr']
          simp [eq_comm]

/-- Rows that are mapped are read as what they are mapped to. -/
theorem lazily_map {γ : Type} (f : γ → α) (items : List γ) :
    lazily read keep build (items.map f) = lazily (fun x => read (f x)) keep build items := by
  induction items with
  | nil => rfl
  | cons x xs ih => rw [List.map_cons, lazily, lazily, ih]

/-- Where no row passes, nothing is selected. -/
theorem selects_nil {pass : α → Except ε Bool} {make : α → Except ε ρ}
    (h : ∀ row ∈ rows, pass row = .ok false) : Selects pass make rows (.ok []) := by
  refine ⟨iff_of_true ⟨[], rfl⟩ fun row hrow => ⟨false, h row hrow, fun hb => by cases hb⟩,
    fun rs hrs r => ?_⟩
  cases hrs
  refine iff_of_false List.not_mem_nil ?_
  rintro ⟨row, hrow, hpass, -⟩
  rw [h row hrow] at hpass
  cases hpass

/-- Rows that are there need not be read. -/
theorem selects_kept {items : List β} : Selects keep build items (lazily .ok keep build items) :=
  @selects_lazily ε β β ρ .ok keep build items

/-- What passes is kept. -/
theorem mem_kept_iff {items kept : List β} (h : lazily .ok keep .ok items = .ok kept) {item : β} :
    item ∈ kept ↔ item ∈ items ∧ keep item = .ok true := by
  rw [selects_kept.mem_iff kept h item]
  constructor
  · rintro ⟨item', hmem, hpass, hitem⟩
    obtain rfl := Except.ok.inj hitem
    exact ⟨hmem, hpass⟩
  · rintro ⟨hmem, hpass⟩
    exact ⟨item, hmem, hpass, rfl⟩

/-- Pass by pass is the same selection. -/
theorem selects_eagerly : Selects (fun row => read row >>= keep) (fun row => read row >>= build)
    rows (eagerly read keep build rows) := by
  refine ⟨⟨?_, fun hall => ?_⟩, fun rs h r => ?_⟩
  · rintro ⟨rs, h⟩ row hrow
    obtain ⟨items, hitems, h⟩ := bind_eq_ok.1 h
    obtain ⟨kept, hkept, h⟩ := bind_eq_ok.1 h
    obtain ⟨item, hitem⟩ := exists_mapM_eq_ok.1 ⟨items, hitems⟩ row hrow
    have hmem := (mem_mapM_iff hitems).2 ⟨row, hrow, hitem⟩
    obtain ⟨b, hb, -⟩ := selects_lazily.exists_iff.1 ⟨kept, hkept⟩ item hmem
    refine ⟨b, bind_eq_ok.2 ⟨item, hitem, hb⟩, ?_⟩
    rintro rfl
    obtain ⟨r, hr⟩ := exists_mapM_eq_ok.1 ⟨rs, h⟩ item ((mem_kept_iff hkept).2 ⟨hmem, hb⟩)
    exact ⟨r, bind_eq_ok.2 ⟨item, hitem, hr⟩⟩
  · obtain ⟨items, hitems⟩ : ∃ items, rows.mapM read = .ok items := by
      rw [exists_mapM_eq_ok]
      intro row hrow
      obtain ⟨b, hb, -⟩ := hall row hrow
      obtain ⟨item, hitem, -⟩ := bind_eq_ok.1 hb
      exact ⟨item, hitem⟩
    have hitem : ∀ item ∈ items, ∃ b, keep item = .ok b ∧
        (b = true → ∃ r, build item = .ok r) := by
      intro item hmem
      obtain ⟨row, hrow, hread⟩ := (mem_mapM_iff hitems).1 hmem
      have hnext : ∀ {γ : Type} {f : β → Except ε γ}, (read row >>= f) = f item := by
        rw [hread]
        intros
        rfl
      obtain ⟨b, hb, hmake⟩ := hall row hrow
      rw [hnext] at hb hmake
      exact ⟨b, hb, hmake⟩
    have hkept : ∃ kept, lazily .ok keep .ok items = .ok kept :=
      selects_kept.exists_iff.2 fun item hmem =>
        (hitem item hmem).imp fun b hb => ⟨hb.1, fun _ => ⟨item, rfl⟩⟩
    obtain ⟨kept, hkept⟩ := hkept
    have hbuilt : ∀ item ∈ kept, ∃ r, build item = .ok r := by
      intro item hin
      obtain ⟨hmem, hpass⟩ := (mem_kept_iff hkept).1 hin
      obtain ⟨b, hb, hmake⟩ := hitem item hmem
      exact hmake (Except.ok.inj (hb.symm.trans hpass))
    obtain ⟨rs, hrs⟩ := exists_mapM_eq_ok.2 hbuilt
    exact ⟨rs, bind_eq_ok.2 ⟨items, hitems, bind_eq_ok.2 ⟨kept, hkept, hrs⟩⟩⟩
  · obtain ⟨items, hitems, h⟩ := bind_eq_ok.1 h
    obtain ⟨kept, hkept, h⟩ := bind_eq_ok.1 h
    rw [mem_mapM_iff h]
    constructor
    · rintro ⟨item, hin, hr⟩
      obtain ⟨hmem, hpass⟩ := (mem_kept_iff hkept).1 hin
      obtain ⟨row, hrow, hread⟩ := (mem_mapM_iff hitems).1 hmem
      exact ⟨row, hrow, bind_eq_ok.2 ⟨item, hread, hpass⟩, bind_eq_ok.2 ⟨item, hread, hr⟩⟩
    · rintro ⟨row, hrow, hpass, hr⟩
      obtain ⟨item, hread, hpass⟩ := bind_eq_ok.1 hpass
      obtain ⟨item', hread', hr⟩ := bind_eq_ok.1 hr
      obtain rfl := Except.ok.inj (hread.symm.trans hread')
      have hmem := (mem_mapM_iff hitems).2 ⟨row, hrow, hread⟩
      exact ⟨item, (mem_kept_iff hkept).2 ⟨hmem, hpass⟩, hr⟩

/-! ## Found, and listed back -/

/-- What a search gives for some term, or a lookup of the first match. -/
def Found (search : String → Except ε (List ρ)) (firstMatch : String → Except ε (Option ρ))
    (r : ρ) : Prop :=
  (∃ term rs, search term = .ok rs ∧ r ∈ rs) ∨ ∃ term, firstMatch term = .ok (some r)

/-- **A row is reached**, by the search for some term, or by the lookup of
a first match. The rows may depend on the term. -/
def Reached (searched matched : String → List α) (shows matches' : String → α → Except ε Bool)
    (make : α → Except ε ρ) (row : α) : Prop :=
  ∃ term, Picked (shows term) make (searched term) row ∨
    Scan.StopsAt (matches' term) (matched term) row ∧ ∃ r, make row = .ok r

/-- It is one of the rows. -/
theorem Reached.exists_mem {searched matched : String → List α}
    {shows matches' : String → α → Except ε Bool} {make : α → Except ε ρ} {row : α}
    (h : Reached searched matched shows matches' make row) :
    ∃ term, row ∈ searched term ∨ row ∈ matched term := by
  obtain ⟨term, hpicked | ⟨⟨pre, post, hsplit, -⟩, -⟩⟩ := h
  · exact ⟨term, Or.inl hpicked.mem⟩
  · exact ⟨term, Or.inr (hsplit ▸ List.mem_append_right _ List.mem_cons_self)⟩

/-- What is made of a row that is reached. -/
theorem Reached.exists_make {searched matched : String → List α}
    {shows matches' : String → α → Except ε Bool} {make : α → Except ε ρ} {row : α}
    (h : Reached searched matched shows matches' make row) : ∃ r, make row = .ok r := by
  obtain ⟨term, hpicked | ⟨-, hmake⟩⟩ := h
  · exact hpicked.exists_make
  · exact hmake

/-- **What is found is made of the rows that are reached.** -/
theorem found_iff_reached {search : String → Except ε (List ρ)}
    {firstMatch : String → Except ε (Option ρ)} {searched matched : String → List α}
    {shows matches' : String → α → Except ε Bool} {make : α → Except ε ρ} {r : ρ}
    (hsearch : ∀ term, Selects (shows term) make (searched term) (search term))
    (hmatch : ∀ term, firstMatch term = Scan.first (matches' term) make (matched term)) :
    Found search firstMatch r ↔
      ∃ row, Reached searched matched shows matches' make row ∧ make row = .ok r := by
  have hfirst : ∀ term, firstMatch term = .ok (some r) ↔
      ∃ row, Scan.StopsAt (matches' term) (matched term) row ∧ make row = .ok r := by
    intro term
    rw [hmatch, Scan.first_eq_some]
  constructor
  · rintro (⟨term, hfound⟩ | ⟨term, hfound⟩)
    · obtain ⟨row, hpicked, hmake⟩ := (hsearch term).exists_mem_iff.1 hfound
      exact ⟨row, ⟨term, Or.inl hpicked⟩, hmake⟩
    · obtain ⟨row, hstop, hmake⟩ := (hfirst term).1 hfound
      exact ⟨row, ⟨term, Or.inr ⟨hstop, r, hmake⟩⟩, hmake⟩
  · rintro ⟨row, ⟨term, hpicked | ⟨hstop, -⟩⟩, hmake⟩
    · exact Or.inl ⟨term, (hsearch term).exists_mem_iff.2 ⟨row, hpicked, hmake⟩⟩
    · exact Or.inr ⟨term, (hfirst term).2 ⟨row, hstop, hmake⟩⟩

/-- A row is asked for: what it is compared by, if anything, is one of the
ids. -/
def requested (compared : α → Except ε (Option String)) (ids : List String) (row : α) :
    Except ε Bool := do
  return (← compared row).any (· ∈ ids)

/-- **What is found can be listed back by its id**: a listing of the id
alone gives it, a listing gives only what has one of the ids, and one that
raises does so for a row that is asked for. -/
structure ListsBack (found : ρ → Prop) (entryId : ρ → Option String)
    (list : List String → Except ε (List ρ)) (compared : α → Except ε (Option String))
    (make : α → Except ε ρ) (rows : List α) : Prop where
  back : ∀ r s, found r → entryId r = some s → ∃ rs, list [s] = .ok rs ∧ r ∈ rs
  only : ∀ ids rs, list ids = .ok rs → ∀ r ∈ rs, ∃ s ∈ ids, entryId r = some s
  raises : ∀ ids, (∀ row ∈ rows, requested compared ids row = .ok true →
    ∃ r, make row = .ok r) → ∃ rs, list ids = .ok rs

variable {compared : α → Except ε (Option String)} {make : α → Except ε ρ} {found : ρ → Prop}
  {entryId : ρ → Option String} {list : List String → Except ε (List ρ)} {ids : List String}
  {row : α} {s : String}

theorem requested_eq_true :
    requested compared ids row = .ok true ↔ ∃ s ∈ ids, compared row = .ok (some s) := by
  simp only [requested, bind_eq_ok]
  constructor
  · rintro ⟨k, hk, h⟩
    obtain ⟨s, rfl, hs⟩ := (Option.any_eq_true _ _).1 (Except.ok.inj h)
    exact ⟨s, by simpa using hs, hk⟩
  · rintro ⟨s, hs, hk⟩
    exact ⟨_, hk, by simp [hs, pure, Except.pure]⟩

theorem exists_requested_iff :
    (∃ b, requested compared ids row = .ok b) ↔ ∃ k, compared row = .ok k := by
  simp only [requested, bind_eq_ok]
  constructor
  · rintro ⟨b, k, hk, -⟩
    exact ⟨k, hk⟩
  · rintro ⟨k, hk⟩
    exact ⟨_, k, hk, rfl⟩

/-- **When what is found is listed back**: every row can be compared; what
all rows compared by an id build has that id, if they all build; and all
rows compared by the id of what was found build, one of them just that. -/
theorem listsBack_iff (hlist : ∀ ids, Selects (requested compared ids) make rows (list ids)) :
    ListsBack found entryId list compared make rows ↔
      (∀ row ∈ rows, ∃ k, compared row = .ok k) ∧
      (∀ s, (∀ row ∈ rows, compared row = .ok (some s) → ∃ r, make row = .ok r) →
        ∀ row ∈ rows, compared row = .ok (some s) → ∀ r, make row = .ok r → entryId r = some s) ∧
      ∀ r s, found r → entryId r = some s →
        (∀ row ∈ rows, compared row = .ok (some s) → ∃ r', make row = .ok r') ∧
        ∃ row ∈ rows, compared row = .ok (some s) ∧ make row = .ok r := by
  have hone : ∀ s row, requested compared [s] row = .ok true ↔ compared row = .ok (some s) := by
    intro s row
    rw [requested_eq_true]
    simp
  -- a listing gives something when the rows can be compared and those asked for build
  have hgives : ∀ ids, (∃ rs, list ids = .ok rs) ↔ (∀ row ∈ rows, ∃ k, compared row = .ok k) ∧
      ∀ row ∈ rows, requested compared ids row = .ok true → ∃ r, make row = .ok r := by
    intro ids
    rw [(hlist ids).exists_iff]
    constructor
    · intro h
      refine ⟨fun row hrow => ?_, fun row hrow hreq => ?_⟩
      · obtain ⟨b, hb, -⟩ := h row hrow
        exact exists_requested_iff.1 ⟨b, hb⟩
      · obtain ⟨b, hb, hmake⟩ := h row hrow
        exact hmake (Except.ok.inj (hb.symm.trans hreq))
    · rintro ⟨hcompared, hmake⟩ row hrow
      obtain ⟨b, hb⟩ := exists_requested_iff.2 (hcompared row hrow)
      exact ⟨b, hb, fun htrue => hmake row hrow (htrue ▸ hb)⟩
  constructor
  · rintro ⟨hback, honly, hraises⟩
    have hcompared : ∀ row ∈ rows, ∃ k, compared row = .ok k := by
      refine ((hgives []).1 (hraises [] fun row _ hreq => ?_)).1
      obtain ⟨s, hs, -⟩ := requested_eq_true.1 hreq
      cases hs
    refine ⟨hcompared, fun s hbuild row hrow hk r hr => ?_, fun r s hfound hid => ?_⟩
    · obtain ⟨rs, hrs⟩ := (hgives [s]).2 ⟨hcompared, fun row hrow hreq =>
        hbuild row hrow ((hone s row).1 hreq)⟩
      have hmem := ((hlist [s]).mem_iff rs hrs r).2 ⟨row, hrow, (hone s row).2 hk, hr⟩
      obtain ⟨s', hs', hid⟩ := honly [s] rs hrs r hmem
      rwa [List.mem_singleton.1 hs'] at hid
    · obtain ⟨rs, hrs, hmem⟩ := hback r s hfound hid
      obtain ⟨row, hrow, hreq, hr⟩ := ((hlist [s]).mem_iff rs hrs r).1 hmem
      refine ⟨fun row hrow hk => ?_, row, hrow, (hone s row).1 hreq, hr⟩
      exact ((hgives [s]).1 ⟨rs, hrs⟩).2 row hrow ((hone s row).2 hk)
  · rintro ⟨hcompared, honly, hback⟩
    refine ⟨fun r s hfound hid => ?_, fun ids rs hrs r hmem => ?_, fun ids hmake => ?_⟩
    · obtain ⟨hbuild, row, hrow, hk, hr⟩ := hback r s hfound hid
      obtain ⟨rs, hrs⟩ := (hgives [s]).2 ⟨hcompared, fun row hrow hreq =>
        hbuild row hrow ((hone s row).1 hreq)⟩
      exact ⟨rs, hrs, ((hlist [s]).mem_iff rs hrs r).2 ⟨row, hrow, (hone s row).2 hk, hr⟩⟩
    · obtain ⟨row, hrow, hreq, hr⟩ := ((hlist ids).mem_iff rs hrs r).1 hmem
      obtain ⟨s, hs, hk⟩ := requested_eq_true.1 hreq
      refine ⟨s, hs, honly s (fun row' hrow' hk' => ?_) row hrow hk r hr⟩
      exact ((hgives ids).1 ⟨rs, hrs⟩).2 row' hrow' (requested_eq_true.2 ⟨s, hs, hk'⟩)
    · exact (hgives ids).2 ⟨hcompared, hmake⟩

/-- **When the rows are compared by the ids of what they build**, and what
is found is built from one of them: every row can be compared, and all
rows of the id of what was found build. -/
theorem listsBack_iff_of_compared
    (hlist : ∀ ids, Selects (requested compared ids) make rows (list ids))
    (hfound : ∀ r, found r → ∃ row ∈ rows, make row = .ok r)
    (hid : ∀ row r, make row = .ok r → ∀ s, compared row = .ok (some s) ↔ entryId r = some s) :
    ListsBack found entryId list compared make rows ↔
      (∀ row ∈ rows, ∃ k, compared row = .ok k) ∧
      ∀ r s, found r → entryId r = some s →
        ∀ row ∈ rows, compared row = .ok (some s) → ∃ r', make row = .ok r' := by
  rw [listsBack_iff hlist]
  constructor
  · rintro ⟨hall, -, hback⟩
    exact ⟨hall, fun r s hr hs => (hback r s hr hs).1⟩
  · rintro ⟨hall, hbuild⟩
    refine ⟨hall, fun s _ row _ hs r hr => (hid row r hr s).1 hs, fun r s hr hs => ?_⟩
    obtain ⟨row, hrow, hmake⟩ := hfound r hr
    exact ⟨hbuild r s hr hs, row, hrow, (hid row r hmake s).2 hs, hmake⟩

/-- A listing that gives nothing lists back what has no id. -/
theorem listsBack_of_empty (hlist : ∀ ids, list ids = .ok []) :
    ListsBack found entryId list compared make rows ↔ ∀ r, found r → entryId r = none := by
  constructor
  · rintro ⟨hback, -, -⟩ r hfound
    rw [Option.eq_none_iff_forall_ne_some]
    intro s hid
    obtain ⟨rs, hrs, hmem⟩ := hback r s hfound hid
    rw [hlist] at hrs
    cases hrs
    cases hmem
  · intro hnone
    refine ⟨fun r s hfound hid => ?_, fun ids rs hrs r hmem => ?_, fun ids _ => ⟨[], hlist ids⟩⟩
    · rw [hnone r hfound] at hid
      cases hid
    · rw [hlist] at hrs
      cases hrs
      cases hmem

end Listing

end WazoDird
