import WazoDird.Common.Run

/-!
# Books of cards

A book has cards under ids, each of an owner and of some contents, and no
owner has two cards of the same contents. What an owner asks of a book, and
is answered, is a step relation; it leaves open the id of a new card and
which writes are refused. Of its runs: what an owner asks for touches no
card of another (`Step.card_of_other`), what is not done changes nothing
(`Step.eq_of_not_done`), and a card is what was last written under its id,
in every run of what shows a book (`lastWritten_of_run`).
-/

namespace WazoDird

/-- **A book**: the card under each id, where there is one. -/
@[ext] structure Book (ι ω κ : Type*) where
  card : ι → Option (ω × κ)
  /-- No owner has the same contents on two cards. -/
  distinct : ∀ i j x, card i = some x → card j = some x → i = j

namespace Book

/-- **What an owner asks of a book.** -/
inductive Call (ι ω κ : Type*) where
  /-- A new card, under an id of its own if it has one. -/
  | insert (owner : ω) (contents : κ) (own : Option ι)
  /-- A card for each of the contents, where there is none. -/
  | insertAll (owner : ω) (entries : List (κ × Option ι))
  /-- Other contents for a card. -/
  | replace (owner : ω) (id : ι) (contents : κ)
  | remove (owner : ω) (id : ι)
  | removeAll (owner : ω)

/-- **What is answered.** -/
inductive Answer where
  | done
  /-- The owner has a card of these contents. -/
  | duplicated
  /-- The owner has no such card. -/
  | missing
  /-- What is to be written cannot be. -/
  | refused
  deriving DecidableEq

variable {ι ω κ : Type*}

/-- Who asks. -/
def Call.owner : Call ι ω κ → ω
  | insert owner _ _ | insertAll owner _ | replace owner _ _ | remove owner _ | removeAll owner =>
      owner

/-- An owner has a card of some contents. -/
def Has (b : Book ι ω κ) (w : ω) (k : κ) : Prop := ∃ i, b.card i = some (w, k)

/-- A card is an owner's. -/
def Owns (b : Book ι ω κ) (w : ω) (i : ι) : Prop := ∃ k, b.card i = some (w, k)

/-- Of entries of the same contents the last stands for them. -/
def Stands (entries : List (κ × Option ι)) (k : κ) (own : Option ι) : Prop :=
  ∃ before after, entries = before ++ (k, own) :: after ∧ ∀ e ∈ after, e.1 ≠ k

/-- **Cards inserted**: those there were stay, every entry has a card, and a
new card is of an entry, under its own id if it has one. -/
structure Inserted (b : Book ι ω κ) (w : ω) (entries : List (κ × Option ι)) (b' : Book ι ω κ) :
    Prop where
  kept : ∀ i x, b.card i = some x → b'.card i = some x
  has : ∀ e ∈ entries, b'.Has w e.1
  new : ∀ i x, b.card i = none → b'.card i = some x →
    x.1 = w ∧ ∃ own, Stands entries x.2 own ∧ ∀ j, own = some j → i = j

/-- **A step of a book**: what is asked, and answered. -/
inductive Step : Book ι ω κ → Call ι ω κ × Answer → Book ι ω κ → Prop
  | inserted {b b' : Book ι ω κ} {w : ω} {k : κ} {own : Option ι} (hnew : ¬ b.Has w k)
      (h : Inserted b w [(k, own)] b') : Step b (.insert w k own, .done) b'
  | insertDuplicated {b : Book ι ω κ} {w : ω} {k : κ} {own : Option ι} (h : b.Has w k) :
      Step b (.insert w k own, .duplicated) b
  | insertRefused {b : Book ι ω κ} {w : ω} {k : κ} {own : Option ι} (hnew : ¬ b.Has w k) :
      Step b (.insert w k own, .refused) b
  | insertedAll {b b' : Book ι ω κ} {w : ω} {entries : List (κ × Option ι)}
      (h : Inserted b w entries b') : Step b (.insertAll w entries, .done) b'
  /-- There was something to write. -/
  | insertAllRefused {b : Book ι ω κ} {w : ω} {entries : List (κ × Option ι)} {e : κ × Option ι}
      (he : e ∈ entries) (hnew : ¬ b.Has w e.1) : Step b (.insertAll w entries, .refused) b
  | replaced {b b' : Book ι ω κ} {w : ω} {i : ι} {k : κ} (hown : b.Owns w i)
      (hnew : ∀ j, b.card j = some (w, k) → j = i) (hcard : b'.card i = some (w, k))
      (hother : ∀ j, j ≠ i → b'.card j = b.card j) : Step b (.replace w i k, .done) b'
  | replaceDuplicated {b : Book ι ω κ} {w : ω} {i j : ι} {k : κ} (hown : b.Owns w i) (hne : j ≠ i)
      (h : b.card j = some (w, k)) : Step b (.replace w i k, .duplicated) b
  | replaceMissing {b : Book ι ω κ} {w : ω} {i : ι} {k : κ} (hown : ¬ b.Owns w i) :
      Step b (.replace w i k, .missing) b
  | replaceRefused {b : Book ι ω κ} {w : ω} {i : ι} {k : κ} (hown : b.Owns w i)
      (hnew : ∀ j, b.card j = some (w, k) → j = i) : Step b (.replace w i k, .refused) b
  | removed {b b' : Book ι ω κ} {w : ω} {i : ι} (hown : b.Owns w i) (hcard : b'.card i = none)
      (hother : ∀ j, j ≠ i → b'.card j = b.card j) : Step b (.remove w i, .done) b'
  | removeMissing {b : Book ι ω κ} {w : ω} {i : ι} (hown : ¬ b.Owns w i) :
      Step b (.remove w i, .missing) b
  | removedAll {b b' : Book ι ω κ} {w : ω}
      (h : ∀ i x, b'.card i = some x ↔ b.card i = some x ∧ x.1 ≠ w) :
      Step b (.removeAll w, .done) b'

variable {b b' b₀ : Book ι ω κ} {w v : ω} {k : κ} {i : ι} {own : Option ι}
  {entries : List (κ × Option ι)} {l : List (Call ι ω κ × Answer)} {a : Call ι ω κ × Answer}

/-- **What is not done changes nothing.** -/
theorem Step.eq_of_not_done (h : Step b a b') (ha : a.2 ≠ .done) : b' = b := by
  cases h with
  | inserted | insertedAll | replaced | removed | removedAll => exact absurd rfl ha
  | insertDuplicated | insertRefused | insertAllRefused | replaceDuplicated | replaceMissing
  | replaceRefused | removeMissing => rfl

/-- Cards inserted for one owner are no other's. -/
theorem Inserted.card_of_other (h : Inserted b w entries b') (hne : v ≠ w) :
    b'.card i = some (v, k) ↔ b.card i = some (v, k) := by
  refine ⟨fun hcard => ?_, h.kept i (v, k)⟩
  cases hold : b.card i with
  | none => exact absurd (h.new i _ hold hcard).1 hne
  | some x => exact (h.kept i x hold).symm.trans hcard

/-- A card written in place of an owner's is no other's. -/
theorem card_of_other_of_replaced (hown : b.Owns w i) (hne : v ≠ w)
    (hcard : ∀ x, b'.card i = some x → x.1 = w) (hother : ∀ j, j ≠ i → b'.card j = b.card j)
    {j : ι} : b'.card j = some (v, k) ↔ b.card j = some (v, k) := by
  by_cases hj : j = i
  · subst hj
    obtain ⟨k', hk'⟩ := hown
    constructor
    · intro h
      exact absurd (hcard _ h) hne
    · intro h
      rw [hk'] at h
      cases h
      exact absurd rfl hne
  · rw [hother j hj]

/-- **What one owner asks for touches no card of another.** -/
theorem Step.card_of_other (h : Step b a b') (hne : v ≠ a.1.owner) :
    b'.card i = some (v, k) ↔ b.card i = some (v, k) := by
  cases h with
  | inserted _ h => exact h.card_of_other hne
  | insertedAll h => exact h.card_of_other hne
  | replaced hown _ hcard hother =>
      refine card_of_other_of_replaced hown hne (fun x hx => ?_) hother
      rw [hcard] at hx
      cases hx
      rfl
  | removed hown hcard hother =>
      refine card_of_other_of_replaced hown hne (fun x hx => ?_) hother
      rw [hcard] at hx
      cases hx
  | removedAll h =>
      rw [h i]
      exact and_iff_left hne
  | insertDuplicated | insertRefused | insertAllRefused | replaceDuplicated | replaceMissing
  | replaceRefused | removeMissing => rfl

/-! ## The last write of a card -/

/-- The call writes a card of these contents under this id. -/
def Call.Writes (w : ω) (i : ι) (k : κ) : Call ι ω κ → Prop
  | insert owner contents own => owner = w ∧ contents = k ∧ ∀ j, own = some j → i = j
  | insertAll owner entries => owner = w ∧ ∃ own, Stands entries k own ∧ ∀ j, own = some j → i = j
  | replace owner id contents => owner = w ∧ id = i ∧ contents = k
  | remove .. | removeAll _ => False

/-- The call takes what is under an id of the owner's away. -/
def Call.Drops (w : ω) (i : ι) : Call ι ω κ → Prop
  | replace owner id _ | remove owner id => owner = w ∧ id = i
  | removeAll owner => owner = w
  | insert .. | insertAll .. => False

/-- The last of one entry is it. -/
theorem Stands.of_singleton {own' : Option ι} {k' : κ} (h : Stands [(k, own)] k' own') :
    k' = k ∧ own' = own := by
  obtain ⟨before, after, heq, -⟩ := h
  cases before with
  | nil =>
      cases heq
      exact ⟨rfl, rfl⟩
  | cons e before => simp at heq

/-- Where the entries have one id, or none, some entry stands for the
contents of each. -/
theorem Stands.of_mem {e : κ × Option ι} (he : e ∈ entries) (hown : ∀ e ∈ entries, e.2 = own) :
    Stands entries e.1 own := by
  induction entries generalizing e with
  | nil => cases he
  | cons first entries ih =>
      rw [List.forall_mem_cons] at hown
      by_cases hlater : ∃ e' ∈ entries, e'.1 = e.1
      · obtain ⟨e', he', heq⟩ := hlater
        obtain ⟨before, after, hsplit, hafter⟩ := ih he' hown.2
        rw [heq] at hsplit hafter
        exact ⟨first :: before, after, by rw [hsplit]; rfl, hafter⟩
      · rcases List.mem_cons.1 he with rfl | he
        · exact ⟨[], entries, by rw [← hown.1]; rfl, fun e' he' heq => hlater ⟨e', he', heq⟩⟩
        · exact absurd ⟨e, he, rfl⟩ hlater

/-- **A card after a step** was there, and is not taken away, or is written
by it where there was none or in its place. -/
theorem Step.card_cases (h : Step b a b') (hcard : b'.card i = some (w, k)) :
    b.card i = some (w, k) ∧ (a.2 = .done → ¬ a.1.Drops w i) ∨
      a.2 = .done ∧ a.1.Writes w i k ∧ (b.card i = none ∨ a.1.Drops w i) := by
  have hkept : ∀ {c : Call ι ω κ} {answer : Answer}, b.card i = some (w, k) → answer ≠ .done →
      b.card i = some (w, k) ∧ (answer = .done → ¬ c.Drops w i) ∨
        answer = .done ∧ c.Writes w i k ∧ (b.card i = none ∨ c.Drops w i) :=
    fun hb hne => Or.inl ⟨hb, fun hdone => absurd hdone hne⟩
  cases h with
  | @inserted _ w' k' own hnew h =>
      cases hold : b.card i with
      | none =>
          obtain ⟨rfl, own', hstands, hown⟩ := h.new i _ hold hcard
          obtain ⟨rfl, rfl⟩ := hstands.of_singleton
          exact Or.inr ⟨rfl, ⟨rfl, rfl, hown⟩, Or.inl rfl⟩
      | some x => exact Or.inl ⟨(h.kept i x hold).symm.trans hcard, fun _ => id⟩
  | insertedAll h =>
      cases hold : b.card i with
      | none =>
          obtain ⟨rfl, hstands⟩ := h.new i _ hold hcard
          exact Or.inr ⟨rfl, ⟨rfl, hstands⟩, Or.inl rfl⟩
      | some x => exact Or.inl ⟨(h.kept i x hold).symm.trans hcard, fun _ => id⟩
  | @replaced _ w' j k' hown hnew hcard' hother =>
      by_cases hij : i = j
      · subst hij
        rw [hcard'] at hcard
        cases hcard
        exact Or.inr ⟨rfl, ⟨rfl, rfl, rfl⟩, Or.inr ⟨rfl, rfl⟩⟩
      · exact Or.inl ⟨(hother i hij).symm.trans hcard, fun _ hdrops => hij hdrops.2.symm⟩
  | @removed _ w' j hown hcard' hother =>
      by_cases hij : i = j
      · subst hij
        rw [hcard'] at hcard
        cases hcard
      · exact Or.inl ⟨(hother i hij).symm.trans hcard, fun _ hdrops => hij hdrops.2.symm⟩
  | removedAll h =>
      obtain ⟨hold, hne⟩ := (h i _).1 hcard
      exact Or.inl ⟨hold, fun _ hdrops => hne hdrops.symm⟩
  | insertDuplicated | insertRefused | insertAllRefused | replaceDuplicated | replaceMissing
  | replaceRefused | removeMissing => exact hkept hcard (by simp)

/-- **What others ask for in a run touches no card of an owner.** -/
theorem card_of_others (h : Run Step b₀ l b) (hne : ∀ a ∈ l, v ≠ a.1.owner) :
    b.card i = some (v, k) ↔ b₀.card i = some (v, k) := by
  induction h with
  | nil => rfl
  | @snoc _ b l a _ hs ih =>
      rw [hs.card_of_other (hne a (by simp))]
      exact ih fun a ha => hne a (List.mem_append_left _ ha)

/-- **A card stays while nothing takes it away.** -/
theorem Step.card_stays (h : Step b a b') (hcard : b.card i = some (w, k))
    (hnot : a.2 = .done → ¬ a.1.Drops w i) : b'.card i = some (w, k) := by
  by_cases hne : w = a.1.owner
  · cases h with
    | inserted _ h => exact h.kept i _ hcard
    | insertedAll h => exact h.kept i _ hcard
    | @replaced _ w' j k' hown _ _ hother =>
        rw [hother i, hcard]
        exact fun hij => hnot rfl ⟨hne.symm, hij.symm⟩
    | @removed _ w' j hown _ hother =>
        rw [hother i, hcard]
        exact fun hij => hnot rfl ⟨hne.symm, hij.symm⟩
    | removedAll h => exact absurd hne.symm (hnot rfl)
    | insertDuplicated | insertRefused | insertAllRefused | replaceDuplicated | replaceMissing
    | replaceRefused | removeMissing => exact hcard
  · exact (h.card_of_other hne).2 hcard

/-- And so over a run. -/
theorem card_stays (h : Run Step b₀ l b) (hcard : b₀.card i = some (w, k))
    (hnot : ∀ c, (c, .done) ∈ l → ¬ c.Drops w i) : b.card i = some (w, k) := by
  induction h with
  | nil => exact hcard
  | @snoc _ b l a _ hs ih =>
      refine hs.card_stays (ih fun c hc => hnot c (List.mem_append_left _ hc)) fun hdone => ?_
      obtain ⟨c, answer⟩ := a
      cases hdone
      exact hnot c (by simp)

/-! ## What shows a book

A system whose states each show a book, and whose steps are steps of it or
leave it alone. -/

section Shown

variable {σ α : Type*} {step : σ → α → σ → Prop} {shows : σ → Book ι ω κ → Prop}
  {told : α → Option (Call ι ω κ × Answer)} {s s₀ : σ} {h : List (σ × α)}

/-- **The last write of a card in a recorded run**: a step that was done
wrote it, where there was no card or in its place; the card is there after
the step, and no step done since took it away. -/
def LastWritten (step : σ → α → σ → Prop) (shows : σ → Book ι ω κ → Prop)
    (told : α → Option (Call ι ω κ × Answer)) (h : List (σ × α)) (s : σ) (w : ω) (i : ι)
    (k : κ) : Prop :=
  ∃ before s₁ a s₂ after c b₁ b₂, h = before ++ (s₁, a) :: after ∧ step s₁ a s₂ ∧
    Run (Recorded step) s₂ after s ∧ told a = some (c, .done) ∧ c.Writes w i k ∧
    shows s₁ b₁ ∧ (b₁.card i = none ∨ c.Drops w i) ∧ shows s₂ b₂ ∧ b₂.card i = some (w, k) ∧
    ∀ x ∈ after, ∀ c', told x.2 = some (c', .done) → ¬ c'.Drops w i

/-- One step more, which does not take the card away. -/
theorem LastWritten.snoc (hlast : LastWritten step shows told h s w i k) {a : α} {s' : σ}
    (hs : step s a s') (hnot : ∀ c, told a = some (c, .done) → ¬ c.Drops w i) :
    LastWritten step shows told (h ++ [(s, a)]) s' w i k := by
  obtain ⟨before, s₁, a₁, s₂, after, c, b₁, b₂, rfl, hstep, hafter, htold, hwrites, h₁, hnew, h₂,
    hcard, hsince⟩ := hlast
  refine ⟨before, s₁, a₁, s₂, after ++ [(s, a)], c, b₁, b₂, by simp, hstep,
    hafter.snoc ⟨rfl, hs⟩, htold, hwrites, h₁, hnew, h₂, hcard, fun x hx => ?_⟩
  rcases List.mem_append.1 hx with hx | hx
  · exact hsince x hx
  · obtain rfl := List.mem_singleton.1 hx
    exact hnot

variable (shows told) in
/-- **A card is what was last written under its id**, in every run from a
state that shows a book without a card. -/
theorem lastWritten_of_run
    (hstep : ∀ {s b a s'}, shows s b → step s a s' →
      ∃ b', Run Step b (told a).toList b' ∧ shows s' b')
    (h₀ : shows s₀ b₀) (hempty : ∀ i, b₀.card i = none) (hrun : Run (Recorded step) s₀ h s) :
    ∃ b, shows s b ∧ ∀ w i k, b.card i = some (w, k) → LastWritten step shows told h s w i k := by
  induction hrun with
  | nil =>
      refine ⟨b₀, h₀, fun w i k hcard => ?_⟩
      rw [hempty i] at hcard
      cases hcard
  | @snoc t s h x _ hs ih =>
      obtain ⟨rfl, hs⟩ := hs
      obtain ⟨b, hb, hlast⟩ := ih
      obtain ⟨b', hbook, hb'⟩ := hstep hb hs
      refine ⟨b', hb', fun w i k hcard => ?_⟩
      cases htold : told x.2 with
      | none =>
          rw [htold] at hbook
          rw [hbook.eq_of_nil] at hcard
          exact (hlast w i k hcard).snoc hs fun c hc => by rw [htold] at hc; cases hc
      | some a =>
          rw [htold] at hbook
          obtain ⟨c, answer⟩ := a
          rcases (Run.step_of_single hbook).card_cases hcard with
            ⟨hold, hnot⟩ | ⟨hdone, hwrites, hnew⟩
          · refine (hlast w i k hold).snoc hs fun c' hc' => ?_
            rw [htold] at hc'
            cases hc'
            exact hnot rfl
          · have hdone : answer = .done := hdone
            subst hdone
            exact ⟨h, x.1, x.2, s, [], c, b, b', rfl, hs, .nil _, htold, hwrites, hb, hnew, hb',
              hcard, fun y hy => by cases hy⟩

end Shown

end Book

end WazoDird
