import Mathlib.Data.List.Forall2

/-!
# Computations that may raise

What a sequence of steps that may raise gives, step by step.
-/

namespace WazoDird

variable {ε α β : Type}

/-- Whether a body gives something with a property is decided by running it. -/
instance decidableExistsOkAnd {p : α → Prop} [DecidablePred p] (x : Except ε α) :
    Decidable (∃ a, x = .ok a ∧ p a) :=
  match x with
  | .error _ => isFalse fun ⟨_, h, _⟩ => by cases h
  | .ok a => decidable_of_iff (p a) ⟨fun h => ⟨a, rfl, h⟩, fun ⟨_, h, hp⟩ => Except.ok.inj h ▸ hp⟩

instance decidableExistsOk (x : Except ε α) : Decidable (∃ a, x = .ok a) :=
  match x with
  | .error _ => isFalse fun ⟨_, h⟩ => by cases h
  | .ok a => isTrue ⟨a, rfl⟩

/-- A step of a body that succeeds: what it gave, and what followed. -/
theorem bind_eq_ok {x : Except ε α} {f : α → Except ε β} {b : β} :
    x >>= f = .ok b ↔ ∃ a, x = .ok a ∧ f a = .ok b := by
  cases x with
  | error e => simp [bind, Except.bind]
  | ok a => simp [bind, Except.bind]

/-- A step of a body that raises: it raised itself, or what followed did. -/
theorem bind_eq_error {x : Except ε α} {f : α → Except ε β} {e : ε} :
    x >>= f = .error e ↔ x = .error e ∨ ∃ a, x = .ok a ∧ f a = .error e := by
  cases x with
  | error e' => simp [bind, Except.bind]
  | ok a => simp [bind, Except.bind]

/-- A step that is mapped is a step, and what it gives. -/
theorem except_map_eq_bind {x : Except ε α} {f : α → β} :
    x.map f = x >>= fun a => pure (f a) := by
  cases x <;> rfl

/-- A step whose result is mapped gives something when it does. -/
theorem exists_map_eq_ok {x : Except ε α} {f : α → β} :
    (∃ b, x.map f = .ok b) ↔ ∃ a, x = .ok a := by
  cases x <;> simp [Except.map]

/-- So does one whose exception is mapped. -/
theorem exists_mapError_eq_ok {ε' : Type} {x : Except ε α} {f : ε → ε'} :
    (∃ a, x.mapError f = .ok a) ↔ ∃ a, x = .ok a := by
  cases x <;> simp [Except.mapError]

/-- What a mapped body raises, it raises for one of the list. -/
theorem mem_of_mapM_eq_error {f : α → Except ε β} {l : List α} {e : ε}
    (h : l.mapM f = .error e) : ∃ a ∈ l, f a = .error e := by
  induction l with
  | nil => cases h
  | cons a l ih =>
      rw [List.mapM_cons] at h
      rcases bind_eq_error.1 h with h | ⟨b, -, h⟩
      · exact ⟨a, List.mem_cons_self, h⟩
      · rcases bind_eq_error.1 h with h | ⟨bs, -, h⟩
        · obtain ⟨a', ha', hfa'⟩ := ih h
          exact ⟨a', List.mem_cons_of_mem _ ha', hfa'⟩
        · cases h

/-- What a mapped body gives, it gives for one of the list. -/
theorem mem_of_mapM_eq_ok {f : α → Except ε β} {l : List α} {bs : List β}
    (h : l.mapM f = .ok bs) {b : β} (hb : b ∈ bs) : ∃ a ∈ l, f a = .ok b := by
  induction l generalizing bs with
  | nil =>
      cases h
      cases hb
  | cons a l ih =>
      rw [List.mapM_cons] at h
      obtain ⟨b', hb', h⟩ := bind_eq_ok.1 h
      obtain ⟨bs', hbs', h⟩ := bind_eq_ok.1 h
      cases h
      rcases List.mem_cons.1 hb with rfl | hmem
      · exact ⟨a, List.mem_cons_self, hb'⟩
      · obtain ⟨a', ha', hfa'⟩ := ih hbs' hmem
        exact ⟨a', List.mem_cons_of_mem _ ha', hfa'⟩

/-- A mapped body that may give nothing gives one thing for each of the
list. -/
theorem mapM_eq_some_iff {f : α → Option β} {l : List α} {bs : List β} :
    l.mapM f = some bs ↔ List.Forall₂ (fun a b => f a = some b) l bs := by
  induction l generalizing bs with
  | nil => simp [eq_comm]
  | cons a l ih =>
      rw [List.mapM_cons, Option.bind_eq_bind, Option.bind_eq_some_iff, List.forall₂_cons_left_iff]
      simp only [Option.bind_eq_bind, Option.bind_eq_some_iff, ih, Option.pure_def,
        Option.some.injEq]
      constructor
      · rintro ⟨b, hb, bs', hbs, rfl⟩
        exact ⟨b, bs', hb, hbs, rfl⟩
      · rintro ⟨b, bs', hb, hbs, rfl⟩
        exact ⟨b, hb, bs', hbs, rfl⟩

/-- What stands in a list stands by something of a list related to it. -/
theorem exists_of_forall₂ {R : α → β → Prop} {l : List α} {l' : List β}
    (h : List.Forall₂ R l l') {a : α} (ha : a ∈ l) : ∃ b ∈ l', R a b := by
  induction h with
  | nil => cases ha
  | @cons a' b' l l' hab _ ih =>
    rcases List.mem_cons.1 ha with rfl | ha
    · exact ⟨b', List.mem_cons_self, hab⟩
    · obtain ⟨b, hb, hR⟩ := ih ha
      exact ⟨b, List.mem_cons_of_mem _ hb, hR⟩

/-- What a mapped body keeps of each it keeps of the list. -/
theorem map_eq_of_mapM_eq_ok {γ : Type} {f : α → Except ε β} {g : α → γ} {g' : β → γ}
    (hf : ∀ {a b}, f a = .ok b → g' b = g a) {l : List α} {bs : List β}
    (h : l.mapM f = .ok bs) : bs.map g' = l.map g := by
  induction l generalizing bs with
  | nil =>
      cases h
      rfl
  | cons a l ih =>
      rw [List.mapM_cons] at h
      obtain ⟨b, hb, h⟩ := bind_eq_ok.1 h
      obtain ⟨bs', hbs, h⟩ := bind_eq_ok.1 h
      cases h
      rw [List.map_cons, List.map_cons, hf hb, ih hbs]

/-- A mapped body gives something when each of the list does. -/
theorem exists_mapM_eq_ok {f : α → Except ε β} {l : List α} :
    (∃ bs, l.mapM f = .ok bs) ↔ ∀ a ∈ l, ∃ b, f a = .ok b := by
  induction l with
  | nil => exact ⟨fun _ a ha => (by cases ha), fun _ => ⟨[], rfl⟩⟩
  | cons a l ih =>
      simp only [List.mapM_cons, bind_eq_ok]
      rw [List.forall_mem_cons, ← ih]
      constructor
      · rintro ⟨-, b, hb, bs, hbs, -⟩
        exact ⟨⟨b, hb⟩, bs, hbs⟩
      · rintro ⟨⟨b, hb⟩, bs, hbs⟩
        exact ⟨_, b, hb, bs, hbs, rfl⟩

/-- What is given for one of the list is given. -/
theorem mem_mapM_iff {f : α → Except ε β} {l : List α} {bs : List β} (h : l.mapM f = .ok bs)
    {b : β} : b ∈ bs ↔ ∃ a ∈ l, f a = .ok b := by
  refine ⟨mem_of_mapM_eq_ok h, ?_⟩
  rintro ⟨a, ha, hb⟩
  induction l generalizing bs with
  | nil => cases ha
  | cons a' l ih =>
      rw [List.mapM_cons] at h
      obtain ⟨b', hb', h⟩ := bind_eq_ok.1 h
      obtain ⟨bs', hbs', h⟩ := bind_eq_ok.1 h
      cases h
      rcases List.mem_cons.1 ha with rfl | ha
      · rw [hb] at hb'
        cases hb'
        exact List.mem_cons_self
      · exact List.mem_cons_of_mem _ (ih hbs' ha)

/-- A mapped body that gives something for each of the list. -/
theorem mapM_eq_ok_map {f : α → Except ε β} {g : α → β} {l : List α}
    (hf : ∀ a ∈ l, f a = .ok (g a)) : l.mapM f = .ok (l.map g) := by
  induction l with
  | nil => rfl
  | cons a l ih =>
      rw [List.forall_mem_cons] at hf
      rw [List.mapM_cons, hf.1, ih hf.2]
      rfl

/-- A body that undoes a map gives back the list. -/
theorem mapM_map_eq_ok {f : α → Except ε β} {g : β → α} (hf : ∀ b, f (g b) = .ok b) (l : List β) :
    (l.map g).mapM f = .ok l := by
  induction l with
  | nil => rfl
  | cons b l ih =>
      rw [List.map_cons, List.mapM_cons, hf, ih]
      rfl

/-- A mapped body that gives what a function gives, where it gives
something. -/
theorem mapM_eq_ok_iff_map {f : α → Except ε β} {p : α → Prop} {g : α → β}
    (hf : ∀ {a b}, f a = .ok b ↔ p a ∧ b = g a) {l : List α} {bs : List β} :
    l.mapM f = .ok bs ↔ (∀ a ∈ l, p a) ∧ bs = l.map g := by
  induction l generalizing bs with
  | nil => simp [pure, Except.pure, eq_comm]
  | cons a l ih =>
      rw [List.mapM_cons, List.forall_mem_cons, List.map_cons]
      simp only [bind_eq_ok, hf, ih]
      constructor
      · rintro ⟨_, ⟨ha, rfl⟩, _, ⟨hl, rfl⟩, ⟨⟩⟩
        exact ⟨⟨ha, hl⟩, rfl⟩
      · rintro ⟨⟨ha, hl⟩, rfl⟩
        exact ⟨_, ⟨ha, rfl⟩, _, ⟨hl, rfl⟩, rfl⟩

/-- A loop whose turns raise, or change nothing: it raises if one of them
does. -/
theorem foldlM_eq_ite {step : β → α → Except ε β} {p : α → Prop} [DecidablePred p] {l : List α}
    {b : β} {e : ε} (hstep : ∀ a ∈ l, step b a = if p a then .error e else .ok b) :
    l.foldlM step b = if ∃ a ∈ l, p a then .error e else .ok b := by
  induction l with
  | nil => simp [pure, Except.pure]
  | cons a l ih =>
    rw [List.foldlM_cons, hstep a List.mem_cons_self]
    by_cases ha : p a
    · rw [if_pos ha, if_pos ⟨a, List.mem_cons_self, ha⟩]
      rfl
    · rw [if_neg ha]
      refine (ih fun a' ha' => hstep a' (List.mem_cons_of_mem _ ha')).trans ?_
      simp [ha]

/-- **What a turn of a loop preserves**, the loop preserves, of what it has
done and what it goes on with. -/
theorem foldlM_invariant {step : β → α → Except ε β} {I : List α → β → Prop}
    (hstep : ∀ {done a b b'}, I done b → step b a = .ok b' → I (done ++ [a]) b')
    {done l : List α} {b b' : β} (h0 : I done b) (h : l.foldlM step b = .ok b') :
    I (done ++ l) b' := by
  induction l generalizing done b with
  | nil =>
      cases h
      rwa [List.append_nil]
  | cons a l ih =>
      rw [List.foldlM_cons] at h
      obtain ⟨mid, hmid, hrest⟩ := bind_eq_ok.1 h
      have hl := ih (hstep h0 hmid) hrest
      rwa [List.append_assoc] at hl

/-- What a turn of a loop preserves of what it goes on with. -/
theorem foldlM_preserves {step : β → α → Except ε β} {I : β → Prop}
    (hstep : ∀ {a b b'}, I b → step b a = .ok b' → I b') {l : List α} {b b' : β} (h0 : I b)
    (h : l.foldlM step b = .ok b') : I b' := by
  induction l generalizing b with
  | nil =>
      cases h
      exact h0
  | cons a l ih =>
      rw [List.foldlM_cons] at h
      obtain ⟨mid, hmid, hrest⟩ := bind_eq_ok.1 h
      exact ih (hstep h0 hmid) hrest

/-- What a loop raises, one of its turns does. -/
theorem mem_of_foldlM_eq_error {step : β → α → Except ε β} {l : List α} {b : β} {e : ε}
    (h : l.foldlM step b = .error e) : ∃ a ∈ l, ∃ b', step b' a = .error e := by
  induction l generalizing b with
  | nil => cases h
  | cons a l ih =>
      rw [List.foldlM_cons] at h
      rcases bind_eq_error.1 h with h | ⟨mid, -, h⟩
      · exact ⟨a, List.mem_cons_self, b, h⟩
      · obtain ⟨a', ha', hstep⟩ := ih h
        exact ⟨a', List.mem_cons_of_mem _ ha', hstep⟩

/-- A loop goes through when each of its turns does, as long as what the
turns preserve lets what they need be said beforehand. -/
theorem exists_foldlM_eq_ok {step : β → α → Except ε β} {I : List α → β → Prop} {need : α → Prop}
    (hstep : ∀ {done a b b'}, I done b → step b a = .ok b' → I (done ++ [a]) b')
    (hneed : ∀ {done a b}, I done b → ((∃ b', step b a = .ok b') ↔ need a))
    {done l : List α} {b : β} (h0 : I done b) :
    (∃ b', l.foldlM step b = .ok b') ↔ ∀ a ∈ l, need a := by
  induction l generalizing done b with
  | nil => exact ⟨fun _ a ha => (by cases ha), fun _ => ⟨b, rfl⟩⟩
  | cons a l ih =>
      simp only [List.foldlM_cons, bind_eq_ok]
      rw [List.forall_mem_cons]
      constructor
      · rintro ⟨b', mid, hmid, hrest⟩
        exact ⟨(hneed h0).1 ⟨mid, hmid⟩, (ih (hstep h0 hmid)).1 ⟨b', hrest⟩⟩
      · rintro ⟨ha, hl⟩
        obtain ⟨mid, hmid⟩ := (hneed h0).2 ha
        obtain ⟨b', hrest⟩ := (ih (hstep h0 hmid)).2 hl
        exact ⟨b', mid, hmid, hrest⟩

end WazoDird
