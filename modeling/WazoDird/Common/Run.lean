import Mathlib.Data.List.Basic

/-!
# Runs of a labelled step relation

A run takes one step for each label of its list. What one step preserves
a run preserves (`Run.invariant`), which is the only induction over runs
a development needs; a run whose steps all meet a condition is a run of
the guarded relation, and so carries the invariants the condition buys.
-/

namespace WazoDird

variable {σ α : Type*}

/-- **A run**: one step for each label, oldest first. -/
inductive Run (step : σ → α → σ → Prop) : σ → List α → σ → Prop
  /-- No step at all. -/
  | nil (s : σ) : Run step s [] s
  /-- One more step at the end. -/
  | snoc {s t u : σ} {l : List α} {a : α} :
      Run step s l t → step t a u → Run step s (l ++ [a]) u

/-- A step relation, restricted to the steps that meet a condition. -/
def Guarded (guard : σ → α → Prop) (step : σ → α → σ → Prop) : σ → α → σ → Prop :=
  fun s a t => guard s a ∧ step s a t

namespace Run

variable {step : σ → α → σ → Prop} {s t u : σ} {l l' : List α} {a : α}

/-- **What a step preserves, a run preserves.** -/
theorem invariant {I : σ → Prop} (h : Run step s l t) (h0 : I s)
    (hstep : ∀ {s a t}, I s → step s a t → I t) : I t := by
  induction h with
  | nil => exact h0
  | snoc _ hs ih => exact hstep ih hs

/-- One step is a run. -/
theorem single (h : step s a t) : Run step s [a] t :=
  snoc (nil s) h

/-- A run of no step stays where it is. -/
theorem eq_of_nil (h : Run step s [] t) : t = s := by
  generalize hl : [] = l at h
  cases h with
  | nil => rfl
  | snoc _ _ => simp at hl

/-- A run of one step is it. -/
theorem step_of_single (h : Run step s [a] t) : step s a t := by
  generalize hl : [a] = l at h
  cases h with
  | nil => cases hl
  | @snoc u _ l _ hrun hs =>
      cases l with
      | nil =>
          cases hl
          rwa [eq_of_nil hrun] at hs
      | cons b l => simp at hl

/-- Runs compose. -/
theorem append (h : Run step s l t) (h' : Run step t l' u) : Run step s (l ++ l') u := by
  induction h' with
  | nil => rwa [List.append_nil]
  | snoc _ hs ih => rw [← List.append_assoc]; exact snoc ih hs

/-- A run with one step at its front. -/
theorem cons (hs : step s a t) (h : Run step t l u) : Run step s (a :: l) u :=
  append (single hs) h

/-- Every label of a run is the label of a step the run took. -/
theorem exists_step (h : Run step s l t) (ha : a ∈ l) :
    ∃ l₁ u v, Run step s l₁ u ∧ step u a v := by
  induction h with
  | nil => cases ha
  | @snoc u v l b hrun hs ih =>
      rcases List.mem_append.1 ha with hmem | hmem
      · exact ih hmem
      · obtain rfl := List.mem_singleton.1 hmem
        exact ⟨l, u, v, hrun, hs⟩

/-- **A run is simulated step by step**: where every step of one relation
is a step of another between related states, or none and leaves them
related, so is every run. -/
theorem simulates_filterMap {τ β : Type*} {step' : τ → β → τ → Prop} {R : σ → τ → Prop}
    {f : α → Option β}
    (hstep : ∀ {s a s' x}, R s x → step s a s' → ∃ x', Run step' x (f a).toList x' ∧ R s' x')
    {x : τ} (h : Run step s l t) (hR : R s x) :
    ∃ y, Run step' x (l.filterMap f) y ∧ R t y := by
  induction h with
  | nil => exact ⟨x, nil x, hR⟩
  | @snoc t u l a _ hs ih =>
      obtain ⟨y, hrun, hy⟩ := ih
      obtain ⟨z, hrun', hz⟩ := hstep hy hs
      refine ⟨z, ?_, hz⟩
      rw [List.filterMap_append]
      cases hf : f a with
      | none =>
          rw [hf] at hrun'
          rw [List.filterMap_cons_none hf]
          exact hrun.append hrun'
      | some b =>
          rw [hf] at hrun'
          rw [List.filterMap_cons_some hf]
          exact hrun.append hrun'

/-- The same, where there is a step for each. -/
theorem simulates {τ β : Type*} {step' : τ → β → τ → Prop} {R : σ → τ → Prop} {label : α → β}
    (hstep : ∀ {s a s' x}, R s x → step s a s' → ∃ x', step' x (label a) x' ∧ R s' x')
    {x : τ} (h : Run step s l t) (hR : R s x) :
    ∃ y, Run step' x (l.map label) y ∧ R t y := by
  rw [← List.filterMap_eq_map']
  refine h.simulates_filterMap (fun hR hs => ?_) hR
  obtain ⟨x', hs', hR'⟩ := hstep hR hs
  exact ⟨x', single hs', hR'⟩

end Run

/-! ## Recorded runs

A run whose labels carry the states its steps were taken in, where a
statement speaks of what a run passed through. -/

/-- A step, its label carrying the state it is taken in. -/
def Recorded (step : σ → α → σ → Prop) : σ → σ × α → σ → Prop :=
  fun s x t => x.1 = s ∧ step s x.2 t

namespace Run

variable {step : σ → α → σ → Prop} {s t x : σ} {l : List α} {a : α} {h : List (σ × α)}

/-- **Every run has a recording.** -/
theorem exists_recorded (hrun : Run step s l t) :
    ∃ h, h.map Prod.snd = l ∧ Run (Recorded step) s h t := by
  induction hrun with
  | nil => exact ⟨[], rfl, nil _⟩
  | @snoc t u l a _ hs ih =>
      obtain ⟨h, rfl, hrec⟩ := ih
      exact ⟨h ++ [(t, a)], by simp, hrec.snoc ⟨rfl, hs⟩⟩

/-- A recorded run is a run. -/
theorem of_recorded (hrec : Run (Recorded step) s h t) : Run step s (h.map Prod.snd) t := by
  induction hrec with
  | nil => exact nil _
  | snoc _ hs ih =>
      obtain ⟨rfl, hs⟩ := hs
      rw [List.map_append]
      exact ih.snoc hs

/-- A recorded run goes through each state it records. -/
theorem through_recorded (hrec : Run (Recorded step) s h t) (hx : (x, a) ∈ h) :
    ∃ h₁ h₂, h = h₁ ++ h₂ ∧ Run (Recorded step) s h₁ x ∧ Run (Recorded step) x h₂ t := by
  induction hrec with
  | nil => cases hx
  | @snoc t u h b hrun hs ih =>
      rcases List.mem_append.1 hx with hmem | hmem
      · obtain ⟨h₁, h₂, rfl, hto, hfrom⟩ := ih hmem
        exact ⟨h₁, h₂ ++ [b], List.append_assoc .., hto, hfrom.snoc hs⟩
      · obtain rfl := List.mem_singleton.1 hmem
        obtain rfl : x = t := hs.1
        exact ⟨h, [(x, a)], rfl, hrun, single hs⟩

end Run

/-! ## Runs of a function

Where each label has one outcome, the states of a run are those of a
scan. -/

variable {exec : σ → α → σ} {guard : σ → α → Prop} {I J : σ → Prop} {s : σ}

/-- **A condition on every step of a run**, each in the state it is taken
in. -/
def Along (exec : σ → α → σ) (guard : σ → α → Prop) : σ → List α → Prop
  | _, [] => True
  | s, a :: l => guard s a ∧ Along exec guard (exec s a) l

/-- **A property holds in every state of a run exactly when every step
meets the condition that keeps it**, among the states of an invariant that
every step keeps. -/
theorem forall_scanl_iff_of_invariant (hJ : ∀ {s a}, J s → J (exec s a))
    (hstep : ∀ {s a}, J s → I s → (I (exec s a) ↔ guard s a)) (hj : J s) (h0 : I s)
    {l : List α} : (∀ t ∈ l.scanl exec s, I t) ↔ Along exec guard s l := by
  induction l generalizing s with
  | nil => simpa [Along] using h0
  | cons a l ih =>
    rw [List.scanl_cons, List.forall_mem_cons, and_iff_right h0, Along, ← hstep hj h0]
    constructor
    · intro h
      have ha : I (exec s a) := h _ (by cases l <;> simp)
      exact ⟨ha, (ih (hJ hj) ha).1 h⟩
    · rintro ⟨ha, h⟩
      exact (ih (hJ hj) ha).2 h

/-- The same, of any states. -/
theorem forall_scanl_iff (hstep : ∀ {s a}, I s → (I (exec s a) ↔ guard s a)) (h0 : I s)
    {l : List α} : (∀ t ∈ l.scanl exec s, I t) ↔ Along exec guard s l :=
  forall_scanl_iff_of_invariant (J := fun _ => True) id (fun _ h => hstep h) trivial h0

end WazoDird
