import WazoDird.Common.Csv

/-!
# The header of a document

A reader that is asked for the field names of a document reads one record
of it, and no line more. Lines always have a first record, the empty one
when they begin with an empty line, and what cannot be read of it cannot
be read of the document.
-/

namespace WazoDird

namespace Excel

open Reader

variable {limit : ℕ}

/-- **The first record of lines**, none when they have no record. -/
def firstRecord (limit : ℕ) : Reader → List (List Char) → Except Error (Option (List (List Char)))
  | s, [] =>
    .ok (if s.field ≠ [] ∨ s.mode = .inQuotedField then some (s.fields ++ [s.field]) else none)
  | s, line :: lines => do
    let s ← line.foldlM (fun s c => step limit s (some c)) s
    let s ← s.step limit none
    if s.mode = .startRecord then return some s.fields else firstRecord limit s lines

variable {s s' : Reader} {n : ℕ} {lines : List (List Char)} {all : List Record}

/-- **The first of the records read** is the record read first. -/
theorem firstRecord_of_records (h : records limit s n lines = .ok all) :
    firstRecord limit s lines = .ok (all.head?.map Prod.snd) := by
  induction lines generalizing s n with
  | nil =>
      cases h
      rw [firstRecord]
      split <;> rfl
  | cons line lines ih =>
      obtain ⟨s₁, hline, h⟩ := bind_eq_ok.1 h
      obtain ⟨s₂, hend, h⟩ := bind_eq_ok.1 h
      rw [firstRecord, hline]
      refine bind_eq_ok.2 ⟨s₁, rfl, bind_eq_ok.2 ⟨s₂, hend, ?_⟩⟩
      split at h
      · next hmode =>
        obtain ⟨rest, -, h⟩ := bind_eq_ok.1 h
        cases h
        rw [if_pos hmode]
        rfl
      · next hmode =>
        rw [if_neg hmode]
        exact ih h

/-- The end of a line ends a record, or is one of a quoted field. -/
theorem mode_of_endLine (h : s.step limit none = .ok s') :
    s'.mode = .startRecord ∨ s'.mode = .inQuotedField := by
  unfold step at h
  cases hmode : s.mode with
  | inQuotedField =>
      simp only [hmode] at h
      cases h
      exact Or.inr hmode
  | startRecord =>
      simp only [hmode, if_true] at h
      cases h
      exact Or.inl hmode
  | startField | inField | quoteInQuotedField | eatCrnl =>
      simp only [hmode, startField, plain, reduceCtorEq, if_false] at h
      cases h
      exact Or.inl rfl

/-- **Lines have a first record.** -/
theorem firstRecord_isSome {line : List Char} {first : Option (List (List Char))}
    (h : firstRecord limit s (line :: lines) = .ok first) : first.isSome := by
  induction lines generalizing s line with
  | nil =>
      obtain ⟨s₁, -, h⟩ := bind_eq_ok.1 h
      obtain ⟨s₂, hend, h⟩ := bind_eq_ok.1 h
      rcases mode_of_endLine hend with hmode | hmode
      · rw [if_pos hmode] at h
        cases h
        rfl
      · rw [if_neg (by simp [hmode]), firstRecord, if_pos (Or.inr hmode)] at h
        cases h
        rfl
  | cons line' lines ih =>
      obtain ⟨s₁, -, h⟩ := bind_eq_ok.1 h
      obtain ⟨s₂, -, h⟩ := bind_eq_ok.1 h
      split at h
      · cases h
        rfl
      · exact ih h

end Excel

end WazoDird
