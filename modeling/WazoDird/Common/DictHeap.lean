import WazoDird.Common.Dict

/-!
# Dictionaries under references

What a program does to its dictionaries, where it matters which of them it
does it to: each is under a reference, the ones made later under later
references, and a change is to the dictionary of one reference.
-/

namespace WazoDird

/-- **Dictionaries under references**: the first made is under zero. -/
structure DictHeap (κ α : Type) where
  cells : List (Dict κ α) := []

namespace DictHeap

variable {κ α : Type} {heap heap' heap'' : DictHeap κ α}

/-- The dictionary of a reference. -/
def get? (heap : DictHeap κ α) (r : ℕ) : Option (Dict κ α) := heap.cells[r]?

/-- Make a dictionary. -/
def alloc (heap : DictHeap κ α) (d : Dict κ α) : ℕ × DictHeap κ α :=
  (heap.cells.length, ⟨heap.cells ++ [d]⟩)

/-- Change the dictionary of a reference. -/
def update (heap : DictHeap κ α) (r : ℕ) (f : Dict κ α → Dict κ α) : DictHeap κ α :=
  ⟨heap.cells.modify r f⟩

/-- **Every dictionary there was is as it was.** -/
def Keeps (heap heap' : DictHeap κ α) : Prop :=
  ∀ r d, heap.get? r = some d → heap'.get? r = some d

theorem Keeps.trans (h : heap.Keeps heap') (h' : heap'.Keeps heap'') : heap.Keeps heap'' :=
  fun r d hd => h' r d (h r d hd)

/-- A dictionary made is under its reference. -/
@[simp] theorem get?_alloc_self (heap : DictHeap κ α) (d : Dict κ α) :
    (heap.alloc d).2.get? (heap.alloc d).1 = some d := by
  simp [alloc, get?]

/-- A change is seen under its reference. -/
@[simp] theorem get?_update_self (heap : DictHeap κ α) (r : ℕ) (f : Dict κ α → Dict κ α) :
    (heap.update r f).get? r = (heap.get? r).map f := by
  simp [update, get?]

/-- **A dictionary made and changed** leaves those there were. -/
theorem keeps_update_alloc (heap : DictHeap κ α) (d : Dict κ α) (f : Dict κ α → Dict κ α) :
    heap.Keeps ((heap.alloc d).2.update (heap.alloc d).1 f) := by
  intro r d' hr
  have hlt : r < heap.cells.length := (List.getElem?_eq_some_iff.1 hr).1
  have hne : heap.cells.length ≠ r := Nat.ne_of_gt hlt
  show ((heap.cells ++ [d]).modify heap.cells.length f)[r]? = some d'
  rw [List.getElem?_modify_ne f _ hne, List.getElem?_append_left hlt]
  exact hr

end DictHeap

end WazoDird
