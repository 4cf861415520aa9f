import WazoDird.Common.Except
import WazoDird.Common.Value

/-!
# Sorting by what may not compare

`sorted(items, key=key)`: two values compare when both are text, both are
numbers or both are lists, and raise otherwise. Items that compare equal
stay in their order. A sort loses no item and makes none (`sortBy_perm`).
-/

namespace WazoDird

namespace Value

/-- The number a value counts as. -/
def number? : Value → Option Rat
  | .bool b => some (if b then 1 else 0)
  | .int n => some n
  | .float q => some q
  | _ => Option.none

mutual

/-- How two values compare. -/
def cmp : Value → Value → Except PyError Ordering
  | .str s, .str t => .ok (compare s t)
  | .list l, .list m => cmpList l m
  | v, w =>
    match v.number?, w.number? with
    | some p, some q => .ok (compareOfLessAndEq p q)
    | _, _ => .error .typeError

/-- How two lists compare, by the first place where they differ. -/
def cmpList : List Value → List Value → Except PyError Ordering
  | [], [] => .ok .eq
  | [], _ :: _ => .ok .lt
  | _ :: _, [] => .ok .gt
  | v :: l, w :: m =>
    if v = w then cmpList l m
    else do
      match ← cmp v w with
      | .eq => cmpList l m
      | order => return order

end

/-- `v < w`. -/
def lt (v w : Value) : Except PyError Bool := do
  return (← v.cmp w) = .lt

end Value

/-! ## Sorting -/

variable {ε α : Type}

/-- Put an item before the first that does not come before it. -/
def insertBy (lt : α → α → Except ε Bool) (x : α) : List α → Except ε (List α)
  | [] => .ok [x]
  | y :: ys => do
    if ← lt y x then return y :: (← insertBy lt x ys)
    return x :: y :: ys

/-- Sort a list, each item after those that come before it. -/
def sortBy (lt : α → α → Except ε Bool) : List α → Except ε (List α)
  | [] => .ok []
  | x :: xs => do insertBy lt x (← sortBy lt xs)

/-- A list can be sorted: no comparison that it takes raises. -/
def Sortable (lt : α → α → Except ε Bool) (l : List α) : Prop := ∃ sorted, sortBy lt l = .ok sorted

variable {lt : α → α → Except ε Bool}

theorem insertBy_perm {x : α} {l sorted : List α} (h : insertBy lt x l = .ok sorted) :
    sorted.Perm (x :: l) := by
  induction l generalizing sorted with
  | nil =>
      cases h
      exact List.Perm.refl _
  | cons y l ih =>
      obtain ⟨before, -, h⟩ := bind_eq_ok.1 h
      cases before with
      | false =>
          cases h
          exact List.Perm.refl _
      | true =>
          obtain ⟨rest, hrest, h⟩ := bind_eq_ok.1 h
          cases h
          exact ((ih hrest).cons y).trans (List.Perm.swap x y l)

/-- **Sorting keeps the items.** -/
theorem sortBy_perm {l sorted : List α} (h : sortBy lt l = .ok sorted) : sorted.Perm l := by
  induction l generalizing sorted with
  | nil =>
      cases h
      exact List.Perm.refl _
  | cons x l ih =>
      obtain ⟨rest, hrest, h⟩ := bind_eq_ok.1 h
      exact (insertBy_perm h).trans ((ih hrest).cons x)

end WazoDird
