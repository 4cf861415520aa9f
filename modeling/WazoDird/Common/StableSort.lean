import Mathlib.Data.List.Sort

/-!
# Sorting by a key

`sorted(items, key=key, reverse=reverse)`: the items by their keys, in
either direction, those of one key in the order they came in. Items
without a key of their own are given one beyond all others, and so come
together at one end (`Sorts`, `sorts_sortByKey`).
-/

namespace WazoDird

variable {α κ : Type} [LinearOrder κ]

/-- How two items compare by their keys, in the direction asked for. -/
def KeyLE (key : α → κ) (reverse : Bool) (a b : α) : Prop :=
  if reverse then key b ≤ key a else key a ≤ key b

instance (key : α → κ) (reverse : Bool) : DecidableRel (KeyLE key reverse) := fun a b =>
  inferInstanceAs (Decidable (if reverse then key b ≤ key a else key a ≤ key b))

/-- **Sort by a key.** -/
def sortByKey (key : α → κ) (reverse : Bool) (l : List α) : List α :=
  l.insertionSort (KeyLE key reverse)

variable {key : α → κ} {reverse : Bool} {l : List α}

/-- Items of one key compare both ways. -/
theorem keyLE_of_eq {a b : α} (h : key a = key b) : KeyLE key reverse a b := by
  cases reverse with
  | true => exact h.ge
  | false => exact h.le

instance : Std.Total (KeyLE key reverse) := by
  cases reverse with
  | true => exact ⟨fun a b => le_total (key b) (key a)⟩
  | false => exact ⟨fun a b => le_total (key a) (key b)⟩

instance : IsTrans α (KeyLE key reverse) := by
  cases reverse with
  | true => exact ⟨fun _ _ _ hab hbc => le_trans (α := κ) hbc hab⟩
  | false => exact ⟨fun _ _ _ hab hbc => le_trans (α := κ) hab hbc⟩

/-- Sorting loses no item and makes none. -/
theorem sortByKey_perm : (sortByKey key reverse l).Perm l :=
  List.perm_insertionSort _ _

/-- The keys come in the order asked for. -/
theorem sortByKey_pairwise : (sortByKey key reverse l).Pairwise (KeyLE key reverse) :=
  List.pairwise_insertionSort _ _

/-- **Items of one key stay in their order**, in both directions. -/
theorem filter_sortByKey (k : κ) :
    (sortByKey key reverse l).filter (key · = k) = l.filter (key · = k) := by
  have horder : (l.filter (key · = k)).Pairwise (KeyLE key reverse) := by
    refine List.pairwise_of_forall_mem_list fun a ha b hb => keyLE_of_eq ?_
    have ha : key a = k := by simpa using (List.mem_filter.1 ha).2
    have hb : key b = k := by simpa using (List.mem_filter.1 hb).2
    rw [ha, hb]
  -- in order already, they are found again as a part of the sorted list
  have hsub : (l.filter (key · = k)).Sublist ((sortByKey key reverse l).filter (key · = k)) := by
    have h := (List.sublist_insertionSort horder List.filter_sublist).filter (key · = k)
    rwa [List.filter_filter, List.filter_congr fun a _ => Bool.and_self (decide (key a = k))] at h
  exact (hsub.eq_of_length (sortByKey_perm.filter _).length_eq.symm).symm

/-! ## Items without a key -/

/-- **A stable sort by what some items have**: the same items, those that
have it in the order asked for and those that have the same in the order
they came in; those without come last, and first in the other direction. -/
structure Sorts (value : α → Option κ) (reverse : Bool) (input output : List α) : Prop where
  perm : output.Perm input
  ordered : output.Pairwise fun a b => ∀ s t, value a = some s → value b = some t →
    if reverse then t ≤ s else s ≤ t
  ties : ∀ k, output.filter (value · = k) = input.filter (value · = k)
  missing : output.Pairwise fun a b =>
    if reverse then value b = none → value a = none else value a = none → value b = none

variable {value : α → Option κ} {top : κ}

/-- Beyond all others, the key of the items without one is theirs alone. -/
theorem getD_eq_iff (htop : ∀ a k, value a = some k → k < top) {a : α} {k : Option κ}
    (hk : ∀ s, k = some s → s < top) : (value a).getD top = k.getD top ↔ value a = k := by
  constructor
  · intro h
    cases ha : value a with
    | none =>
      cases k with
      | none => rfl
      | some t =>
        rw [ha] at h
        exact absurd h (hk t rfl).ne'
    | some s =>
      rw [ha] at h
      cases k with
      | none => exact absurd h (htop a s ha).ne
      | some t => exact congrArg some h
  · intro h
    rw [h]

/-- **Sorting by a key that is beyond all others where there is none.** -/
theorem sorts_sortByKey (htop : ∀ a k, value a = some k → k < top) :
    Sorts value reverse l (sortByKey (fun a => (value a).getD top) reverse l) where
  perm := sortByKey_perm
  ordered := by
    refine sortByKey_pairwise.imp fun {a b} hab s t ha hb => ?_
    simpa only [KeyLE, ha, hb, Option.getD_some] using hab
  ties k := by
    by_cases hk : ∀ s, k = some s → s < top
    · have hfilter : ∀ m : List α,
          m.filter (value · = k) = m.filter fun a => (value a).getD top = k.getD top := fun m =>
        List.filter_congr fun a _ => decide_eq_decide.2 (getD_eq_iff htop hk).symm
      rw [hfilter, hfilter, filter_sortByKey]
    · -- no item has a key that is not before the bound
      have hnone : ∀ m : List α, m.filter (value · = k) = [] := fun m =>
        List.filter_eq_nil_iff.2 fun a _ ha =>
          hk fun s hs => htop a s ((of_decide_eq_true ha).trans hs)
      rw [hnone, hnone]
  missing := by
    refine sortByKey_pairwise.imp fun {a b} hab => ?_
    have hlast : ∀ {a b : α}, (value a).getD top ≤ (value b).getD top → value a = none →
        value b = none := by
      intro a b hab ha
      cases hb : value b with
      | none => rfl
      | some t =>
        rw [ha, hb] at hab
        exact absurd (htop b t hb) (not_lt_of_ge hab)
    cases reverse with
    | true => exact hlast hab
    | false => exact hlast hab

end WazoDird
