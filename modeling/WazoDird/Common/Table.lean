import Mathlib.Data.List.Infix
import Mathlib.Data.List.Nodup
import Mathlib.Data.List.Perm.Subperm

/-!
# Tables with a key

A table is the list of its rows, and a key a column no two rows share.
What keeps it a key: a row of a new key appended, rows dropped, the row
of a key replaced by one of the same key.
-/

namespace WazoDird

variable {α κ : Type*} {key : α → κ} {l : List α} {a b x : α}

/-- One key names one row. -/
theorem eq_of_key (h : (l.map key).Nodup) (ha : a ∈ l) (hb : b ∈ l) (hk : key a = key b) : a = b :=
  List.inj_on_of_nodup_map h ha hb hk

/-- A row of a new key keeps the keys distinct. -/
theorem keys_append (h : (l.map key).Nodup) (hnew : ∀ b ∈ l, key b ≠ key a) :
    ((l ++ [a]).map key).Nodup := by
  rw [List.map_append, List.nodup_append]
  refine ⟨h, List.nodup_singleton _, ?_⟩
  rintro k hk k' hk' rfl
  obtain ⟨b, hb, rfl⟩ := List.mem_map.1 hk
  exact hnew b hb (by simpa using hk')

/-- Dropping rows keeps the keys distinct. -/
theorem keys_filter (h : (l.map key).Nodup) (p : α → Bool) : ((l.filter p).map key).Nodup :=
  h.sublist (List.filter_sublist.map _)

/-- Of two lists of distinct keys, one within the other, the lengths agree
when all of the other's are there. -/
theorem length_eq_iff_subset {ks ks' : List κ} (h : ks.Nodup) (h' : ks'.Nodup) (hsub : ks ⊆ ks') :
    ks.length = ks'.length ↔ ks' ⊆ ks := by
  constructor
  · intro hlen
    exact ((List.subperm_of_subset h hsub).perm_of_length_le (Nat.le_of_eq hlen.symm)).symm.subset
  · intro hsub'
    exact ((List.perm_ext_iff_of_nodup h h').2 fun k => ⟨@hsub k, @hsub' k⟩).length_eq

/-! ## The last of a key -/

/-- A row stands before a rest of its list. -/
theorem exists_suffix_of_mem (ha : a ∈ l) : ∃ later, (a :: later) <:+ l := by
  obtain ⟨before, later, rfl⟩ := List.append_of_mem ha
  exact ⟨later, before, rfl⟩

/-- A relation holds pairwise when it holds between each row and those
after it. -/
theorem pairwise_iff_suffix {R : α → α → Prop} :
    l.Pairwise R ↔ ∀ a later, (a :: later) <:+ l → ∀ b ∈ later, R a b := by
  induction l with
  | nil => simp
  | cons c l ih =>
      rw [List.pairwise_cons, ih]
      constructor
      · rintro ⟨hhead, htail⟩ a later hsuffix
        rcases List.suffix_cons_iff.1 hsuffix with heq | hsuffix
        · cases heq
          exact hhead
        · exact htail a later hsuffix
      · intro h
        exact ⟨h c l (List.suffix_refl _), fun a later hsuffix =>
          h a later (hsuffix.trans (List.suffix_cons c l))⟩

/-- **Of the rows of a key one is the last.** -/
theorem exists_last {k : κ} (h : ∃ a ∈ l, key a = k) :
    ∃ b later, (b :: later) <:+ l ∧ key b = k ∧ ∀ c ∈ later, key c ≠ k := by
  induction l with
  | nil =>
      obtain ⟨a, ha, -⟩ := h
      cases ha
  | cons c l ih =>
      by_cases hlater : ∃ a ∈ l, key a = k
      · obtain ⟨b, later, hsuffix, hb⟩ := ih hlater
        exact ⟨b, later, hsuffix.trans (List.suffix_cons c l), hb⟩
      · obtain ⟨a, ha, hkey⟩ := h
        rcases List.mem_cons.1 ha with rfl | ha
        · exact ⟨a, l, List.suffix_refl _, hkey, fun b hb hk => hlater ⟨b, hb, hk⟩⟩
        · exact absurd ⟨a, ha, hkey⟩ hlater

variable [DecidableEq κ]

/-- It is the last of the rows of its key. -/
theorem getLast?_filter_key {later : List α} (hsuffix : (a :: later) <:+ l)
    (hlast : ∀ b ∈ later, key b ≠ key a) : (l.filter (key · = key a)).getLast? = some a := by
  obtain ⟨before, rfl⟩ := hsuffix
  have hnil : later.filter (key · = key a) = [] :=
    List.filter_eq_nil_iff.2 fun b hb => by simpa using hlast b hb
  rw [List.filter_append, List.filter_cons_of_pos (by simp), hnil, List.getLast?_append]
  rfl

/-! ## The row of a key -/

/-- The rows of a key some row has are that row. -/
theorem filter_key (h : (l.map key).Nodup) (ha : a ∈ l) : (l.filter (key · = key a)) = [a] := by
  induction l with
  | nil => cases ha
  | cons b l ih =>
      rw [List.map_cons, List.nodup_cons] at h
      rcases List.mem_cons.1 ha with rfl | ha
      · have hnil : l.filter (key · = key a) = [] := by
          rw [List.filter_eq_nil_iff]
          intro x hx hxa
          exact h.1 (List.mem_map.2 ⟨x, hx, of_decide_eq_true hxa⟩)
        rw [List.filter_cons_of_pos (by simp), hnil]
      · have hne : key b ≠ key a := fun hb => h.1 (hb ▸ List.mem_map_of_mem ha)
        rw [List.filter_cons_of_neg (by simpa using hne), ih h.2 ha]

/-- The rows of a condition that a row meets, and only rows of its key. -/
theorem filter_of_key {p : α → Bool} (h : (l.map key).Nodup) (ha : a ∈ l) (hpa : p a = true)
    (hp : ∀ b, p b = true → key b = key a) : l.filter p = [a] := by
  rw [← filter_key h ha]
  refine List.filter_congr fun b hb => ?_
  rw [Bool.eq_iff_iff, decide_eq_true_iff]
  refine ⟨hp b, fun hk => ?_⟩
  rwa [eq_of_key h hb ha hk]

/-- The first row of a key some row has is that row. -/
theorem find?_key (h : (l.map key).Nodup) (ha : a ∈ l) : l.find? (key · = key a) = some a := by
  rw [← List.head?_filter, filter_key h ha]
  rfl

/-- The row of a key, replaced. -/
theorem key_replace (hb : key b = key a) (x : α) :
    key (if key x = key a then b else x) = key x := by
  split
  · next hx => rw [hb, hx]
  · rfl

/-- Replacing the row of a key by one of the same key changes no key. -/
theorem keys_replace (hb : key b = key a) :
    (l.map fun x => if key x = key a then b else x).map key = l.map key := by
  rw [List.map_map]
  exact List.map_congr_left fun x _ => key_replace hb x

end WazoDird
