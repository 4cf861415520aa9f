import Mathlib.Data.List.Forall2
import Mathlib.Data.List.Induction
import Mathlib.Data.List.Nodup

/-!
# Insertion-ordered dictionaries

A dictionary keeps its keys in the order they were first written:
writing a key it holds replaces the value in place, writing a new one
appends it, and iterating reads the keys oldest first. That no key is
held twice is a field of the structure, so no lookup has to ask which
of two entries it meant.
-/

namespace WazoDird

/-- A key that may be missing is compared as it is. -/
instance lawfulBEq_option_string : LawfulBEq (Option String) := inferInstance

/-- **A dictionary, in insertion order.** -/
structure Dict (κ α : Type*) where
  /-- The entries, oldest key first. -/
  entries : List (κ × α)
  nodup : (entries.map Prod.fst).Nodup
  deriving DecidableEq

namespace Dict

variable {κ α β : Type*} [DecidableEq κ]

instance [Repr κ] [Repr α] : Repr (Dict κ α) := ⟨fun d n => reprPrec d.entries n⟩

/-- The empty dictionary. -/
def empty : Dict κ α := ⟨[], List.nodup_nil⟩

instance : EmptyCollection (Dict κ α) := ⟨empty⟩

/-- The keys, oldest first. -/
def keys (d : Dict κ α) : List κ := d.entries.map Prod.fst

/-- The values, in the order of their keys. -/
def values (d : Dict κ α) : List α := d.entries.map Prod.snd

/-- Whether the dictionary has no entry: a dictionary's truth value,
negated. -/
def isEmpty (d : Dict κ α) : Bool := d.entries.isEmpty

/-- The value a list of entries holds under a key. -/
def lookup (k : κ) : List (κ × α) → Option α
  | [] => none
  | (k', v) :: l => if k' = k then some v else lookup k l

/-- Write one entry into a list of entries. -/
def write (k : κ) (v : α) : List (κ × α) → List (κ × α)
  | [] => [(k, v)]
  | (k', v') :: l => if k' = k then (k, v) :: l else (k', v') :: write k v l

theorem mem_map_fst_write {k k' : κ} {v : α} {l : List (κ × α)} :
    k' ∈ (write k v l).map Prod.fst ↔ k' = k ∨ k' ∈ l.map Prod.fst := by
  induction l with
  | nil => simp [write]
  | cons e l ih =>
      obtain ⟨k₀, v₀⟩ := e
      by_cases h : k₀ = k
      · subst h; simp [write]
      · rw [write, if_neg h, List.map_cons, List.mem_cons, ih, List.map_cons, List.mem_cons]
        tauto

theorem nodup_write {k : κ} {v : α} {l : List (κ × α)} (h : (l.map Prod.fst).Nodup) :
    ((write k v l).map Prod.fst).Nodup := by
  induction l with
  | nil => simp [write]
  | cons e l ih =>
      obtain ⟨k₀, v₀⟩ := e
      rw [List.map_cons, List.nodup_cons] at h
      by_cases hk : k₀ = k
      · subst hk; simpa [write] using h
      · rw [write, if_neg hk, List.map_cons, List.nodup_cons, mem_map_fst_write]
        exact ⟨fun hc => hc.elim hk h.1, ih h.2⟩

/-- The value under a key: `d.get(k)`. -/
def get? (d : Dict κ α) (k : κ) : Option α := lookup k d.entries

/-- Write a key: `d[k] = v`. -/
def set (d : Dict κ α) (k : κ) (v : α) : Dict κ α := ⟨write k v d.entries, nodup_write d.nodup⟩

/-- Drop a key: `d.pop(k, None)`. -/
def erase (d : Dict κ α) (k : κ) : Dict κ α :=
  ⟨d.entries.filter (fun e => e.1 ≠ k), d.nodup.sublist (List.filter_sublist.map _)⟩

/-- Write a list of entries, one after the other. -/
def setAll (d : Dict κ α) (l : List (κ × α)) : Dict κ α :=
  l.foldl (fun d e => d.set e.1 e.2) d

/-- Write every entry of another dictionary: `d.update(e)`. -/
def update (d e : Dict κ α) : Dict κ α := d.setAll e.entries

/-- The dictionary a list of entries makes, a later entry of a key
winning: `dict(l)`. -/
def ofList (l : List (κ × α)) : Dict κ α := (empty : Dict κ α).setAll l

/-- Change every value, keeping the keys. -/
def map (f : α → β) (d : Dict κ α) : Dict κ β :=
  ⟨d.entries.map (fun e => (e.1, f e.2)), by simpa [Function.comp_def] using d.nodup⟩

/-! ## Reading after writing -/

@[simp] theorem get?_empty (k : κ) : (∅ : Dict κ α).get? k = none := rfl

omit [DecidableEq κ] in
@[simp] theorem keys_empty : (∅ : Dict κ α).keys = [] := rfl

theorem lookup_write (k k' : κ) (v : α) (l : List (κ × α)) :
    lookup k' (write k v l) = if k = k' then some v else lookup k' l := by
  induction l with
  | nil => simp [write, lookup]
  | cons e l ih =>
      obtain ⟨k₀, v₀⟩ := e
      by_cases h : k₀ = k
      · subst h
        simp only [write, if_true, lookup]
        split <;> rfl
      · rw [write, if_neg h, lookup, ih, lookup]
        by_cases h₀ : k₀ = k'
        · rw [if_pos h₀, if_neg (fun hc => h (h₀.trans hc.symm)), if_pos h₀]
        · simp only [if_neg h₀]

/-- **Reading a dictionary after a write.** -/
theorem get?_set (d : Dict κ α) (k k' : κ) (v : α) :
    (d.set k v).get? k' = if k = k' then some v else d.get? k' :=
  lookup_write k k' v d.entries

@[simp] theorem get?_set_self (d : Dict κ α) (k : κ) (v : α) : (d.set k v).get? k = some v := by
  rw [get?_set, if_pos rfl]

theorem get?_set_of_ne (d : Dict κ α) {k k' : κ} (v : α) (h : k ≠ k') :
    (d.set k v).get? k' = d.get? k' := by
  rw [get?_set, if_neg h]

theorem lookup_filter_ne (k k' : κ) (l : List (κ × α)) :
    lookup k' (l.filter (fun e => e.1 ≠ k)) = if k = k' then none else lookup k' l := by
  induction l with
  | nil => simp [lookup]
  | cons e l ih =>
      obtain ⟨k₀, v₀⟩ := e
      by_cases h : k₀ = k
      · subst h
        rw [List.filter_cons_of_neg (by simp), ih, lookup]
        split <;> rfl
      · rw [List.filter_cons_of_pos (by simpa using h), lookup, ih, lookup]
        by_cases h₀ : k₀ = k'
        · rw [if_pos h₀, if_neg (fun hc => h (h₀.trans hc.symm)), if_pos h₀]
        · simp only [if_neg h₀]

/-- **Reading a dictionary after a key is dropped.** -/
theorem get?_erase (d : Dict κ α) (k k' : κ) :
    (d.erase k).get? k' = if k = k' then none else d.get? k' :=
  lookup_filter_ne k k' d.entries

theorem lookup_eq_some_iff {k : κ} {v : α} {l : List (κ × α)} (hl : (l.map Prod.fst).Nodup) :
    lookup k l = some v ↔ (k, v) ∈ l := by
  induction l with
  | nil => simp [lookup]
  | cons e l ih =>
      obtain ⟨k₀, v₀⟩ := e
      rw [List.map_cons, List.nodup_cons] at hl
      by_cases h : k₀ = k
      · subst h
        simp only [lookup, if_true, Option.some.injEq, List.mem_cons, Prod.mk.injEq, true_and]
        constructor
        · rintro rfl; exact Or.inl rfl
        · rintro (rfl | hm)
          · rfl
          · exact absurd (List.mem_map_of_mem hm) hl.1
      · rw [lookup, if_neg h, ih hl.2, List.mem_cons, Prod.mk.injEq]
        constructor
        · exact Or.inr
        · rintro (⟨rfl, -⟩ | hm)
          · exact absurd rfl h
          · exact hm

/-- What a dictionary holds is what its entries say. -/
theorem get?_eq_some_iff {d : Dict κ α} {k : κ} {v : α} :
    d.get? k = some v ↔ (k, v) ∈ d.entries :=
  lookup_eq_some_iff d.nodup

theorem mem_keys_iff {d : Dict κ α} {k : κ} : k ∈ d.keys ↔ (d.get? k).isSome := by
  rw [keys, List.mem_map, Option.isSome_iff_exists]
  constructor
  · rintro ⟨⟨k', v⟩, hm, rfl⟩
    exact ⟨v, get?_eq_some_iff.2 hm⟩
  · rintro ⟨v, hv⟩
    exact ⟨(k, v), get?_eq_some_iff.1 hv, rfl⟩

/-! ## The order of the keys -/

theorem map_fst_write_of_mem {k : κ} {v : α} {l : List (κ × α)} (h : k ∈ l.map Prod.fst) :
    (write k v l).map Prod.fst = l.map Prod.fst := by
  induction l with
  | nil => simp at h
  | cons e l ih =>
      obtain ⟨k₀, v₀⟩ := e
      by_cases hk : k₀ = k
      · subst hk; simp [write]
      · rw [write, if_neg hk, List.map_cons, List.map_cons, ih]
        exact ((List.mem_cons.1 h).resolve_left fun hc => hk hc.symm)

theorem map_fst_write_of_not_mem {k : κ} {v : α} {l : List (κ × α)} (h : k ∉ l.map Prod.fst) :
    (write k v l).map Prod.fst = l.map Prod.fst ++ [k] := by
  induction l with
  | nil => simp [write]
  | cons e l ih =>
      obtain ⟨k₀, v₀⟩ := e
      rw [List.map_cons, List.mem_cons, not_or] at h
      rw [write, if_neg (Ne.symm h.1), List.map_cons, List.map_cons, ih h.2, List.cons_append]

/-- Writing a key the dictionary holds leaves the keys as they are. -/
theorem keys_set_of_mem {d : Dict κ α} {k : κ} {v : α} (h : k ∈ d.keys) :
    (d.set k v).keys = d.keys :=
  map_fst_write_of_mem h

/-- Writing a new key appends it. -/
theorem keys_set_of_not_mem {d : Dict κ α} {k : κ} {v : α} (h : k ∉ d.keys) :
    (d.set k v).keys = d.keys ++ [k] :=
  map_fst_write_of_not_mem h

/-- The keys a write leaves are those there were and its own. -/
theorem mem_keys_set {d : Dict κ α} {k k' : κ} {v : α} :
    k' ∈ (d.set k v).keys ↔ k' = k ∨ k' ∈ d.keys :=
  mem_map_fst_write

/-- The values are what the keys, read one by one, give. -/
theorem map_get?_keys (d : Dict κ α) : d.keys.map d.get? = d.values.map some := by
  rw [keys, values, List.map_map, List.map_map]
  refine List.map_congr_left fun e he => ?_
  exact get?_eq_some_iff.2 he

omit [DecidableEq κ] in
theorem length_values (d : Dict κ α) : d.values.length = d.keys.length := by
  simp [values, keys]

/-- The value at a position is the one under the key there. -/
theorem get?_getElem_keys (d : Dict κ α) {i : ℕ} (hk : i < d.keys.length)
    (hv : i < d.values.length) : d.get? d.keys[i] = some d.values[i] := by
  have h := congrArg (fun l => l[i]?) d.map_get?_keys
  simpa [hk, hv] using h

/-- What relates each key to its value relates the keys to the values, one
by one. -/
theorem forall₂_keys_values {d : Dict κ α} {R : κ → α → Prop}
    (h : ∀ k v, d.get? k = some v → R k v) : List.Forall₂ R d.keys d.values := by
  rw [keys, values, List.forall₂_map_left_iff, List.forall₂_map_right_iff, List.forall₂_same]
  exact fun e he => h e.1 e.2 (get?_eq_some_iff.2 he)

/-- Writing what a key has already changes no entry. -/
theorem write_of_lookup {k : κ} {v : α} {l : List (κ × α)} (h : lookup k l = some v) :
    write k v l = l := by
  induction l with
  | nil => cases h
  | cons e l ih =>
      obtain ⟨k', v'⟩ := e
      rw [lookup] at h
      rw [write]
      split
      · next hk =>
        rw [if_pos hk] at h
        rw [← hk, ← Option.some.inj h]
      · next hk =>
        rw [if_neg hk] at h
        rw [ih h]

theorem set_of_get? {d : Dict κ α} {k : κ} {v : α} (h : d.get? k = some v) : d.set k v = d := by
  cases d with
  | mk l hl =>
      rw [set, Dict.mk.injEq]
      exact write_of_lookup h

/-- A dictionary all of whose keys are one has one value. -/
theorem values_eq_singleton {d : Dict κ α} {k : κ} {v : α} (h : ∀ k' ∈ d.keys, k' = k)
    (hv : d.get? k = some v) : d.values = [v] := by
  have hmem : k ∈ d.keys := mem_keys_iff.2 (by rw [hv]; rfl)
  have hkeys : d.keys = [k] := by
    have hnodup : d.keys.Nodup := d.nodup
    revert h hmem hnodup
    cases d.keys with
    | nil => exact fun _ hmem => by cases hmem
    | cons a l =>
      intro h _ hnodup
      obtain rfl := h a List.mem_cons_self
      cases l with
      | nil => rfl
      | cons b l =>
        obtain rfl := h b (List.mem_cons_of_mem _ List.mem_cons_self)
        simp at hnodup
  have hmap : [some v] = d.values.map some := by
    rw [← map_get?_keys, hkeys, List.map_singleton, hv]
  cases hd : d.values with
  | nil => simp [hd] at hmap
  | cons a l =>
    rw [hd] at hmap
    simp only [List.map_cons, List.cons.injEq, Option.some.injEq] at hmap
    obtain ⟨rfl, hl⟩ := hmap
    rw [List.map_eq_nil_iff.1 hl.symm]

/-! ## Writing a list of entries -/

@[simp] theorem setAll_nil (d : Dict κ α) : d.setAll [] = d := rfl

@[simp] theorem setAll_cons (d : Dict κ α) (e : κ × α) (l : List (κ × α)) :
    d.setAll (e :: l) = (d.set e.1 e.2).setAll l := rfl

theorem setAll_append (d : Dict κ α) (l l' : List (κ × α)) :
    d.setAll (l ++ l') = (d.setAll l).setAll l' :=
  List.foldl_append

/-- **The last entry of a key wins**: what a list of entries leaves under
a key is the last value it has for it, or what was there. -/
theorem get?_setAll (d : Dict κ α) (l : List (κ × α)) (k : κ) :
    (d.setAll l).get? k =
      ((l.filter (fun e => e.1 = k)).getLast?.map Prod.snd).or (d.get? k) := by
  induction l using List.reverseRecOn with
  | nil => simp
  | append_singleton l e ih =>
      rw [setAll_append, setAll_cons, setAll_nil, get?_set, List.filter_append]
      by_cases h : e.1 = k
      · simp [h]
      · simp [h, ih]

/-- What is written under a key goes with it. -/
theorem filter_write (k : κ) (v : α) (l : List (κ × α)) :
    (write k v l).filter (fun e => e.1 ≠ k) = l.filter (fun e => e.1 ≠ k) := by
  induction l with
  | nil => simp [write]
  | cons e l ih =>
      by_cases h : e.1 = k
      · rw [write, if_pos h, List.filter_cons_of_neg (by simp), List.filter_cons_of_neg (by simpa)]
      · rw [write, if_neg h, List.filter_cons_of_pos (by simpa), ih,
          List.filter_cons_of_pos (by simpa)]

theorem erase_set (d : Dict κ α) (k : κ) (v : α) : (d.set k v).erase k = d.erase k := by
  rw [erase, erase, Dict.mk.injEq]
  exact filter_write k v d.entries

/-- Entries of one key go with it. -/
theorem erase_setAll {d : Dict κ α} {l : List (κ × α)} {k : κ} (h : ∀ e ∈ l, e.1 = k) :
    (d.setAll l).erase k = d.erase k := by
  induction l generalizing d with
  | nil => rfl
  | cons e l ih =>
      rw [List.forall_mem_cons] at h
      rw [setAll_cons, ih h.2, h.1, erase_set]

/-- A key that is not there is not missed. -/
theorem erase_of_get?_eq_none {d : Dict κ α} {k : κ} (h : d.get? k = none) : d.erase k = d := by
  rw [erase, Dict.mk.injEq, List.filter_eq_self]
  intro e he
  rw [decide_eq_true_eq]
  rintro rfl
  rw [Dict.get?_eq_some_iff.2 he] at h
  cases h

theorem keys_setAll_of_subset {d : Dict κ α} {l : List (κ × α)}
    (h : ∀ e ∈ l, e.1 ∈ d.keys) : (d.setAll l).keys = d.keys := by
  induction l generalizing d with
  | nil => rfl
  | cons e l ih =>
      have hk : (d.set e.1 e.2).keys = d.keys := keys_set_of_mem (h e List.mem_cons_self)
      rw [setAll_cons, ih fun e' he' => by rw [hk]; exact h e' (List.mem_cons_of_mem _ he'), hk]

/-- **Reading after an update**: the written dictionary's value, and the
old one where it has none. -/
theorem get?_update (d e : Dict κ α) (k : κ) : (d.update e).get? k = (e.get? k).or (d.get? k) := by
  rw [update, get?_setAll]
  congr 1
  obtain ⟨l, hl⟩ := e
  simp only [get?]
  induction l with
  | nil => rfl
  | cons e l ih =>
      obtain ⟨k₀, v₀⟩ := e
      rw [List.map_cons, List.nodup_cons] at hl
      by_cases h : k₀ = k
      · subst h
        have hnil : l.filter (fun e => e.1 = k₀) = [] := by
          rw [List.filter_eq_nil_iff]
          intro e he hk
          exact hl.1 (List.mem_map.2 ⟨e, he, by simpa using hk⟩)
        simp [lookup, hnil]
      · simp only [lookup, if_neg h]
        rw [← ih hl.2, List.filter_cons_of_neg (by simpa using h)]

/-- An update whose keys the dictionary holds keeps its keys, and so its
order. -/
theorem keys_update_of_subset {d e : Dict κ α} (h : ∀ k ∈ e.keys, k ∈ d.keys) :
    (d.update e).keys = d.keys :=
  keys_setAll_of_subset fun x hx => h x.1 (List.mem_map_of_mem hx)

/-! ## The dictionary of a list -/

theorem setAll_keys_subset (d : Dict κ α) (l : List (κ × α)) {k : κ} :
    k ∈ (d.setAll l).keys ↔ k ∈ d.keys ∨ k ∈ l.map Prod.fst := by
  induction l generalizing d with
  | nil => simp
  | cons e l ih =>
      have hset : ∀ k', k' ∈ (d.set e.1 e.2).keys ↔ k' = e.1 ∨ k' ∈ d.keys :=
        fun k' => mem_map_fst_write
      rw [setAll_cons, ih, hset, List.map_cons, List.mem_cons]
      tauto

/-- The keys of a list's dictionary are the list's. -/
theorem mem_keys_ofList {l : List (κ × α)} {k : κ} : k ∈ (ofList l).keys ↔ k ∈ l.map Prod.fst := by
  have hempty : k ∉ (empty : Dict κ α).keys := List.not_mem_nil
  rw [ofList, setAll_keys_subset]
  exact or_iff_right hempty

/-- What a list's dictionary holds stands in the list. -/
theorem mem_of_get?_ofList {l : List (κ × α)} {k : κ} {v : α} (h : (ofList l).get? k = some v) :
    (k, v) ∈ l := by
  have hlast : (l.filter (fun e => e.1 = k)).getLast?.map Prod.snd = some v := by
    rwa [ofList, get?_setAll, show (empty : Dict κ α).get? k = none from rfl, Option.or_none] at h
  obtain ⟨e, he, rfl⟩ := Option.map_eq_some_iff.1 hlast
  obtain ⟨hmem, hk⟩ := List.mem_filter.1 (List.mem_of_getLast? he)
  rw [← of_decide_eq_true hk]
  exact hmem

theorem keys_setAll_of_nodup {d : Dict κ α} {l : List (κ × α)} (h : (l.map Prod.fst).Nodup)
    (hd : ∀ k ∈ l.map Prod.fst, k ∉ d.keys) : (d.setAll l).keys = d.keys ++ l.map Prod.fst := by
  induction l generalizing d with
  | nil => simp
  | cons e l ih =>
      rw [List.map_cons, List.nodup_cons] at h
      have hset : (d.set e.1 e.2).keys = d.keys ++ [e.1] :=
        keys_set_of_not_mem (hd e.1 (by simp))
      rw [setAll_cons, ih h.2, hset, List.append_assoc]
      · rfl
      · intro k hk hmem
        rw [hset, List.mem_append, List.mem_singleton] at hmem
        rcases hmem with hmem | rfl
        · exact hd k (by simp [List.mem_map.1 hk]) hmem
        · exact h.1 hk

/-- Distinct keys make a dictionary in their order. -/
theorem keys_ofList_of_nodup {l : List (κ × α)} (h : (l.map Prod.fst).Nodup) :
    (ofList l).keys = l.map Prod.fst := by
  rw [ofList, keys_setAll_of_nodup h fun k _ => List.not_mem_nil]
  rfl

/-- Dictionaries of the same entries are the same. -/
theorem ext_entries {κ α : Type*} {d e : Dict κ α} (h : d.entries = e.entries) : d = e := by
  cases d
  cases e
  cases h
  rfl

/-- A key that is not there is written at the end. -/
theorem write_of_not_mem {k : κ} {v : α} {l : List (κ × α)} (h : k ∉ l.map Prod.fst) :
    write k v l = l ++ [(k, v)] := by
  induction l with
  | nil => rfl
  | cons e l ih =>
      rw [List.map_cons, List.mem_cons, not_or] at h
      rw [write, if_neg (Ne.symm h.1), ih h.2]
      rfl

/-- Distinct keys that are not there are written after those that are. -/
theorem entries_setAll {d : Dict κ α} {l : List (κ × α)} (h : (l.map Prod.fst).Nodup)
    (hd : ∀ k ∈ l.map Prod.fst, k ∉ d.keys) : (d.setAll l).entries = d.entries ++ l := by
  induction l generalizing d with
  | nil => simp
  | cons e l ih =>
      rw [List.map_cons, List.nodup_cons] at h
      rw [List.map_cons, List.forall_mem_cons] at hd
      have hset : (d.set e.1 e.2).entries = d.entries ++ [e] := write_of_not_mem hd.1
      rw [setAll_cons, ih h.2, hset, List.append_assoc]
      · rfl
      · intro k hk hmem
        rw [mem_keys_set] at hmem
        rcases hmem with rfl | hmem
        · exact h.1 hk
        · exact hd.2 k hk hmem

/-- **Entries of distinct keys make the dictionary they are.** -/
theorem entries_ofList {l : List (κ × α)} (h : (l.map Prod.fst).Nodup) :
    (ofList l).entries = l :=
  entries_setAll h fun _ _ => List.not_mem_nil

/-- A dictionary is what its entries make. -/
theorem ofList_entries (d : Dict κ α) : ofList d.entries = d := by
  have h := entries_ofList d.nodup
  generalize ofList d.entries = e at h
  cases e
  cases d
  cases h
  rfl

/-- What a list that has one value for a key makes is what it says. -/
theorem get?_ofList_eq_some_iff {l : List (κ × α)}
    (h : ∀ k v v', (k, v) ∈ l → (k, v') ∈ l → v = v') {k : κ} {v : α} :
    (ofList l).get? k = some v ↔ (k, v) ∈ l := by
  constructor
  · exact mem_of_get?_ofList
  · intro hmem
    have hkey : k ∈ (ofList l).keys := mem_keys_ofList.2 (List.mem_map.2 ⟨(k, v), hmem, rfl⟩)
    rw [mem_keys_iff, Option.isSome_iff_exists] at hkey
    obtain ⟨v', hv'⟩ := hkey
    rw [hv', h k v v' hmem (mem_of_get?_ofList hv')]

/-- What a list that has one value for a key leaves: its value, or what was
there for a key it has none for. -/
theorem get?_setAll_eq_some_iff {d : Dict κ α} {l : List (κ × α)}
    (h : ∀ k v v', (k, v) ∈ l → (k, v') ∈ l → v = v') {k : κ} {v : α} :
    (d.setAll l).get? k = some v ↔
      (k, v) ∈ l ∨ k ∉ l.map Prod.fst ∧ d.get? k = some v := by
  have hof : (ofList l).get? k = (l.filter fun e => e.1 = k).getLast?.map Prod.snd := by
    rw [ofList, get?_setAll, show (empty : Dict κ α).get? k = none from rfl, Option.or_none]
  rw [get?_setAll, ← hof, ← mem_keys_ofList, mem_keys_iff, ← get?_ofList_eq_some_iff h]
  cases (ofList l).get? k with
  | none => simp
  | some v' => simp

omit [DecidableEq κ] in
/-- A list of distinct keys has one value for a key. -/
theorem eq_of_nodup_keys {l : List (κ × α)} (h : (l.map Prod.fst).Nodup) {k : κ} {v v' : α}
    (hv : (k, v) ∈ l) (hv' : (k, v') ∈ l) : v = v' :=
  (Prod.mk.inj (List.inj_on_of_nodup_map h hv hv' rfl)).2

/-- A list of distinct keys in another order makes what reads as it
does. -/
theorem get?_ofList_of_perm {l l' : List (κ × α)} (h : l.Perm l')
    (hnodup : (l'.map Prod.fst).Nodup) (k : κ) : (ofList l).get? k = lookup k l' := by
  have hone : ∀ k v v', (k, v) ∈ l → (k, v') ∈ l → v = v' := fun k v v' hv hv' =>
    eq_of_nodup_keys hnodup (h.mem_iff.1 hv) (h.mem_iff.1 hv')
  refine Option.ext fun v => ?_
  rw [get?_ofList_eq_some_iff hone, lookup_eq_some_iff hnodup, h.mem_iff]

/-- Lists of the same keys, whose values are related, read as related
values. -/
theorem lookup_rel {R : α → β → Prop} {l : List (κ × α)} {l' : List (κ × β)}
    (h : List.Forall₂ (fun e e' => e.1 = e'.1 ∧ R e.2 e'.2) l l') (k : κ) :
    Option.Rel R (lookup k l) (lookup k l') := by
  induction h with
  | nil => exact .none
  | @cons e e' l l' he _ ih =>
      obtain ⟨k₁, v⟩ := e
      obtain ⟨k₂, v'⟩ := e'
      obtain ⟨rfl, hv⟩ := he
      rw [lookup, lookup]
      split
      · exact .some hv
      · exact ih

/-! ## The same, in some order -/

/-- `d == e`: the same entries, in whatever order. -/
def Same (d e : Dict κ α) : Prop := d.entries.Perm e.entries

instance decidableSame [DecidableEq α] (d e : Dict κ α) : Decidable (d.Same e) :=
  inferInstanceAs (Decidable (d.entries.Perm e.entries))

/-- **Dictionaries are the same when they hold the same.** -/
theorem same_iff {d e : Dict κ α} : d.Same e ↔ ∀ k, d.get? k = e.get? k := by
  constructor
  · intro h k
    refine Option.ext fun v => ?_
    rw [get?_eq_some_iff, get?_eq_some_iff]
    exact h.mem_iff
  · intro h
    rw [Same, List.perm_ext_iff_of_nodup d.nodup.of_map e.nodup.of_map]
    rintro ⟨k, v⟩
    rw [← get?_eq_some_iff, ← get?_eq_some_iff, h]

/-! ## Changing the values -/

omit [DecidableEq κ] in
@[simp] theorem keys_map (f : α → β) (d : Dict κ α) : (d.map f).keys = d.keys := by
  simp [keys, map, Function.comp_def]

@[simp] theorem get?_map (f : α → β) (d : Dict κ α) (k : κ) :
    (d.map f).get? k = (d.get? k).map f := by
  simp only [get?, map]
  generalize d.entries = l
  induction l with
  | nil => rfl
  | cons e l ih =>
      obtain ⟨k₀, v₀⟩ := e
      simp only [List.map_cons, lookup]
      split
      · rfl
      · exact ih

/-! ## Optional values -/

/-- The value under a key, when values may be absent themselves: absent
when the key is not there, and when it holds none. -/
def cached (d : Dict κ (Option α)) (k : κ) : Option α := (d.get? k).join

@[simp] theorem cached_empty (k : κ) : (∅ : Dict κ (Option α)).cached k = none := rfl

/-- Reading an optional value after a write. -/
theorem cached_set (d : Dict κ (Option α)) (k k' : κ) (v : Option α) :
    (d.set k v).cached k' = if k = k' then v else d.cached k' := by
  rw [cached, cached, get?_set]
  split <;> rfl

@[simp] theorem cached_set_self (d : Dict κ (Option α)) (k : κ) (v : Option α) :
    (d.set k v).cached k = v := by
  rw [cached_set, if_pos rfl]

/-- Reading an optional value after a key is dropped. -/
theorem cached_erase (d : Dict κ (Option α)) (k k' : κ) :
    (d.erase k).cached k' = if k = k' then none else d.cached k' := by
  rw [cached, cached, get?_erase]
  split <;> rfl

end Dict

end WazoDird
