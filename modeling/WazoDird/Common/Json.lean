import Mathlib.Data.List.Sort
import Mathlib.Data.String.Basic
import WazoDird.Common.Dict
import WazoDird.Common.Octets
import WazoDird.Common.Value

/-!
# JSON as the language writes it

`json.dumps(value, sort_keys=True)`: the text of a value, in ASCII, its
dictionaries by ascending key. A character outside the printable ASCII
ones is written as one or two `\u` escapes of its UTF-16 code units.

What a number with a fractional part is written as is the language's
shortest representation, a parameter of which one thing matters: it does
not start as a text does.
-/

namespace WazoDird

namespace Json

/-- `float.__repr__`: some text, and none that starts with a quote. -/
structure FloatText where
  text : ℚ → List Char
  head_ne : ∀ q, ∃ c cs, text q = c :: cs ∧ c ≠ '"'

/-! ## Texts -/

/-- One code unit, escaped. -/
def unicodeEscape (n : ℕ) : List Char :=
  ['\\', 'u', hexDigit (n / 4096 % 16), hexDigit (n / 256 % 16), hexDigit (n / 16 % 16),
    hexDigit (n % 16)]

/-- One character of a text. -/
def escapeChar (c : Char) : List Char :=
  if c = '"' then ['\\', '"']
  else if c = '\\' then ['\\', '\\']
  else if c = '\n' then ['\\', 'n']
  else if c = '\r' then ['\\', 'r']
  else if c = '\t' then ['\\', 't']
  else if c.toNat = 12 then ['\\', 'f']
  else if c.toNat = 8 then ['\\', 'b']
  else if 32 ≤ c.toNat ∧ c.toNat ≤ 126 then [c]
  else if c.toNat < 65536 then unicodeEscape c.toNat
  else
    let n := c.toNat - 65536
    unicodeEscape (55296 + n / 1024) ++ unicodeEscape (56320 + n % 1024)

/-- A text between its quotes. -/
def quote (s : String) : List Char := '"' :: (s.toList.flatMap escapeChar ++ ['"'])

/-! ## Values -/

mutual

/-- A value, its dictionaries by ascending key. -/
def sortKeys : Value → Value
  | .list l => .list (sortItems l)
  | .dict l => .dict ((sortEntries l).insertionSort fun e e' => e.1 ≤ e'.1)
  | v => v

/-- The values of a list, each sorted. -/
def sortItems : List Value → List Value
  | [] => []
  | v :: l => sortKeys v :: sortItems l

/-- The values of a dictionary, each sorted. -/
def sortEntries : List (String × Value) → List (String × Value)
  | [] => []
  | (k, v) :: l => (k, sortKeys v) :: sortEntries l

end

variable (floats : FloatText)

mutual

/-- The text of a value, its dictionaries in their own order. -/
def render : Value → List Char
  | .none => ['n', 'u', 'l', 'l']
  | .bool true => ['t', 'r', 'u', 'e']
  | .bool false => ['f', 'a', 'l', 's', 'e']
  | .int n => n.repr.toList
  | .float q => floats.text q
  | .str s => quote s
  | .list l => '[' :: (renderItems l ++ [']'])
  | .dict l => '{' :: (renderEntries l ++ ['}'])

/-- The values of a list, with a comma between two. -/
def renderItems : List Value → List Char
  | [] => []
  | [v] => render v
  | v :: w :: l => render v ++ ',' :: ' ' :: renderItems (w :: l)

/-- The entries of a dictionary, with a comma between two. -/
def renderEntries : List (String × Value) → List Char
  | [] => []
  | [(k, v)] => quote k ++ ':' :: ' ' :: render v
  | (k, v) :: e :: l => quote k ++ ':' :: ' ' :: (render v ++ ',' :: ' ' :: renderEntries (e :: l))

end

/-- **`json.dumps(value, sort_keys=True)`.** -/
def dumps (v : Value) : String := String.ofList (render floats (sortKeys v))

/-! ## Reading a text back

One escape read back tells the character, so no two texts are written
alike, and the end of a text shows. -/

/-- The code unit of four digits. -/
def codeUnit? (a b c d : Char) : Option ℕ := do
  return 4096 * (← hexDigit? a) + 256 * (← hexDigit? b) + 16 * (← hexDigit? c) + (← hexDigit? d)

/-- The character of an escape of two. -/
def shortEscape (c : Char) : Char :=
  if c = 'n' then '\n' else if c = 'r' then '\r' else if c = 't' then '\t'
  else if c = 'f' then Char.ofNat 12 else if c = 'b' then Char.ofNat 8 else c

/-- One character read off the front. -/
def readChar : List Char → Option (Char × List Char)
  | '\\' :: 'u' :: a :: b :: c :: d :: cs => do
      let n ← codeUnit? a b c d
      if n < 55296 ∨ 57344 ≤ n then some (Char.ofNat n, cs)
      else match cs with
        | '\\' :: 'u' :: a' :: b' :: c' :: d' :: cs' => do
            let m ← codeUnit? a' b' c' d'
            some (Char.ofNat (65536 + 1024 * (n - 55296) + (m - 56320)), cs')
        | _ => none
  | '\\' :: c :: cs => some (shortEscape c, cs)
  | c :: cs => some (c, cs)
  | [] => none

theorem codeUnit?_unicodeEscape {n : ℕ} (h : n < 65536) :
    codeUnit? (hexDigit (n / 4096 % 16)) (hexDigit (n / 256 % 16)) (hexDigit (n / 16 % 16))
      (hexDigit (n % 16)) = some n := by
  have hlt (m : ℕ) : m % 16 < 16 := Nat.mod_lt _ (by omega)
  simp only [codeUnit?, hexDigit?_hexDigit (hlt _), Option.bind_eq_bind, Option.bind_some,
    Option.pure_def, Option.some.injEq]
  omega

/-- A code unit that is a character reads back as it. -/
theorem readChar_unicodeEscape {n : ℕ} (h : n < 65536) (hbmp : n < 55296 ∨ 57344 ≤ n)
    (cs : List Char) : readChar (unicodeEscape n ++ cs) = some (Char.ofNat n, cs) := by
  simp only [unicodeEscape, List.cons_append, List.nil_append, readChar,
    codeUnit?_unicodeEscape h, Option.bind_eq_bind, Option.bind_some, if_pos hbmp]

/-- Two code units read back as the character they make. -/
theorem readChar_pair {n : ℕ} (h : n < 1048576) (cs : List Char) :
    readChar (unicodeEscape (55296 + n / 1024) ++ (unicodeEscape (56320 + n % 1024) ++ cs)) =
      some (Char.ofNat (65536 + n), cs) := by
  have hhigh : 55296 + n / 1024 < 65536 := by omega
  have hlow : 56320 + n % 1024 < 65536 := by omega
  have hsurrogate : ¬ (55296 + n / 1024 < 55296 ∨ 57344 ≤ 55296 + n / 1024) := by omega
  have hsum : 65536 + 1024 * (55296 + n / 1024 - 55296) + (56320 + n % 1024 - 56320) =
      65536 + n := by omega
  simp only [unicodeEscape, List.cons_append, List.nil_append, readChar,
    codeUnit?_unicodeEscape hhigh, codeUnit?_unicodeEscape hlow, Option.bind_eq_bind,
    Option.bind_some, if_neg hsurrogate, hsum]

/-- A character that stands for itself reads back. -/
theorem readChar_plain {c : Char} (h : c ≠ '\\') (cs : List Char) :
    readChar (c :: cs) = some (c, cs) := by
  unfold readChar
  split
  · next hc => exact absurd (List.cons.inj hc).1 h
  · next hc => exact absurd (List.cons.inj hc).1 h
  · next hc =>
    obtain ⟨rfl, rfl⟩ := List.cons.inj hc
    rfl
  · next hc => cases hc

/-- A character is a code unit outside the surrogates, or beyond them. -/
theorem toNat_bmp (c : Char) : c.toNat < 55296 ∨ 57344 ≤ c.toNat ∧ c.toNat < 1114112 := by
  have hvalid := c.valid
  rcases hvalid with h | ⟨h, h'⟩
  · exact Or.inl (by simpa using h)
  · refine Or.inr ⟨?_, h'⟩
    have : 57343 < c.toNat := h
    omega

/-- **A character reads back.** -/
theorem readChar_escapeChar (c : Char) (cs : List Char) :
    readChar (escapeChar c ++ cs) = some (c, cs) := by
  have hof (n : ℕ) (h : c.toNat = n) : Char.ofNat n = c := by rw [← h, Char.ofNat_toNat]
  unfold escapeChar
  split_ifs with h1 h2 h3 h4 h5 h6 h7 h8 h9
  · subst h1; rfl
  · subst h2; rfl
  · subst h3; rfl
  · subst h4; rfl
  · subst h5; rfl
  · rw [← hof 12 h6]; rfl
  · rw [← hof 8 h7]; rfl
  · exact readChar_plain h2 cs
  · have hbmp : c.toNat < 55296 ∨ 57344 ≤ c.toNat := (toNat_bmp c).imp_right And.left
    rw [readChar_unicodeEscape h9 hbmp, Char.ofNat_toNat]
  · have hlt : c.toNat - 65536 < 1048576 := by
      have := toNat_bmp c
      omega
    have hsum : 65536 + (c.toNat - 65536) = c.toNat := by omega
    rw [List.append_assoc, readChar_pair hlt, hsum, Char.ofNat_toNat]

/-- No character is written as another is, whatever follows. -/
theorem escapeChar_append_inj {c d : Char} {cs ds : List Char}
    (h : escapeChar c ++ cs = escapeChar d ++ ds) : c = d ∧ cs = ds := by
  have hread := readChar_escapeChar c cs
  rw [h, readChar_escapeChar] at hread
  obtain ⟨hchar, hrest⟩ := Prod.mk.inj (Option.some.inj hread)
  exact ⟨hchar.symm, hrest.symm⟩

/-- No character is written as the end of a text is. -/
theorem escapeChar_append_ne_quote {c : Char} {cs ds : List Char} :
    escapeChar c ++ cs ≠ '"' :: ds := by
  intro h
  have hread := readChar_escapeChar c cs
  rw [h, readChar_plain (by decide)] at hread
  obtain ⟨rfl, -⟩ := Prod.mk.inj (Option.some.inj hread)
  simp [escapeChar] at h

/-- The characters of two texts, up to their ends. -/
theorem flatMap_escapeChar_inj {cs ds r r' : List Char}
    (h : cs.flatMap escapeChar ++ '"' :: r = ds.flatMap escapeChar ++ '"' :: r') :
    cs = ds ∧ r = r' := by
  induction cs generalizing ds with
  | nil =>
      cases ds with
      | nil => exact ⟨rfl, (List.cons.inj h).2⟩
      | cons d ds =>
          rw [List.flatMap_cons, List.append_assoc] at h
          exact absurd h.symm escapeChar_append_ne_quote
  | cons c cs ih =>
      rw [List.flatMap_cons, List.append_assoc] at h
      cases ds with
      | nil => exact absurd h escapeChar_append_ne_quote
      | cons d ds =>
          rw [List.flatMap_cons, List.append_assoc] at h
          obtain ⟨rfl, hrest⟩ := escapeChar_append_inj h
          obtain ⟨rfl, hr⟩ := ih hrest
          exact ⟨rfl, hr⟩

/-- **No two texts are written alike**, whatever follows them. -/
theorem quote_append_inj {s t : String} {r r' : List Char}
    (h : quote s ++ r = quote t ++ r') : s = t ∧ r = r' := by
  simp only [quote, List.cons_append, List.append_assoc, List.nil_append, List.cons.injEq,
    true_and] at h
  obtain ⟨hst, hr⟩ := flatMap_escapeChar_inj h
  exact ⟨String.toList_inj.1 hst, hr⟩

/-! ## Dictionaries of texts

What is written of a dictionary of texts is written of no other
dictionary, whatever values that one has. -/

section Texts

variable {floats : FloatText}

/-- A whole number starts with a digit, or with its sign. -/
theorem head_repr (n : ℤ) : ∃ c cs, n.repr.toList = c :: cs ∧ c ≠ '"' := by
  cases n with
  | ofNat n =>
      have hne : n.repr.toList ≠ [] := by
        rw [Nat.toList_repr]
        exact Nat.toDigits_ne_nil
      obtain ⟨c, cs, hc⟩ := List.exists_cons_of_ne_nil hne
      refine ⟨c, cs, hc, ?_⟩
      rintro rfl
      have hdigit : '"' ∈ Nat.toDigits 10 n := by
        rw [← Nat.toList_repr, hc]
        exact List.mem_cons_self
      exact absurd (Nat.isDigit_of_mem_toDigits (by decide) (by decide) hdigit) (by decide)
  | negSucc n => exact ⟨'-', n.succ.repr.toList, by simp [Int.repr], by decide⟩

/-- Only a text starts with a quote. -/
theorem eq_str_of_render {v : Value} {r r' : List Char} (h : render floats v ++ r = '"' :: r') :
    ∃ s, v = .str s := by
  cases v with
  | str s => exact ⟨s, rfl⟩
  | none | list l | dict l => simp [render] at h
  | bool b => cases b <;> simp [render] at h
  | int n =>
      obtain ⟨c, cs, hn, hc⟩ := head_repr n
      rw [render, hn] at h
      exact absurd (List.cons.inj h).1 hc
  | float q =>
      obtain ⟨c, cs, hq, hc⟩ := floats.head_ne q
      rw [render, hq] at h
      exact absurd (List.cons.inj h).1 hc

/-- Entries that start alike: the first is a text under its key. -/
theorem head_entry_inj {k k' s : String} {v : Value} {r r' : List Char}
    (h : quote k ++ ':' :: ' ' :: (quote s ++ r) =
      quote k' ++ ':' :: ' ' :: (render floats v ++ r')) :
    k = k' ∧ v = .str s ∧ r = r' := by
  obtain ⟨rfl, hrest⟩ := quote_append_inj h
  simp only [List.cons.injEq, true_and] at hrest
  have hquote : render floats v ++ r' = '"' :: (s.toList.flatMap escapeChar ++ '"' :: r) := by
    rw [← hrest]
    simp [quote]
  obtain ⟨t, rfl⟩ := eq_str_of_render hquote
  rw [render] at hrest
  obtain ⟨rfl, hr⟩ := quote_append_inj hrest
  exact ⟨rfl, rfl, hr⟩

/-- **Entries that are texts are written as no others are.** -/
theorem renderEntries_inj {l l' : List (String × Value)} (hl : ∀ e ∈ l, ∃ s, e.2 = .str s)
    {r r' : List Char}
    (h : renderEntries floats l ++ '}' :: r = renderEntries floats l' ++ '}' :: r') : l = l' := by
  induction l generalizing l' with
  | nil =>
      match l' with
      | [] => rfl
      | [(k, v)] => simp [renderEntries, quote] at h
      | (k, v) :: e :: l' => simp [renderEntries, quote] at h
  | cons e l ih =>
      obtain ⟨k, v⟩ := e
      obtain ⟨s, hs⟩ := hl (k, v) List.mem_cons_self
      obtain rfl : v = .str s := hs
      have hrest := fun e he => hl e (List.mem_cons_of_mem _ he)
      match l, l' with
      | [], [] => simp [renderEntries, quote] at h
      | e :: l, [] => simp [renderEntries, quote] at h
      | [], [(k', v')] =>
          simp only [renderEntries, List.append_assoc, List.cons_append] at h
          obtain ⟨rfl, rfl, -⟩ := head_entry_inj (by simpa only [render] using h)
          rfl
      | [], (k', v') :: e' :: l' =>
          simp only [renderEntries, List.append_assoc, List.cons_append] at h
          obtain ⟨-, -, hr⟩ := head_entry_inj (by simpa only [render] using h)
          cases (List.cons.inj hr).1
      | e :: l, [(k', v')] =>
          simp only [renderEntries, List.append_assoc, List.cons_append] at h
          obtain ⟨-, -, hr⟩ := head_entry_inj (by simpa only [render] using h)
          cases (List.cons.inj hr).1
      | e :: l, (k', v') :: e' :: l' =>
          simp only [renderEntries, List.append_assoc, List.cons_append] at h
          obtain ⟨rfl, rfl, hr⟩ := head_entry_inj (by simpa only [render] using h)
          simp only [List.cons.injEq, true_and] at hr
          rw [ih hrest hr]

/-- The entries of a dictionary, by ascending key. -/
def byKey (l : List (String × Value)) : List (String × Value) :=
  (sortEntries l).insertionSort fun e e' => e.1 ≤ e'.1

theorem sortEntries_eq_map (l : List (String × Value)) :
    sortEntries l = l.map fun e => (e.1, sortKeys e.2) := by
  induction l with
  | nil => rfl
  | cons e l ih => rw [sortEntries, ih]; rfl

/-- Only a text is sorted to one. -/
theorem sortKeys_eq_str_iff {v : Value} {s : String} : sortKeys v = .str s ↔ v = .str s := by
  cases v <;> simp [sortKeys]

theorem toList_dumps_dict (l : List (String × Value)) :
    (dumps floats (.dict l)).toList = '{' :: (renderEntries floats (byKey l) ++ ['}']) := by
  rw [dumps, String.toList_ofList, sortKeys, render, byKey]

theorem sortEntries_of_texts {l : List (String × Value)} (hl : ∀ e ∈ l, ∃ s, e.2 = .str s) :
    sortEntries l = l := by
  have hid : l.map (fun e => (e.1, sortKeys e.2)) = l.map id := by
    refine List.map_congr_left fun e he => ?_
    obtain ⟨s, hs⟩ := hl e he
    rw [hs, sortKeys_eq_str_iff.2 rfl, ← hs, id]
  rw [sortEntries_eq_map, hid, List.map_id]

theorem byKey_perm (l : List (String × Value)) : (byKey l).Perm (sortEntries l) :=
  List.perm_insertionSort _ _

/-- **A dictionary of texts is written as no other is**: one written alike
has the same entries. -/
theorem perm_of_dumps_eq {l l' : List (String × Value)} (hl : ∀ e ∈ l, ∃ s, e.2 = .str s)
    (h : dumps floats (.dict l) = dumps floats (.dict l')) : l.Perm l' := by
  have hbyKey : (byKey l).Perm l := by
    have hperm := byKey_perm l
    rwa [sortEntries_of_texts hl] at hperm
  have heq : byKey l = byKey l' := by
    have hlist := congrArg String.toList h
    rw [toList_dumps_dict, toList_dumps_dict] at hlist
    exact renderEntries_inj (fun e he => hl e (hbyKey.mem_iff.1 he)) (List.cons.inj hlist).2
  have hperm : (sortEntries l').Perm l :=
    ((byKey_perm l').symm.trans (heq ▸ List.Perm.refl _)).trans hbyKey
  have hl' : ∀ e ∈ l', ∃ s, e.2 = .str s := by
    intro e he
    have hmem : (e.1, sortKeys e.2) ∈ l := by
      rw [← hperm.mem_iff, sortEntries_eq_map]
      exact List.mem_map_of_mem he
    obtain ⟨s, hs⟩ := hl _ hmem
    exact ⟨s, sortKeys_eq_str_iff.1 hs⟩
  rw [sortEntries_of_texts hl'] at hperm
  exact hperm.symm

end Texts

/-! ## What the text depends on -/

section Congr

variable {floats : FloatText}

/-- The entries' keys, and the texts of their values, make their text. -/
theorem renderEntries_congr {l l' : List (String × Value)}
    (h : l.map (fun e => (e.1, render floats e.2)) = l'.map fun e => (e.1, render floats e.2)) :
    renderEntries floats l = renderEntries floats l' := by
  induction l generalizing l' with
  | nil =>
      rw [List.map_nil, eq_comm, List.map_eq_nil_iff] at h
      rw [h]
  | cons e l ih =>
      obtain ⟨k, v⟩ := e
      match l' with
      | [] => cases h
      | (k', v') :: l' =>
          simp only [List.map_cons, List.cons.injEq, Prod.mk.injEq] at h
          obtain ⟨⟨rfl, hv⟩, hrest⟩ := h
          match l, l' with
          | [], [] => rw [renderEntries, renderEntries, hv]
          | [], e :: l' => cases hrest
          | e :: l, [] => cases hrest
          | e :: l, e' :: l' => rw [renderEntries, renderEntries, hv, ih hrest]

/-- The entries by ascending key, each with what its value is written as. -/
theorem map_render_byKey (l : List (String × Value)) :
    (byKey l).map (fun e => (e.1, render floats e.2)) =
      (l.map fun e => (e.1, (dumps floats e.2).toList)).insertionSort fun e e' => e.1 ≤ e'.1 := by
  have hle : ∀ a ∈ sortEntries l, ∀ b ∈ sortEntries l, a.1 ≤ b.1 ↔ a.1 ≤ b.1 :=
    fun _ _ _ _ => Iff.rfl
  rw [byKey, List.map_insertionSort (fun e e' : String × Value => e.1 ≤ e'.1)
    (fun e e' : String × List Char => e.1 ≤ e'.1) _ _ hle, sortEntries_eq_map, List.map_map]
  simp [dumps, Function.comp_def]

/-- **What a dictionary is written as depends on its keys and on what its
values are written as**, and not on their order. -/
theorem dumps_dict_congr {l l' : List (String × Value)} (hl : (l.map Prod.fst).Nodup)
    (h : (l.map fun e => (e.1, dumps floats e.2)).Perm (l'.map fun e => (e.1, dumps floats e.2))) :
    dumps floats (.dict l) = dumps floats (.dict l') := by
  have hperm := h.map fun e => (e.1, e.2.toList)
  simp only [List.map_map, Function.comp_def] at hperm
  have hsorted : (byKey l).map (fun e => (e.1, render floats e.2)) =
      (byKey l').map fun e => (e.1, render floats e.2) := by
    rw [map_render_byKey, map_render_byKey]
    refine List.Perm.eq_of_pairwise ?_
      (List.pairwise_insertionSort (fun e e' : String × List Char => e.1 ≤ e'.1) _)
      (List.pairwise_insertionSort _ _)
      ((List.perm_insertionSort _ _).trans (hperm.trans (List.perm_insertionSort _ _).symm))
    -- two entries of one key are one entry
    intro a b ha hb hab hba
    rw [List.mem_insertionSort] at ha hb
    have hkeys : ((l.map fun e => (e.1, (dumps floats e.2).toList)).map Prod.fst).Nodup := by
      simpa [Function.comp_def] using hl
    exact List.inj_on_of_nodup_map hkeys ha (hperm.mem_iff.2 hb) (le_antisymm hab hba)
  rw [← String.toList_inj, toList_dumps_dict, toList_dumps_dict, renderEntries_congr hsorted]

end Congr

end Json

end WazoDird
