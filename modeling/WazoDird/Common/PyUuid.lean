import WazoDird.Common.Octets
import WazoDird.Common.Text

/-!
# The language's uuids

`uuid.UUID`, read from text as its documentation says, which is more than
what `str` writes: `urn:uuid:`, braces, hyphens anywhere, and whatever
`int(text, 16)` takes. A uuid is its sixteen octets.
-/

namespace WazoDird

namespace PyUuid

/-! ## `int(text, 16)` -/

/-- A blank, of the ASCII ones. -/
def isBlank (c : Char) : Bool :=
  c = ' ' || c = '\t' || c = '\n' || c = '\x0b' || c = '\x0c' || c = '\r'

/-- A character as `int` takes it: blanks and decimal digits that are not
ASCII as the ASCII ones. -/
def asAscii (py : TextOps) (c : Char) : Char :=
  if c.toNat < 128 then c
  else if py.isSpace c then ' '
  else (py.decimal c).elim '?' hexDigit

/-- The digits of a number, single underscores between them. -/
def digitsFrom (n : ℕ) (afterDigit : Bool) : List Char → Option ℕ
  | [] => if afterDigit then some n else none
  | c :: cs =>
    if c = '_' then if afterDigit then digitsFrom n false cs else none
    else (hexDigit? c).bind fun d => digitsFrom (16 * n + d) true cs

/-- Text after the prefix of a hexadecimal number, if it has one. -/
def dropPrefix : List Char → List Char
  | '0' :: c :: cs =>
    if c = 'x' ∨ c = 'X' then
      match cs with
      | '_' :: cs => cs
      | cs => cs
    else '0' :: c :: cs
  | cs => cs

/-- `int(text, 16)`. A minus sign does not come here: `UUID` removes it. -/
def intBase16 (py : TextOps) (cs : List Char) : Option ℕ :=
  let cs := strip isBlank (cs.map (asAscii py))
  let cs := match cs with
    | '+' :: cs => cs
    | cs => cs
  digitsFrom 0 false (dropPrefix cs)

/-! ## `UUID` -/

/-- **`uuid.UUID(text)`**, none where it raises `ValueError`. -/
def ofString (py : TextOps) (s : String) : Option Bytes :=
  let cs := replaceAll ['u', 'u', 'i', 'd', ':'] [] (replaceAll ['u', 'r', 'n', ':'] [] s.toList)
  let cs := replaceAll ['-'] [] (strip (fun c => c = '{' || c = '}') cs)
  if cs.length = 32 then (intBase16 py cs).map (toBytes 16) else none

/-- `uuid.UUID(bytes=value)`, none where it raises `ValueError`. -/
def ofBytes? (b : Bytes) : Option Bytes := if b.length = 16 then some b else none

/-- The text of `str(uuid)`. -/
def text (b : Bytes) : List Char :=
  let cs := hex b
  cs.take 8 ++ '-' :: (cs.drop 8).take 4 ++ '-' :: (cs.drop 12).take 4 ++
    '-' :: (cs.drop 16).take 4 ++ '-' :: cs.drop 20

/-- `str(uuid)`. -/
def str (b : Bytes) : String := String.ofList (text b)

/-! ## What is written is read back -/

/-- What a digit is not. -/
theorem hexDigit_facts : ∀ n < 16, (hexDigit n).toNat < 128 ∧ isBlank (hexDigit n) = false ∧
    hexDigit n ≠ '+' ∧ hexDigit n ≠ '_' ∧ hexDigit n ≠ 'x' ∧ hexDigit n ≠ 'X' ∧
    hexDigit n ≠ '-' ∧ hexDigit n ≠ 'u' ∧ hexDigit n ≠ '{' ∧ hexDigit n ≠ '}' := by
  decide

/-- A digit is a next digit. -/
theorem digitsFrom_hexDigit {d : ℕ} (h : d < 16) (n : ℕ) (after : Bool) (cs : List Char) :
    digitsFrom n after (hexDigit d :: cs) = digitsFrom (16 * n + d) true cs := by
  rw [digitsFrom, if_neg (hexDigit_facts d h).2.2.2.1, hexDigit?_hexDigit h]
  rfl

/-- The digits of octets are their number. -/
theorem digitsFrom_hex (b : Bytes) (n : ℕ) :
    digitsFrom n true (hex b) = some (b.foldl (fun n octet => 256 * n + octet.toNat) n) := by
  induction b generalizing n with
  | nil => rfl
  | cons octet b ih =>
    have hlt := octet.toNat_lt
    have hstep : 16 * (16 * n + octet.toNat / 16) + octet.toNat % 16 = 256 * n + octet.toNat := by
      omega
    rw [hex_cons, hexPair, List.cons_append, List.cons_append, List.nil_append,
      digitsFrom_hexDigit (by omega), digitsFrom_hexDigit (Nat.mod_lt _ (by omega)), hstep, ih,
      List.foldl_cons]

theorem dropPrefix_of_not_mem {cs : List Char} (hx : 'x' ∉ cs) (hX : 'X' ∉ cs) :
    dropPrefix cs = cs := by
  unfold dropPrefix
  split
  · next c cs =>
    have hne : ¬ (c = 'x' ∨ c = 'X') := by
      rintro (rfl | rfl)
      · simp at hx
      · simp at hX
    rw [if_neg hne]
  · rfl

/-- **The digits of octets, as a number.** -/
theorem intBase16_hex (py : TextOps) {b : Bytes} (h : b ≠ []) :
    intBase16 py (hex b) = some (ofBytes b) := by
  have hdigit : ∀ c ∈ hex b, ∃ n < 16, c = hexDigit n := fun c hc => isSome_of_mem_hex hc
  have hascii : (hex b).map (asAscii py) = hex b := by
    refine (List.map_congr_left fun c hc => ?_).trans (List.map_id _)
    obtain ⟨n, hn, rfl⟩ := hdigit c hc
    exact if_pos (hexDigit_facts n hn).1
  have hstrip : strip isBlank (hex b) = hex b := by
    refine strip_of_forall fun c hc => ?_
    obtain ⟨n, hn, rfl⟩ := hdigit c hc
    exact (hexDigit_facts n hn).2.1
  have hx : 'x' ∉ hex b := by
    intro hc
    obtain ⟨n, hn, heq⟩ := hdigit _ hc
    exact (hexDigit_facts n hn).2.2.2.2.1 heq.symm
  have hX : 'X' ∉ hex b := by
    intro hc
    obtain ⟨n, hn, heq⟩ := hdigit _ hc
    exact (hexDigit_facts n hn).2.2.2.2.2.1 heq.symm
  cases b with
  | nil => exact absurd rfl h
  | cons octet b =>
    have hlt := octet.toNat_lt
    have hplus : hexDigit (octet.toNat / 16) ≠ '+' := (hexDigit_facts _ (by omega)).2.2.1
    rw [intBase16, hascii, hstrip]
    have hsign : (match hex (octet :: b) with
        | '+' :: cs => cs
        | cs => cs) = hex (octet :: b) := by
      split
      · next cs heq => exact absurd (List.cons.inj heq).1 hplus
      · rfl
    show digitsFrom 0 false (dropPrefix (match hex (octet :: b) with
        | '+' :: cs => cs
        | cs => cs)) = _
    rw [hsign, dropPrefix_of_not_mem hx hX, hex_cons, hexPair, List.cons_append, List.cons_append,
      List.nil_append, digitsFrom_hexDigit (by omega), digitsFrom_hexDigit (Nat.mod_lt _ (by omega)),
      digitsFrom_hex, ofBytes, List.foldl_cons]
    congr 2
    omega

/-- Without its hyphens, the text of a uuid is its digits. -/
theorem filter_text (b : Bytes) : (text b).filter (· ≠ '-') = hex b := by
  have hdigits : ∀ cs : List Char, (∀ c ∈ cs, c ∈ hex b) → cs.filter (· ≠ '-') = cs := by
    intro cs hcs
    refine List.filter_eq_self.2 fun c hc => ?_
    obtain ⟨n, hn, rfl⟩ := isSome_of_mem_hex (hcs c hc)
    simpa using (hexDigit_facts n hn).2.2.2.2.2.2.1
  have htake : ∀ i j, ((hex b).drop i).take j ++ (hex b).drop (i + j) = (hex b).drop i := by
    intro i j
    rw [← List.drop_drop, List.take_append_drop]
  simp only [text, List.filter_append, List.filter_cons]
  rw [hdigits _ fun c hc => List.mem_of_mem_take hc,
    hdigits _ fun c hc => List.mem_of_mem_drop (List.mem_of_mem_take hc),
    hdigits _ fun c hc => List.mem_of_mem_drop (List.mem_of_mem_take hc),
    hdigits _ fun c hc => List.mem_of_mem_drop (List.mem_of_mem_take hc),
    hdigits _ fun c hc => List.mem_of_mem_drop hc]
  simp only [ne_eq, not_true_eq_false, decide_false, Bool.false_eq_true, if_false,
    List.append_assoc]
  rw [htake 16 4, htake 12 4, htake 8 4, List.take_append_drop]

/-- **A uuid is read back from its text.** -/
theorem ofString_str (py : TextOps) {b : Bytes} (h : b.length = 16) :
    ofString py (str b) = some b := by
  have hmem : ∀ c ∈ text b, c = '-' ∨ ∃ n < 16, c = hexDigit n := by
    intro c hc
    by_cases hdash : c = '-'
    · exact Or.inl hdash
    · have hin : c ∈ hex b := by
        rw [← filter_text]
        exact List.mem_filter.2 ⟨hc, by simpa using hdash⟩
      exact Or.inr (isSome_of_mem_hex hin)
  have hu : 'u' ∉ text b := by
    intro hc
    rcases hmem _ hc with hdash | ⟨n, hn, heq⟩
    · exact absurd hdash (by decide)
    · exact (hexDigit_facts n hn).2.2.2.2.2.2.2.1 heq.symm
  have hbraces : ∀ c ∈ text b, (c = '{' || c = '}') = false := by
    intro c hc
    rcases hmem c hc with rfl | ⟨n, hn, rfl⟩
    · decide
    · have hfacts := (hexDigit_facts n hn).2.2.2.2.2.2.2.2
      simp [hfacts.1, hfacts.2]
  have hurn : replaceAll ['u', 'r', 'n', ':'] [] (text b) = text b := replaceAll_of_not_mem hu
  have huuid : replaceAll ['u', 'u', 'i', 'd', ':'] [] (text b) = text b := replaceAll_of_not_mem hu
  have hne : b ≠ [] := by
    rintro rfl
    cases h
  rw [ofString, str, String.toList_ofList, hurn, huuid, strip_of_forall hbraces,
    replaceAll_singleton, filter_text, if_pos (by rw [length_hex, h]), intBase16_hex py hne,
    Option.map_some, ← h, toBytes_ofBytes]

end PyUuid

end WazoDird
