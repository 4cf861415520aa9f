import WazoDird.Common.Octets

/-!
# Assertion values

The value a search filter compares with, as RFC 4515 writes it: a few
characters stand as an escape, and an asterisk parts a value into
substrings. Text stands for its own octets exactly where it has none of
those characters (`decodeAssertion_self_iff`).
-/

namespace WazoDird

namespace Rfc4515

/-- A character that an assertion value does not hold as it is. -/
def isSpecial (c : Char) : Bool := c = '(' || c = ')' || c = '*' || c = '\\' || c = '\x00'

/-- Octets before the first part of an assertion. -/
def prepend (b : Bytes) : List Bytes → List Bytes
  | [] => [b]
  | part :: parts => (b ++ part) :: parts

/-- **The parts of an assertion, between its asterisks**: a character
stands for its octets, and an escape for the one of its two digits. -/
def decodeAssertion : List Char → Option (List Bytes)
  | [] => some [[]]
  | '*' :: cs => (decodeAssertion cs).map ([] :: ·)
  | '\\' :: a :: b :: cs =>
    (hexOctet? a b).bind fun octet => (decodeAssertion cs).map (prepend [octet])
  | c :: cs =>
    if isSpecial c then none
    else (decodeAssertion cs).map (prepend (String.utf8EncodeChar c))

theorem prepend_prepend (b b' : Bytes) (parts : List Bytes) :
    prepend b (prepend b' parts) = prepend (b ++ b') parts := by
  cases parts <;> simp [prepend]

/-- What is prepended to parts that make one was prepended to one. -/
theorem eq_singleton_of_prepend {b b' : Bytes} {parts : List Bytes} (hne : parts ≠ [])
    (h : prepend b' parts = [b]) : ∃ b'', parts = [b''] ∧ b = b' ++ b'' := by
  match parts, hne with
  | [part], _ => exact ⟨part, rfl, (List.cons.inj h).1.symm⟩
  | part :: part' :: parts, _ => cases h

/-- An escape. -/
theorem decodeAssertion_escape (a b : Char) (cs : List Char) :
    decodeAssertion ('\\' :: a :: b :: cs) =
      (hexOctet? a b).bind fun octet => (decodeAssertion cs).map (prepend [octet]) := by
  rw [decodeAssertion]

/-- A character that stands for itself. -/
theorem decodeAssertion_plain {c : Char} (h : isSpecial c = false) (cs : List Char) :
    decodeAssertion (c :: cs) =
      (decodeAssertion cs).map (prepend (String.utf8EncodeChar c)) := by
  have hstar : c ≠ '*' := by rintro rfl; cases h
  have hslash : c ≠ '\\' := by rintro rfl; cases h
  rw [decodeAssertion]
  · rw [if_neg (by simp [h])]
  · simpa using hstar
  · rintro a b cs' rfl
    exact absurd rfl hslash

/-- **A text decodes**, character by character. -/
inductive Decodes : List Char → List Bytes → Prop
  | nil : Decodes [] [[]]
  | star {cs : List Char} {parts : List Bytes} :
      Decodes cs parts → Decodes ('*' :: cs) ([] :: parts)
  | escape {a b : Char} {octet : UInt8} {cs : List Char} {parts : List Bytes} :
      hexOctet? a b = some octet → Decodes cs parts →
      Decodes ('\\' :: a :: b :: cs) (prepend [octet] parts)
  | plain {c : Char} {cs : List Char} {parts : List Bytes} :
      isSpecial c = false → Decodes cs parts →
      Decodes (c :: cs) (prepend (String.utf8EncodeChar c) parts)

/-- What `decodeAssertion` gives, it gives character by character. -/
theorem decodes_of_decodeAssertion {cs : List Char} {parts : List Bytes}
    (h : decodeAssertion cs = some parts) : Decodes cs parts := by
  induction cs using decodeAssertion.induct generalizing parts with
  | case1 =>
    cases h
    exact .nil
  | case2 cs ih =>
    rw [decodeAssertion] at h
    obtain ⟨parts, hparts, rfl⟩ := Option.map_eq_some_iff.1 h
    exact .star (ih hparts)
  | case3 a d cs ih =>
    rw [decodeAssertion_escape] at h
    obtain ⟨octet, hoctet, h⟩ := Option.bind_eq_some_iff.1 h
    obtain ⟨parts, hparts, rfl⟩ := Option.map_eq_some_iff.1 h
    exact .escape hoctet (ih hparts)
  | case4 c cs _ _ hspecial =>
    rw [decodeAssertion] at h
    · rw [if_pos hspecial] at h
      cases h
    all_goals assumption
  | case5 c cs _ _ hspecial ih =>
    have hplain : isSpecial c = false := by simpa using hspecial
    rw [decodeAssertion_plain hplain] at h
    obtain ⟨parts, hparts, rfl⟩ := Option.map_eq_some_iff.1 h
    exact .plain hplain (ih hparts)

/-- There is a first part. -/
theorem Decodes.ne_nil {cs : List Char} {parts : List Bytes} (h : Decodes cs parts) :
    parts ≠ [] := by
  have hprepend : ∀ (b : Bytes) (parts : List Bytes), prepend b parts ≠ [] := by
    intro b parts
    cases parts <;> exact List.cons_ne_nil _ _
  cases h with
  | nil => exact List.cons_ne_nil _ _
  | star _ => exact List.cons_ne_nil _ _
  | escape _ _ => exact hprepend _ _
  | plain _ _ => exact hprepend _ _

theorem decodeAssertion_ne_nil {cs : List Char} : decodeAssertion cs ≠ some [] :=
  fun h => (decodes_of_decodeAssertion h).ne_nil rfl

/-- **A value goes in front of what follows it.** -/
theorem decodeAssertion_append {cs : List Char} {b : Bytes} (h : decodeAssertion cs = some [b])
    (cs' : List Char) :
    decodeAssertion (cs ++ cs') = (decodeAssertion cs').map (prepend b) := by
  have hdecodes := decodes_of_decodeAssertion h
  clear h
  generalize hparts : [b] = parts at hdecodes
  induction hdecodes generalizing b with
  | nil =>
    cases hparts
    rw [List.nil_append]
    cases hcs' : decodeAssertion cs' with
    | none => rfl
    | some parts =>
      cases parts with
      | nil => exact absurd hcs' decodeAssertion_ne_nil
      | cons part parts => rfl
  | star hdecodes _ =>
    obtain ⟨-, rfl⟩ := List.cons.inj hparts
    exact absurd rfl hdecodes.ne_nil
  | escape hoctet hdecodes ih =>
    obtain ⟨b', rfl, rfl⟩ := eq_singleton_of_prepend hdecodes.ne_nil hparts.symm
    rw [List.cons_append, List.cons_append, List.cons_append, decodeAssertion_escape, hoctet,
      Option.bind_some, ih rfl, Option.map_map]
    exact congrArg (Option.map · _) (funext fun parts => prepend_prepend _ _ _)
  | plain hplain hdecodes ih =>
    obtain ⟨b', rfl, rfl⟩ := eq_singleton_of_prepend hdecodes.ne_nil hparts.symm
    rw [List.cons_append, decodeAssertion_plain hplain, ih rfl, Option.map_map]
    exact congrArg (Option.map · _) (funext fun parts => prepend_prepend _ _ _)

/-- **Text without special characters stands for its octets.** -/
theorem decodeAssertion_of_plain {cs : List Char} (h : ∀ c ∈ cs, isSpecial c = false) :
    decodeAssertion cs = some [utf8 cs] := by
  induction cs with
  | nil => rfl
  | cons c cs ih =>
    rw [decodeAssertion_plain (h c List.mem_cons_self),
      ih fun d hd => h d (List.mem_cons_of_mem _ hd)]
    rfl

/-- **Only such text does**: an escape stands for fewer octets than it is
written with. -/
theorem plain_or_shorter {cs : List Char} {b : Bytes} (h : decodeAssertion cs = some [b]) :
    (∀ c ∈ cs, isSpecial c = false) ∧ b = utf8 cs ∨ b.length < (utf8 cs).length := by
  have hdecodes := decodes_of_decodeAssertion h
  clear h
  generalize hparts : [b] = parts at hdecodes
  induction hdecodes generalizing b with
  | nil =>
    cases hparts
    exact Or.inl ⟨fun c hc => (by cases hc), rfl⟩
  | star hdecodes _ =>
    obtain ⟨-, rfl⟩ := List.cons.inj hparts
    exact absurd rfl hdecodes.ne_nil
  | @escape a d octet cs _ _ hdecodes ih =>
    obtain ⟨b', rfl, rfl⟩ := eq_singleton_of_prepend hdecodes.ne_nil hparts.symm
    -- one octet for three characters
    have hle : b'.length ≤ (utf8 cs).length := by
      rcases ih rfl with ⟨-, rfl⟩ | hlt
      · exact Nat.le_refl _
      · exact Nat.le_of_lt hlt
    have hthree := length_le_length_utf8 ['\\', a, d]
    have hsplit : utf8 ('\\' :: a :: d :: cs) = utf8 ['\\', a, d] ++ utf8 cs :=
      utf8_append ['\\', a, d] cs
    rw [hsplit, List.length_append]
    simp only [List.length_cons, List.length_nil, List.length_append] at hthree ⊢
    exact Or.inr (by omega)
  | plain hplain hdecodes ih =>
    obtain ⟨b', rfl, rfl⟩ := eq_singleton_of_prepend hdecodes.ne_nil hparts.symm
    rw [utf8_cons]
    rcases ih rfl with ⟨hall, rfl⟩ | hlt
    · exact Or.inl ⟨List.forall_mem_cons.2 ⟨hplain, hall⟩, rfl⟩
    · rw [List.length_append, List.length_append]
      exact Or.inr (by omega)

/-- Text stands for its own octets when it has no special character. -/
theorem decodeAssertion_self_iff {cs : List Char} :
    decodeAssertion cs = some [utf8 cs] ↔ ∀ c ∈ cs, isSpecial c = false := by
  refine ⟨fun h => ?_, decodeAssertion_of_plain⟩
  rcases plain_or_shorter h with ⟨hplain, -⟩ | hlt
  · exact hplain
  · exact absurd hlt (Nat.lt_irrefl _)

/-- What begins a text and stands for it is the text. -/
theorem eq_of_prefix_of_decodeAssertion {v cs : List Char} (hbegins : v <+: cs)
    (h : decodeAssertion v = some [utf8 cs]) : v = cs := by
  rcases plain_or_shorter h with ⟨-, hutf8⟩ | hlt
  · exact (utf8_injective hutf8).symm
  · obtain ⟨rest, rfl⟩ := hbegins
    rw [utf8_append, List.length_append] at hlt
    omega

/-- No parenthesis stands in an assertion. -/
theorem no_paren_of_decodeAssertion {cs : List Char} {parts : List Bytes}
    (h : decodeAssertion cs = some parts) : '(' ∉ cs ∧ ')' ∉ cs := by
  have hdecodes := decodes_of_decodeAssertion h
  clear h
  induction hdecodes with
  | nil => exact ⟨List.not_mem_nil, List.not_mem_nil⟩
  | star _ ih =>
    obtain ⟨ho, hc⟩ := ih
    simp [ho, hc]
  | @escape a d _ _ _ hoctet _ ih =>
    obtain ⟨ho, hc⟩ := ih
    -- neither is a digit
    have hne : ∀ e, (hexDigit? e).isSome = true → '(' ≠ e ∧ ')' ≠ e := by
      intro e he
      refine ⟨?_, ?_⟩ <;> rintro rfl <;> exact absurd he (by decide)
    obtain ⟨hi, hhi, hlo⟩ := Option.bind_eq_some_iff.1 hoctet
    obtain ⟨lo, hlo, -⟩ := Option.bind_eq_some_iff.1 hlo
    have ha := hne a (by rw [hhi]; rfl)
    have hd := hne d (by rw [hlo]; rfl)
    simp [ho, hc, ha, hd]
  | @plain c _ _ hplain _ ih =>
    obtain ⟨ho, hc⟩ := ih
    have hco : '(' ≠ c := by rintro rfl; cases hplain
    have hcc : ')' ≠ c := by rintro rfl; cases hplain
    simp [ho, hc, hco, hcc]

end Rfc4515

end WazoDird
