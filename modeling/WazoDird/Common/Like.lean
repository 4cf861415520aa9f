import Mathlib.Data.List.Infix

/-!
# SQL's LIKE patterns

In a pattern `%` stands for any run of characters, `_` for any one, and
a backslash takes the character after it literally. A pattern that ends
in a lone backslash is refused by the server wherever the escape is
reached, so it matches no text: `like` is false on it.

`ilike` is the same match on both sides lowered. How the server lowers a
text belongs to its collation, so `lower` is a parameter. Put between two
`%`, a term without special characters asks that it be in the text
(`Lowering.ilike_contains`), and any other asks for something else
(`Lowering.exists_ilike_not_contains`).
-/

namespace WazoDird

/-- One element of a pattern. -/
inductive LikeToken where
  /-- `%`: any run of characters. -/
  | many
  /-- `_`: any one character. -/
  | one
  /-- A character that stands for itself. -/
  | lit (c : Char)
  deriving DecidableEq, Repr

/-- The elements of a pattern, or none when it ends in a lone escape. -/
def likeTokens : List Char → Option (List LikeToken)
  | [] => some []
  | '%' :: p => (likeTokens p).map (LikeToken.many :: ·)
  | '_' :: p => (likeTokens p).map (LikeToken.one :: ·)
  | ['\\'] => none
  | '\\' :: c :: p => (likeTokens p).map (LikeToken.lit c :: ·)
  | c :: p => (likeTokens p).map (LikeToken.lit c :: ·)

/-- Whether the elements of a pattern describe the whole of a text. -/
def likeMatch : List LikeToken → List Char → Bool
  | [], t => t.isEmpty
  | .lit c :: p, t => match t with
    | [] => false
    | d :: t => c = d && likeMatch p t
  | .one :: p, t => match t with
    | [] => false
    | _ :: t => likeMatch p t
  | .many :: p, t => t.tails.any (likeMatch p)

/-- **`text LIKE pattern`.** -/
def like (pattern text : String) : Bool :=
  match likeTokens pattern.toList with
  | none => false
  | some p => likeMatch p text.toList

/-- **`text ILIKE pattern`**, under the collation's `lower`. -/
def ilike (lower : String → String) (pattern text : String) : Bool :=
  like (lower pattern) (lower text)

/-- A character the pattern language gives a meaning to. -/
def isLikeSpecial (c : Char) : Bool := c = '%' || c = '_' || c = '\\'

theorem likeTokens_cons_of_plain {c : Char} {p : List Char} (h : isLikeSpecial c = false) :
    likeTokens (c :: p) = (likeTokens p).map (LikeToken.lit c :: ·) := by
  simp only [isLikeSpecial, Bool.or_eq_false_iff, decide_eq_false_iff_not] at h
  obtain ⟨⟨hp, hu⟩, hb⟩ := h
  rw [likeTokens] <;> simp_all

/-- A text no character of which has a meaning in a pattern. -/
def PlainText (s : String) : Prop := ∀ c ∈ s.toList, isLikeSpecial c = false

instance (s : String) : Decidable (PlainText s) :=
  List.decidableBAll (fun c => isLikeSpecial c = false) s.toList

/-- Plain characters before a last `%`. -/
theorem likeTokens_append_many {p : List Char} (h : ∀ c ∈ p, isLikeSpecial c = false) :
    likeTokens (p ++ ['%']) = some (p.map LikeToken.lit ++ [.many]) := by
  induction p with
  | nil => rfl
  | cons c p ih =>
      rw [List.cons_append, likeTokens_cons_of_plain (h c List.mem_cons_self),
        ih fun d hd => h d (List.mem_cons_of_mem _ hd)]
      rfl

/-- A run of any length describes what the rest describes the end of. -/
theorem likeMatch_many {p : List LikeToken} {t : List Char} :
    likeMatch (.many :: p) t = true ↔ ∃ s, s <:+ t ∧ likeMatch p s = true := by
  simp [likeMatch, List.any_eq_true, List.mem_tails]

/-- Literal elements before a last `%` describe what starts with them. -/
theorem likeMatch_lit_many (p t : List Char) :
    likeMatch (p.map LikeToken.lit ++ [.many]) t = true ↔ p <+: t := by
  induction p generalizing t with
  | nil =>
      rw [List.map_nil, List.nil_append, likeMatch_many]
      exact iff_of_true ⟨[], List.nil_suffix, rfl⟩ List.nil_prefix
  | cons c p ih =>
      cases t with
      | nil => simp [likeMatch]
      | cons d t =>
          rw [List.map_cons, List.cons_append, List.cons_prefix_cons, ← ih]
          simp [likeMatch]

/-- **Between two `%`, a plain text describes the texts it stands in.** -/
theorem likeMatch_contains (p t : List Char) :
    likeMatch (.many :: (p.map LikeToken.lit ++ [.many])) t = true ↔ p <:+: t := by
  rw [likeMatch_many, List.infix_iff_prefix_suffix]
  simp only [likeMatch_lit_many]
  exact ⟨fun ⟨s, hs, hp⟩ => ⟨s, hp, hs⟩, fun ⟨s, hp, hs⟩ => ⟨s, hs, hp⟩⟩

/-- A text that a pattern before a last `%` describes: nothing for each
run of characters, `x` for any one, and what is escaped. -/
def likeSample (x : Char) : List Char → List Char
  | [] => []
  | '%' :: p => likeSample x p
  | '_' :: p => x :: likeSample x p
  | ['\\'] => ['%']
  | '\\' :: c :: p => c :: likeSample x p
  | c :: p => c :: likeSample x p

/-- The sample is one. -/
theorem likeMatch_sample (x : Char) (p : List Char) :
    ∃ tokens, likeTokens (p ++ ['%']) = some tokens ∧ likeMatch tokens (likeSample x p) = true := by
  induction p using likeSample.induct with
  | case1 => exact ⟨[.many], rfl, rfl⟩
  | case2 p ih =>
      obtain ⟨tokens, htokens, hmatch⟩ := ih
      refine ⟨.many :: tokens, ?_, likeMatch_many.2 ⟨_, List.suffix_rfl, hmatch⟩⟩
      rw [List.cons_append, likeTokens, htokens]
      rfl
  | case3 p ih =>
      obtain ⟨tokens, htokens, hmatch⟩ := ih
      refine ⟨.one :: tokens, ?_, hmatch⟩
      rw [List.cons_append, likeTokens, htokens]
      rfl
  | case4 => exact ⟨[.lit '%'], rfl, rfl⟩
  | case5 c p ih =>
      obtain ⟨tokens, htokens, hmatch⟩ := ih
      refine ⟨.lit c :: tokens, ?_, ?_⟩
      · rw [List.cons_append, List.cons_append, likeTokens, htokens]
        rfl
      · rw [likeSample]
        simp [likeMatch, hmatch]
  | case6 c p hmany hone hlast hescape ih =>
      obtain ⟨tokens, htokens, hmatch⟩ := ih
      have hplain : isLikeSpecial c = false := by
        simp only [isLikeSpecial, Bool.or_eq_false_iff, decide_eq_false_iff_not]
        refine ⟨⟨hmany, hone⟩, fun hc => ?_⟩
        cases p with
        | nil => exact hlast hc rfl
        | cons d p => exact hescape d p hc rfl
      refine ⟨.lit c :: tokens, ?_, ?_⟩
      · rw [List.cons_append, likeTokens_cons_of_plain hplain, htokens]
        rfl
      · rw [likeSample]
        · simp [likeMatch, hmatch]
        · exact hmany
        · exact hone
        · exact hlast
        · exact hescape

/-- The sample is no longer than the pattern. -/
theorem length_likeSample_le (x : Char) (p : List Char) :
    (likeSample x p).length ≤ p.length := by
  fun_induction likeSample x p with
  | case1 => exact Nat.le_refl _
  | case2 p ih => exact Nat.le_succ_of_le ih
  | case3 p ih => exact Nat.succ_le_succ ih
  | case4 => exact Nat.le_refl _
  | case5 c p ih => exact Nat.le_succ_of_le (Nat.succ_le_succ ih)
  | case6 c p _ _ _ _ ih => exact Nat.succ_le_succ ih

/-- **Only a plain text is its own sample.** -/
theorem plain_of_likeSample_eq {x : Char} (hx : x ≠ '_') {p : List Char}
    (h : likeSample x p = p) : ∀ c ∈ p, isLikeSpecial c = false := by
  fun_induction likeSample x p with
  | case1 => exact fun c hc => by cases hc
  | case2 p ih =>
      have hle := length_likeSample_le x p
      rw [h, List.length_cons] at hle
      omega
  | case3 p ih => exact absurd (List.cons.inj h).1 hx
  | case4 => simp at h
  | case5 c p ih =>
      have hle := length_likeSample_le x p
      have hlen := congrArg List.length h
      simp only [List.length_cons] at hlen
      omega
  | case6 c p hmany hone hlast hescape ih =>
      intro d hd
      rcases List.mem_cons.1 hd with rfl | hd
      · simp only [isLikeSpecial, Bool.or_eq_false_iff, decide_eq_false_iff_not]
        refine ⟨⟨hmany, hone⟩, fun hc => ?_⟩
        cases p with
        | nil => exact hlast hc rfl
        | cons d p => exact hescape d p hc rfl
      · exact ih (List.cons.inj h).2 d hd

/-- What the sample is made of. -/
theorem mem_likeSample {x c : Char} {p : List Char} (h : c ∈ likeSample x p) :
    c ∈ p ∨ c = '%' ∨ c = x := by
  fun_induction likeSample x p with
  | case1 => cases h
  | case2 p ih => exact (ih h).imp_left (List.mem_cons_of_mem _)
  | case3 p ih =>
      rcases List.mem_cons.1 h with rfl | h
      · exact Or.inr (Or.inr rfl)
      · exact (ih h).imp_left (List.mem_cons_of_mem _)
  | case4 => exact Or.inr (Or.inl (List.mem_singleton.1 h))
  | case5 d p ih =>
      rcases List.mem_cons.1 h with rfl | h
      · exact Or.inl (List.mem_cons_of_mem _ List.mem_cons_self)
      · exact (ih h).imp_left fun h => List.mem_cons_of_mem _ (List.mem_cons_of_mem _ h)
  | case6 d p _ _ _ _ ih =>
      rcases List.mem_cons.1 h with rfl | h
      · exact Or.inl List.mem_cons_self
      · exact (ih h).imp_left (List.mem_cons_of_mem _)

/-! ## Whatever the case -/

/-- **A lowering of texts**, character by character, under which a
character with a meaning in patterns is its own, and that of no other. -/
structure Lowering where
  char : Char → Char
  special : ∀ c, isLikeSpecial c = true ∨ isLikeSpecial (char c) = true → char c = c

namespace Lowering

variable (l : Lowering) {term text : String}

/-- The text lowered. -/
def lower (s : String) : String := String.ofList (s.toList.map l.char)

@[simp] theorem toList_lower (s : String) : (l.lower s).toList = s.toList.map l.char :=
  String.toList_ofList

/-- **The term stands in the text**, whatever the case. -/
def Contains (term text : String) : Prop := (l.lower term).toList <:+: (l.lower text).toList

instance : Decidable (l.Contains term text) :=
  inferInstanceAs (Decidable ((l.lower term).toList <:+: (l.lower text).toList))

/-- A character has a meaning lowered exactly when it has one. -/
theorem isLikeSpecial_char (c : Char) : isLikeSpecial (l.char c) = isLikeSpecial c := by
  cases hc : isLikeSpecial c with
  | true => rw [l.special c (Or.inl hc), hc]
  | false =>
      cases hl : isLikeSpecial (l.char c) with
      | false => rfl
      | true =>
          rw [l.special c (Or.inr hl), hc] at hl
          exact hl.symm

/-- The pattern around a term, lowered. -/
theorem toList_lower_around :
    (l.lower ("%" ++ term ++ "%")).toList = '%' :: (term.toList.map l.char ++ ['%']) := by
  have hmany : l.char '%' = '%' := l.special '%' (Or.inl rfl)
  simp [hmany]

/-- **Around a plain term the pattern asks that the term be in the text.** -/
theorem ilike_contains (h : PlainText term) :
    ilike l.lower ("%" ++ term ++ "%") text = true ↔ l.Contains term text := by
  have hplain : ∀ c ∈ term.toList.map l.char, isLikeSpecial c = false := by
    intro c hc
    obtain ⟨d, hd, rfl⟩ := List.mem_map.1 hc
    rw [isLikeSpecial_char]
    exact h d hd
  rw [ilike, like, toList_lower_around, likeTokens, likeTokens_append_many hplain, Option.map_some,
    Contains, toList_lower, toList_lower]
  exact likeMatch_contains _ _

/-- What stands in a plain text is plain. -/
theorem Contains.plainText {l : Lowering} (h : l.Contains term text) (htext : PlainText text) :
    PlainText term := by
  intro c hc
  have hin : l.char c ∈ (l.lower text).toList := by
    refine h.subset ?_
    rw [toList_lower]
    exact List.mem_map_of_mem hc
  rw [toList_lower] at hin
  obtain ⟨d, hd, hdc⟩ := List.mem_map.1 hin
  rw [← l.isLikeSpecial_char, ← hdc, l.isLikeSpecial_char]
  exact htext d hd

/-- Lowered characters are those of some text. -/
theorem exists_map_char {p : Char → Prop} {t : List Char} (h : ∀ d ∈ t, ∃ c, p c ∧ l.char c = d) :
    ∃ s : List Char, (∀ c ∈ s, p c) ∧ s.map l.char = t := by
  induction t with
  | nil => exact ⟨[], fun c hc => (List.not_mem_nil hc).elim, rfl⟩
  | cons d t ih =>
      obtain ⟨c, hc, hcd⟩ := h d List.mem_cons_self
      obtain ⟨s, hs, hst⟩ := ih fun e he => h e (List.mem_cons_of_mem _ he)
      refine ⟨c :: s, fun e he => ?_, by rw [List.map_cons, hcd, hst]⟩
      rcases List.mem_cons.1 he with rfl | he
      · exact hc
      · exact hs e he

/-- **Around any other term it asks for something else**: some text of the
term's characters, and of `%` and `a`, meets it without the term in it. -/
theorem exists_ilike_not_contains (h : ¬ PlainText term) :
    ∃ text, ilike l.lower ("%" ++ term ++ "%") text = true ∧ ¬ l.Contains term text ∧
      ∀ c ∈ text.toList, c ∈ term.toList ∨ c = '%' ∨ c = 'a' := by
  let p := term.toList.map l.char
  have hx : l.char 'a' ≠ '_' := by
    intro hc
    have ha := l.special 'a' (Or.inr (by rw [hc]; rfl))
    rw [hc] at ha
    exact absurd ha (by decide)
  obtain ⟨s, hs, hsp⟩ := l.exists_map_char (p := fun c => c ∈ term.toList ∨ c = '%' ∨ c = 'a')
    (t := likeSample (l.char 'a') p) fun d hd => by
      rcases mem_likeSample hd with hd | rfl | rfl
      · obtain ⟨c, hc, rfl⟩ := List.mem_map.1 hd
        exact ⟨c, Or.inl hc, rfl⟩
      · exact ⟨'%', Or.inr (Or.inl rfl), l.special '%' (Or.inl rfl)⟩
      · exact ⟨'a', Or.inr (Or.inr rfl), rfl⟩
  have htext : (l.lower (String.ofList s)).toList = likeSample (l.char 'a') p := by
    rw [toList_lower, String.toList_ofList, hsp]
  refine ⟨String.ofList s, ?_, fun hin => h fun c hc => ?_, fun c hc => ?_⟩
  · obtain ⟨tokens, htokens, hmatch⟩ := likeMatch_sample (l.char 'a') p
    rw [ilike, like, toList_lower_around, likeTokens, htokens, htext]
    exact likeMatch_many.2 ⟨_, List.suffix_rfl, hmatch⟩
  · -- as long as the term at most, the sample has it only as a whole
    rw [Contains, htext, toList_lower] at hin
    have heq := hin.eq_of_length_le (length_likeSample_le (l.char 'a') p)
    have hplain := plain_of_likeSample_eq hx heq.symm (l.char c) (List.mem_map_of_mem hc)
    rwa [isLikeSpecial_char] at hplain
  · rw [String.toList_ofList] at hc
    exact hs c hc

/-- The number of a character with a meaning in patterns. -/
theorem toNat_of_isLikeSpecial {c : Char} (h : isLikeSpecial c = true) :
    c.toNat = 37 ∨ c.toNat = 95 ∨ c.toNat = 92 := by
  simp only [isLikeSpecial, Bool.or_eq_true, decide_eq_true_eq] at h
  rcases h with (rfl | rfl) | rfl
  · exact Or.inl rfl
  · exact Or.inr (Or.inl rfl)
  · exact Or.inr (Or.inr rfl)

/-- The lowering of ASCII letters alone. -/
def ascii : Lowering where
  char := Char.toLower
  special c hc := by
    unfold Char.toLower at hc ⊢
    split at hc
    · next hup =>
      -- neither a letter nor its lower case has a meaning
      have hlow : 65 ≤ c.toNat := UInt32.le_iff_toNat_le.1 hup.1
      have hhigh : c.toNat ≤ 90 := UInt32.le_iff_toNat_le.1 hup.2
      have hval : (c.val + ('a'.val - 'A'.val)).toNat = c.toNat + 32 := by
        rw [UInt32.toNat_add]
        exact Nat.mod_eq_of_lt (by show c.toNat + 32 < 2 ^ 32; omega)
      rcases hc with hc | hc
      · have hnat := toNat_of_isLikeSpecial hc
        omega
      · have hnat := toNat_of_isLikeSpecial hc
        change (c.val + ('a'.val - 'A'.val)).toNat = 37 ∨ (c.val + ('a'.val - 'A'.val)).toNat = 95 ∨
          (c.val + ('a'.val - 'A'.val)).toNat = 92 at hnat
        omega
    · next hup => rw [dif_neg hup]

end Lowering

example : like "1%" "1234" = true := by decide
example : like "1\\%" "1234" = false := by decide

end WazoDird
