import Mathlib.Data.List.Basic
import Mathlib.Data.List.Induction
import Mathlib.Tactic.IntervalCases

/-!
# Octets

Strings of octets: text in UTF-8, and octets and numbers in hexadecimal,
both ways.
-/

namespace WazoDird

/-- A string of octets. -/
abbrev Bytes := List UInt8

/-- `s.encode('utf-8')`. -/
def utf8 (cs : List Char) : Bytes := cs.flatMap String.utf8EncodeChar

/-- `b.decode('utf-8')`, none where it raises. -/
def decodeUtf8 (b : Bytes) : Option String := String.fromUTF8? b.toByteArray

@[simp] theorem utf8_nil : utf8 [] = [] := rfl

@[simp] theorem utf8_cons (c : Char) (cs : List Char) :
    utf8 (c :: cs) = String.utf8EncodeChar c ++ utf8 cs := rfl

@[simp] theorem utf8_append (cs cs' : List Char) : utf8 (cs ++ cs') = utf8 cs ++ utf8 cs' :=
  List.flatMap_append

/-- A character takes at least one octet. -/
theorem length_le_length_utf8 (cs : List Char) : cs.length ≤ (utf8 cs).length := by
  induction cs with
  | nil => exact Nat.le_refl 0
  | cons c cs ih =>
    have hpos : 0 < (String.utf8EncodeChar c).length :=
      List.length_pos_of_ne_nil String.utf8EncodeChar_ne_nil
    rw [utf8_cons, List.length_append, List.length_cons]
    omega

theorem toByteArray_utf8 (cs : List Char) :
    (utf8 cs).toByteArray = (String.ofList cs).toByteArray := by
  rw [String.toByteArray_ofList]
  rfl

/-- **Text reads back.** -/
theorem decodeUtf8_utf8 (s : String) : decodeUtf8 (utf8 s.toList) = some s := by
  have hbytes : (utf8 s.toList).toByteArray = s.toByteArray := by
    rw [toByteArray_utf8, String.ofList_toList]
  rw [decodeUtf8, hbytes, String.fromUTF8?, dif_pos s.isValidUTF8]
  rfl

/-- What is read as a text is that text, encoded. -/
theorem eq_utf8_of_decodeUtf8 {b : Bytes} {s : String} (h : decodeUtf8 b = some s) :
    b = utf8 s.toList := by
  rw [decodeUtf8, String.fromUTF8?] at h
  split at h
  · rw [← List.toByteArray_inj, toByteArray_utf8, String.ofList_toList, ← Option.some.inj h]
    rfl
  · cases h

/-- Texts of the same octets are the same. -/
theorem utf8_injective {cs cs' : List Char} (h : utf8 cs = utf8 cs') : cs = cs' := by
  have hdecode := decodeUtf8_utf8 (String.ofList cs)
  rw [String.toList_ofList, h] at hdecode
  have hdecode' := decodeUtf8_utf8 (String.ofList cs')
  rw [String.toList_ofList, hdecode] at hdecode'
  exact (String.ofList_inj.1 (Option.some.inj hdecode'))

/-! ## Hexadecimal -/

/-- The value of a hexadecimal digit. -/
def hexDigit? (c : Char) : Option ℕ :=
  if '0' ≤ c ∧ c ≤ '9' then some (c.toNat - '0'.toNat)
  else if 'a' ≤ c ∧ c ≤ 'f' then some (c.toNat - 'a'.toNat + 10)
  else if 'A' ≤ c ∧ c ≤ 'F' then some (c.toNat - 'A'.toNat + 10)
  else none

/-- The octet of two hexadecimal digits. -/
def hexOctet? (a b : Char) : Option UInt8 := do
  let hi ← hexDigit? a
  let lo ← hexDigit? b
  return UInt8.ofNat (16 * hi + lo)

/-- A number below sixteen as a digit. -/
def hexDigit (n : ℕ) : Char := Char.ofNat (if n < 10 then '0'.toNat + n else 'a'.toNat + (n - 10))

/-- An octet as its two digits. -/
def hexPair (octet : UInt8) : List Char := [hexDigit (octet.toNat / 16), hexDigit (octet.toNat % 16)]

/-- Octets as their digits. -/
def hex (b : Bytes) : List Char := b.flatMap hexPair

@[simp] theorem hex_nil : hex [] = [] := rfl

@[simp] theorem hex_cons (octet : UInt8) (b : Bytes) : hex (octet :: b) = hexPair octet ++ hex b :=
  rfl

/-- A digit is read back. -/
theorem hexDigit?_hexDigit {n : ℕ} (h : n < 16) : hexDigit? (hexDigit n) = some n := by
  interval_cases n <;> rfl

/-- An octet is read back. -/
theorem hexOctet?_hexPair (octet : UInt8) :
    hexOctet? (hexDigit (octet.toNat / 16)) (hexDigit (octet.toNat % 16)) = some octet := by
  have hlt := octet.toNat_lt
  rw [hexOctet?, hexDigit?_hexDigit (by omega), hexDigit?_hexDigit (Nat.mod_lt _ (by omega))]
  show some (UInt8.ofNat (16 * (octet.toNat / 16) + octet.toNat % 16)) = some octet
  rw [Nat.div_add_mod, UInt8.ofNat_toNat]

theorem length_hex (b : Bytes) : (hex b).length = 2 * b.length := by
  induction b with
  | nil => rfl
  | cons octet b ih =>
    rw [hex_cons, List.length_append, ih, List.length_cons, hexPair]
    simp only [List.length_cons, List.length_nil]
    omega

/-- Every digit is one. -/
theorem isSome_of_mem_hex {b : Bytes} {c : Char} (h : c ∈ hex b) :
    ∃ n < 16, c = hexDigit n := by
  obtain ⟨octet, -, hc⟩ := List.mem_flatMap.1 h
  have hlt := octet.toNat_lt
  rcases List.mem_pair.1 hc with rfl | rfl
  · exact ⟨octet.toNat / 16, by omega, rfl⟩
  · exact ⟨octet.toNat % 16, Nat.mod_lt _ (by omega), rfl⟩

/-- The number octets are, the first one highest. -/
def ofBytes (b : Bytes) : ℕ := b.foldl (fun n octet => 256 * n + octet.toNat) 0

/-- A number as so many octets. -/
def toBytes : ℕ → ℕ → Bytes
  | 0, _ => []
  | k + 1, n => toBytes k (n / 256) ++ [UInt8.ofNat n]

/-- **Octets are read back from their number.** -/
theorem toBytes_ofBytes (b : Bytes) : toBytes b.length (ofBytes b) = b := by
  induction b using List.reverseRecOn with
  | nil => rfl
  | append_singleton b octet ih =>
    have hlt := octet.toNat_lt
    have hnum : ofBytes (b ++ [octet]) = 256 * ofBytes b + octet.toNat := by
      rw [ofBytes, List.foldl_append]
      rfl
    have hdiv : (256 * ofBytes b + octet.toNat) / 256 = ofBytes b := by omega
    have hoctet : UInt8.ofNat (256 * ofBytes b + octet.toNat) = octet := by
      rw [← UInt8.toNat_inj, UInt8.toNat_ofNat']
      omega
    rw [List.length_append, List.length_singleton, toBytes, hnum, hdiv, hoctet, ih]

end WazoDird
