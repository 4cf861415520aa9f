import Mathlib.Data.Rat.Defs

/-!
# Dynamic values

The values of a dynamically typed program, as its documents carry them:
none, booleans, numbers, text, lists and dictionaries keyed by text.
Equality is decided by the one structural recursion the type needs, and
the truth value is the language's: none, zero and everything empty are
false.
-/

namespace WazoDird

/-- What an operation of the language raises. -/
inductive PyError where
  | attributeError
  | typeError
  | valueError
  | keyError
  | indexError
  | unboundLocalError
  deriving DecidableEq, Repr

/-- **A dynamic value.** A dictionary is the list of its entries, in
insertion order. -/
inductive Value where
  /-- The absent value. -/
  | none
  | bool (b : Bool)
  | int (n : Int)
  /-- A number with a fractional part, by its value. -/
  | float (q : Rat)
  | str (s : String)
  | list (l : List Value)
  | dict (l : List (String × Value))
  deriving Repr, Inhabited

namespace Value

mutual

/-- Equality of values is decidable. -/
def decEq : (a b : Value) → Decidable (a = b)
  | .none, .none => isTrue rfl
  | .bool a, .bool b => decidable_of_iff (a = b) (by simp)
  | .int a, .int b => decidable_of_iff (a = b) (by simp)
  | .float a, .float b => decidable_of_iff (a = b) (by simp)
  | .str a, .str b => decidable_of_iff (a = b) (by simp)
  | .list a, .list b =>
      match decEqList a b with
      | isTrue h => isTrue (by rw [h])
      | isFalse h => isFalse (by simpa using h)
  | .dict a, .dict b =>
      match decEqEntries a b with
      | isTrue h => isTrue (by rw [h])
      | isFalse h => isFalse (by simpa using h)
  | .none, .bool _ | .none, .int _ | .none, .float _ | .none, .str _ | .none, .list _
  | .none, .dict _ | .bool _, .none | .bool _, .int _ | .bool _, .float _ | .bool _, .str _
  | .bool _, .list _ | .bool _, .dict _ | .int _, .none | .int _, .bool _ | .int _, .float _
  | .int _, .str _ | .int _, .list _ | .int _, .dict _ | .float _, .none | .float _, .bool _
  | .float _, .int _ | .float _, .str _ | .float _, .list _ | .float _, .dict _
  | .str _, .none | .str _, .bool _ | .str _, .int _ | .str _, .float _ | .str _, .list _
  | .str _, .dict _ | .list _, .none | .list _, .bool _ | .list _, .int _ | .list _, .float _
  | .list _, .str _ | .list _, .dict _ | .dict _, .none | .dict _, .bool _ | .dict _, .int _
  | .dict _, .float _ | .dict _, .str _ | .dict _, .list _ => isFalse (by simp)

/-- Equality of lists of values is decidable. -/
def decEqList : (a b : List Value) → Decidable (a = b)
  | [], [] => isTrue rfl
  | [], _ :: _ | _ :: _, [] => isFalse (by simp)
  | x :: a, y :: b =>
      match decEq x y, decEqList a b with
      | isTrue h, isTrue h' => isTrue (by rw [h, h'])
      | isFalse h, _ => isFalse (by simp [h])
      | _, isFalse h' => isFalse (by simp [h'])

/-- Equality of entries is decidable. -/
def decEqEntries : (a b : List (String × Value)) → Decidable (a = b)
  | [], [] => isTrue rfl
  | [], _ :: _ | _ :: _, [] => isFalse (by simp)
  | (k, x) :: a, (k', y) :: b =>
      match (inferInstance : Decidable (k = k')), decEq x y, decEqEntries a b with
      | isTrue h, isTrue h', isTrue h'' => isTrue (by rw [h, h', h''])
      | isFalse h, _, _ => isFalse (by simp [h])
      | _, isFalse h', _ => isFalse (by simp [h'])
      | _, _, isFalse h'' => isFalse (by simp [h''])

end

instance : DecidableEq Value := decEq

/-- The truth value: none, zero and everything empty are false. -/
def truthy : Value → Bool
  | .none => false
  | .bool b => b
  | .int n => n ≠ 0
  | .float q => q ≠ 0
  | .str s => s ≠ ""
  | .list l => !l.isEmpty
  | .dict l => !l.isEmpty

/-- `v or w`. -/
def or (v w : Value) : Value := if v.truthy then v else w

/-- `v.get(key)`, of a dictionary. -/
def get (v : Value) (key : String) : Except PyError Value :=
  match v with
  | .dict l => .ok (((l.find? (·.1 = key)).map Prod.snd).getD .none)
  | _ => .error .attributeError

/-- `v[key]`, of a dictionary. -/
def item (v : Value) (key : String) : Except PyError Value :=
  match v with
  | .dict l =>
    match l.find? (·.1 = key) with
    | Option.none => .error .keyError
    | some entry => .ok entry.2
  | _ => .error .typeError

/-- `iter(v)`: what a loop over the value goes through. -/
def iter : Value → Except PyError (List Value)
  | .list l => .ok l
  | .dict l => .ok (l.map fun entry => .str entry.1)
  | .str s => .ok (s.toList.map fun c => .str c.toString)
  | _ => .error .typeError

/-- `v.lower()`, of a text. -/
def lower (lower : String → String) : Value → Except PyError String
  | .str s => .ok (lower s)
  | _ => .error .attributeError

/-- `isinstance(v, str)`, with the text. -/
def asStr? : Value → Option String
  | .str s => some s
  | _ => Option.none

example : decide (Value.dict [("a", .list [.int 1])] = .dict [("a", .list [.int 1])]) = true := by
  decide

end Value

end WazoDird
