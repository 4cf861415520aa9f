import Mathlib.Data.Set.Function
import WazoDird.Common.DictHeap
import WazoDird.Database.Queries.PersonalContactCRUD

/-!
# The hash of a contact

`compute_contact_hash` on the dictionary it is given: it makes one of its
own, takes the id out of that, and hashes what it is written as. Two
contacts of texts hash alike exactly when they are the same but for their
ids: the text of a dictionary is written by ascending key, and no other
has it, quotes and separators being escaped.
-/

namespace WazoDird

namespace Encoding

variable (enc : Encoding)

/-- The text that is hashed. -/
def stringRepresentation (body : ContactBody) : String :=
  Json.dumps enc.floats (.dict (body.erase "id").entries)

/-- **`compute_contact_hash`**, on the dictionary of a reference. -/
def computeContactHashOf (heap : DictHeap String Value) (contactInfo : ℕ) :
    Option (String × DictHeap String Value) := do
  let info ← heap.get? contactInfo
  let (d, heap) := heap.alloc info
  let heap := heap.update d (·.erase "id")
  let body ← heap.get? d
  return (enc.sha1 (Json.dumps enc.floats (.dict body.entries)), heap)

variable {enc} {heap : DictHeap String Value} {r r' : ℕ} {body : ContactBody}
  {info info' : TextInfo}

/-- **The hash of a dictionary** is that of its names and values, and the
dictionaries there were are as they were. -/
theorem computeContactHashOf_eq (enc : Encoding) (h : heap.get? r = some body) :
    ∃ heap', enc.computeContactHashOf heap r = some (enc.computeContactHash body, heap') ∧
      heap.Keeps heap' := by
  refine ⟨_, ?_, heap.keeps_update_alloc body (·.erase "id")⟩
  simp only [computeContactHashOf, h, Option.bind_eq_bind, Option.bind_some,
    DictHeap.get?_update_self, DictHeap.get?_alloc_self, Option.map_some]
  rfl

/-- What a contact of texts has when its id is out. -/
theorem get?_erase_body (info : TextInfo) (k : String) :
    (info.body.erase "id").get? k = ((info.erase "id").get? k).map .str := by
  rw [TextInfo.body, Dict.get?_erase, Dict.get?_erase, Dict.get?_map]
  split <;> rfl

/-- **The text that is hashed is that of one contact**, but for its id. -/
theorem stringRepresentation_eq_iff (enc : Encoding) :
    enc.stringRepresentation info.body = enc.stringRepresentation info'.body ↔
      (info.erase "id").Same (info'.erase "id") := by
  have hstr : Function.Injective (Option.map Value.str) :=
    Option.map_injective fun _ _ h => Value.str.inj h
  constructor
  · intro h
    have htexts : ∀ e ∈ (info.body.erase "id").entries, ∃ s, e.2 = .str s := by
      rintro ⟨k, v⟩ he
      have hget : (info.body.erase "id").get? k = some v := Dict.get?_eq_some_iff.2 he
      rw [get?_erase_body] at hget
      obtain ⟨s, -, rfl⟩ := Option.map_eq_some_iff.1 hget
      exact ⟨s, rfl⟩
    have hsame : (info.body.erase "id").Same (info'.body.erase "id") :=
      Json.perm_of_dumps_eq htexts h
    refine Dict.same_iff.2 fun k => hstr ?_
    rw [← get?_erase_body, ← get?_erase_body]
    exact Dict.same_iff.1 hsame k
  · intro h
    have hsame : (info.body.erase "id").Same (info'.body.erase "id") := by
      refine Dict.same_iff.2 fun k => ?_
      rw [get?_erase_body, get?_erase_body, Dict.same_iff.1 h k]
    exact Json.dumps_dict_congr (info.body.erase "id").nodup (hsame.map _)

/-- **`compute_contact_hash` identifies contacts**: of two dictionaries of
texts it gives the same hash exactly when they are the same but for their
ids, in whatever order, and it leaves them, and every other, as they
were. -/
theorem computeContactHashOf_identifies (hr : heap.get? r = some info.body)
    (hr' : heap.get? r' = some info'.body)
    (hsha1 : Set.InjOn enc.sha1
      {enc.stringRepresentation info.body, enc.stringRepresentation info'.body}) :
    ∃ hash hash' heap₁ heap₂, enc.computeContactHashOf heap r = some (hash, heap₁) ∧
      enc.computeContactHashOf heap₁ r' = some (hash', heap₂) ∧
      (hash = hash' ↔ (info.erase "id").Same (info'.erase "id")) ∧
      heap.Keeps heap₁ ∧ heap.Keeps heap₂ := by
  obtain ⟨heap₁, hrun, hkeeps⟩ := computeContactHashOf_eq enc hr
  obtain ⟨heap₂, hrun', hkeeps'⟩ := computeContactHashOf_eq enc (hkeeps r' _ hr')
  refine ⟨_, _, heap₁, heap₂, hrun, hrun', ?_, hkeeps, hkeeps.trans hkeeps'⟩
  rw [← stringRepresentation_eq_iff enc]
  exact hsha1.eq_iff (Set.mem_insert _ _) (Set.mem_insert_of_mem _ rfl)

/-- A contact, its names in an order of their own. -/
def oneContact : TextInfo := Dict.ofList [("id", "1"), ("lastname", "S"), ("firstname", "A")]

/-- Another, with a quote for a name. -/
def otherContact : TextInfo := Dict.ofList [("lastname", "\""), ("firstname", "A"), ("id", "1")]

/-- An encoding that knows the digests of the two. -/
def twoDigests : Encoding :=
  { plain with
    sha1 := fun text =>
      if text = "\x7b\"firstname\": \"A\", \"lastname\": \"S\"\x7d" then
        "a976bb4d06f2684a98a71d387d95d3ee25507de0"
      else if text = "\x7b\"firstname\": \"A\", \"lastname\": \"\\\"\"\x7d" then
        "9460ee4f0a0677c790c7822047a218b890b2286d"
      else text }

theorem injOn_twoDigests : Set.InjOn twoDigests.sha1
    {twoDigests.stringRepresentation oneContact.body,
      twoDigests.stringRepresentation otherContact.body} := by
  have hne : twoDigests.sha1 (twoDigests.stringRepresentation oneContact.body) ≠
      twoDigests.sha1 (twoDigests.stringRepresentation otherContact.body) := by decide
  rintro _ (rfl | rfl) _ (rfl | rfl) h
  · rfl
  · exact absurd h hne
  · exact absurd h.symm hne
  · rfl

/-- The two are told apart. -/
theorem computeContactHashOf_identifies_two :
    ∃ hash hash' heap₁ heap₂,
      twoDigests.computeContactHashOf ⟨[oneContact.body, otherContact.body]⟩ 0 =
        some (hash, heap₁) ∧
      twoDigests.computeContactHashOf heap₁ 1 = some (hash', heap₂) ∧
      (hash = hash' ↔ (oneContact.erase "id").Same (otherContact.erase "id")) ∧
      DictHeap.Keeps ⟨[oneContact.body, otherContact.body]⟩ heap₁ ∧
      DictHeap.Keeps ⟨[oneContact.body, otherContact.body]⟩ heap₂ :=
  computeContactHashOf_identifies rfl rfl injOn_twoDigests

end Encoding

end WazoDird
