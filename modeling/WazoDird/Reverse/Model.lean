import WazoDird.Common.Dict

/-!
# Reverse lookup of many extensions

`reverse_many` of the reverse service: each source looks all the
extensions up at once, on a thread of its own, and the answers are merged
as they come. How they come is the executor's: `completed` is the list of
the sources whose futures `as_completed` yields, in its order, until the
last one or until the timeout cuts it.
-/

namespace WazoDird

variable {ε ρ α : Type}

/-- `RaiseStopper.execute`: what the function returns, or the fallback
when it raises. -/
def RaiseStopper.execute (returnOnRaise : α) : Except ε α → α
  | .ok a => a
  | .error _ => returnOnRaise

/-- What `match_all` of a source does: it raises, or returns the result of
each extension it matched. -/
abbrev MatchAll (ε ρ : Type) := Except ε (Dict String ρ)

namespace ReverseService

/-- `_async_reverse_many`: the result of the source's future, none when
`match_all` raised. -/
def asyncReverseMany (matchAll : MatchAll ε ρ) : Option (Dict String ρ) :=
  RaiseStopper.execute none (matchAll.map some)

/-- Every extension has a result: `all(result is not None …)`. -/
def allMatched (results : Dict String (Option ρ)) : Bool := results.values.all Option.isSome

/-- The loop over `as_completed`: the merged results, and the futures it
came to before it stopped. An answer that is none or empty is passed
over; once every extension has a result the others are not waited for. -/
def collect (results : Dict String (Option ρ)) :
    List (MatchAll ε ρ) → Dict String (Option ρ) × List (MatchAll ε ρ)
  | [] => (results, [])
  | future :: futures =>
    match (asyncReverseMany future).filter (fun result => !result.isEmpty) with
    | none =>
      let (results, consumed) := collect results futures
      (results, future :: consumed)
    | some result =>
      let results := results.update (result.map some)
      if allMatched results then (results, [future])
      else
        let (results, consumed) := collect results futures
        (results, future :: consumed)

/-- `{exten: None for exten in extens}`. -/
def noResults (ρ : Type) (extens : List String) : Dict String (Option ρ) :=
  Dict.ofList (extens.map fun exten => (exten, none))

/-- `reverse_many`, with the futures its loop came to. -/
def reverseMany (extens : List String) (sources : List (MatchAll ε ρ))
    (completed : List (Fin sources.length)) : List (Option ρ) × List (MatchAll ε ρ) :=
  let (results, consumed) := collect (noResults ρ extens) (completed.map sources.get)
  (results.values, consumed)

end ReverseService

/-- A source answered an extension with a result. -/
def Answered (consumed : List (MatchAll ε ρ)) (exten : String) (r : ρ) : Prop :=
  ∃ result, Except.ok result ∈ consumed ∧ result.get? exten = some r

/-- **The answer is positional**: one entry for each extension, in their
order, which is none exactly when no source consulted matched the
extension, and otherwise a match of one. -/
def Positional (extens : List String) (consumed : List (MatchAll ε ρ))
    (answer : List (Option ρ)) : Prop :=
  answer.length = extens.length ∧
    ∀ i (hi : i < extens.length) (ha : i < answer.length),
      (answer[i] = none ↔ ∀ r, ¬ Answered consumed extens[i] r) ∧
      ∀ r, answer[i] = some r → Answered consumed extens[i] r

end WazoDird
