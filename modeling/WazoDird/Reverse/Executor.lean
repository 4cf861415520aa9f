import WazoDird.Common.Executor.AsCompleted
import WazoDird.Reverse.Positional
import WazoDird.Services.BaseService

/-!
# Reverse lookups, and the executor they share

`reverse` and `reverse_many` of the reverse service: a task for each
source of the profile, all given to one executor, and a loop over the
futures as they complete, with a timeout always. A loop that has what it
was looking for, or that is cut, has what is left in the queue cancelled.
-/

namespace WazoDird

namespace ReverseService

variable {σ ε ρ : Type}

/-- What is looked up: an extension, or several at once. -/
inductive Asked where
  | exten (exten : String)
  | extens (extens : List String)
  deriving DecidableEq, Repr

/-- **A reverse lookup**: what it is called with, and what the source
manager answers it for each source of the profile. -/
structure ReverseCall (σ : Type) where
  profile : ProfileInfo
  asked : Asked
  userUuid : Option Uuid
  token : Option String
  manager : Uuid → Option σ

/-- What a source is asked. -/
structure ReverseTask (σ : Type) where
  source : σ
  asked : Asked
  args : SourceArgs

namespace ReverseCall

variable (call : ReverseCall σ)

/-- The `args` of the call. -/
def args : SourceArgs := .ofRequest call.token call.userUuid

/-- The sources it asks. -/
def sources : List σ := BaseService.sourceFromProfile call.manager call.profile "reverse"

/-- `_async_reverse` or `_async_reverse_many`, for each of them. -/
def tasks : List (ReverseTask σ) :=
  call.sources.map fun source => ⟨source, call.asked, call.args⟩

end ReverseCall

/-- What the sources may do: raise, or return what they matched. -/
structure Sources (σ ε ρ : Type) where
  firstMatch : σ → String → SourceArgs → Except ε (Option ρ) → Prop
  matchAll : σ → List String → SourceArgs → MatchAll ε ρ → Prop

/-- What the future of a source holds: nothing when it raised. -/
inductive Matched (ρ : Type) where
  | one (result : Option ρ)
  | many (result : Option (Dict String ρ))

/-- The outcome of a task. -/
inductive Outcome (sources : Sources σ ε ρ) : ReverseTask σ → Matched ρ → Prop
  | firstMatch {source exten args answer} (h : sources.firstMatch source exten args answer) :
      Outcome sources ⟨source, .exten exten, args⟩ (.one (RaiseStopper.execute none answer))
  | matchAll {source extens args answer} (h : sources.matchAll source extens args answer) :
      Outcome sources ⟨source, .extens extens, args⟩ (.many (asyncReverseMany answer))

/-- What a loop has made so far. -/
inductive Made (ρ : Type) where
  | result (result : Option ρ)
  | results (results : Dict String (Option ρ))

/-- The body of the loop of `reverse`: the first result there is ends it. -/
def reverseTurn (made : Option ρ) : Option ρ → Option ρ × Bool
  | some result => (some result, true)
  | none => (made, false)

/-- The body of the loop of `reverse_many`: it merges, and ends once every
extension has a result. -/
def reverseManyTurn (results : Dict String (Option ρ)) (answer : Option (Dict String ρ)) :
    Dict String (Option ρ) × Bool :=
  match answer.filter (fun result => !result.isEmpty) with
  | none => (results, false)
  | some result =>
    let results := results.update (result.map some)
    (results, allMatched results)

/-- The loop of a call. The futures of a call hold what it asked for. -/
def loopBody (ρ : Type) (call : ReverseCall σ) : LoopBody (Matched ρ) (Made ρ) where
  start :=
    match call.asked with
    | .exten _ => .result none
    | .extens extens => .results (noResults ρ extens)
  turn
    | .result made, .one answer => ((reverseTurn made answer).map .result id)
    | .results made, .many answer => ((reverseManyTurn made answer).map .results id)
    | made, _ => (made, false)

/-- A request: its tasks, its futures, and where it is. -/
abbrev Request (σ ρ : Type) :=
  Job (ReverseTask σ) (Matched ρ) (ReverseCall σ × LoopPhase (Made ρ))

/-- **A step of the service**: a request of either kind comes, is given to
the workers, or goes on. -/
abbrev Step (sources : Sources σ ε ρ) (workers : ℕ) :
    List (Request σ ρ) → ExecutorEvent → List (Request σ ρ) → Prop :=
  ExecutorStep workers (Outcome sources) (loopRule ReverseCall.tasks (loopBody ρ))

end ReverseService

end WazoDird
