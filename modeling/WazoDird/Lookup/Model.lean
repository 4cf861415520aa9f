import WazoDird.Common.Executor.Wait
import WazoDird.Reverse.Model
import WazoDird.Services.BaseService

/-!
# Lookup

`_LookupService.lookup`: a task for each source of the profile, given to
the executor of the service, which all its requests share, and one wait
for all of them, which the profile may give a timeout. A source that
raises answers nothing. Requests come and go in any order, and so do the
answers of the sources.
-/

namespace WazoDird

namespace LookupService

variable {σ ε ρ : Type}

/-- **A lookup**: what it is called with, and what the source manager
answers it for each source of the profile. -/
structure LookupCall (σ : Type) where
  profile : ProfileInfo
  term : String
  userUuid : Option Uuid
  token : Option String
  manager : Uuid → Option σ

/-- What a source is asked. -/
structure SearchTask (σ : Type) where
  source : σ
  term : String
  args : SourceArgs

namespace LookupCall

variable (call : LookupCall σ)

/-- The `args` of the call. -/
def args : SourceArgs := .ofRequest call.token call.userUuid

/-- The sources it asks. -/
def sources : List σ := BaseService.sourceFromProfile call.manager call.profile "lookup"

/-- `_async_search`, for each of them. -/
def tasks : List (SearchTask σ) :=
  call.sources.map fun source => ⟨source, call.term, call.args⟩

/-- Whether it waits with a timeout: none and zero are no timeout. -/
def timed : Bool :=
  (BaseService.timeoutOption (BaseService.getServiceConfig call.profile "lookup")).truthy

end LookupCall

/-- What a source may do when it is searched: it raises, or returns
results. -/
abbrev Searches (σ ε ρ : Type) := σ → String → SourceArgs → Except ε (List ρ) → Prop

variable (searches : Searches σ ε ρ)

/-- `_timed_search`: a source that raises has found nothing. -/
def Found (source : σ) (call : LookupCall σ) (results : List ρ) : Prop :=
  ∃ answer, searches source call.term call.args answer ∧
    results = RaiseStopper.execute [] answer

/-- The outcome of a task. -/
def outcome (task : SearchTask σ) (results : List ρ) : Prop :=
  ∃ answer, searches task.source task.term task.args answer ∧
    results = RaiseStopper.execute [] answer

/-- A request: its task list, its futures, and where it is. -/
abbrev Request (σ ρ : Type) :=
  Job (SearchTask σ) (List ρ) (LookupCall σ × WaitPhase (List ρ))

/-- **A step of the service**: a request comes, is given to the workers, or
is answered. -/
abbrev Step (workers : ℕ) :
    List (Request σ ρ) → ExecutorEvent → List (Request σ ρ) → Prop :=
  ExecutorStep workers (outcome searches) (waitRule LookupCall.tasks LookupCall.timed)

/-- **A request is answered with some results**: those of the futures that
were done, one after the other. -/
def Answered (request : Request σ ρ) (call : LookupCall σ) (results : List ρ) : Prop :=
  ∃ done, request.caller = (call, .answered done) ∧ results = done.flatten

end LookupService

end WazoDird
