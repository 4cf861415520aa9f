import WazoDird.Lookup.Model

/-!
# What a lookup answers

A request meets the others in the executor alone, so its answer is made of
what its own sources found, and of what all of them found when it has no
timeout (`lookup_answers`). No request waits for ever, and a search that a
timeout left behind is run to its end all the same (`lookup_ends`).
-/

namespace WazoDird

namespace LookupService

variable {σ ε ρ : Type} {searches : Searches σ ε ρ} {workers : ℕ} {l : List ExecutorEvent}
  {requests : List (Request σ ρ)} {request : Request σ ρ} {call : LookupCall σ} {results : List ρ}

/-- **The answer of a lookup**, whatever other requests the service has:
what some of the sources of its profile found of its term, one after the
other, each source asked once and with the request's own arguments; and
what all of them found when the profile gives no timeout. A source that
raised found nothing, and takes nothing from the others. -/
theorem lookup_answers (h : Run (Step searches workers) [] l requests) (hr : request ∈ requests)
    (ha : Answered request call results) :
    ∃ asked : List (σ × List ρ), results = asked.flatMap Prod.snd ∧
      (asked.map Prod.fst).Subperm call.sources ∧
      (∀ p ∈ asked, Found searches p.1 call p.2) ∧
      (call.timed = false → (asked.map Prod.fst).Perm call.sources) := by
  obtain ⟨done, hcaller, rfl⟩ := ha
  obtain ⟨outcomes, rfl, hsub, hout, hall⟩ := wait_answered h hr hcaller
  obtain ⟨asked, hsnd, hsources, hasked, hperm⟩ :=
    exists_asked (g := SearchTask.source) (fun _ => rfl) hsub
  refine ⟨asked, ?_, hsources, fun p hp => hout _ (hasked p hp), fun ht => hperm (hall ht)⟩
  rw [← hsnd, List.flatMap_def]

/-- A profile of two sources, looked up without a timeout. -/
def twoSourcesLookup (term : String) : LookupCall ℕ where
  profile :=
    { uuid := "p", tenantUuid := "t", name := "default", display := none
      services := Dict.ofList [("lookup",
        ⟨∅, [⟨"s", "t", "csv", some "people"⟩, ⟨"r", "t", "ldap", some "staff"⟩]⟩)] }
  term := term
  userUuid := some "u"
  token := some "token"
  manager := fun uuid => some (if uuid = "s" then 0 else 1)

/-- The first source finds what it is asked, and the second raises. -/
def firstFinds : Searches ℕ Unit String := fun source term _ answer =>
  answer = if source = 0 then .ok [term] else .error ()

/-- Two requests come, and each submits its tasks while the worker has a
search of the other; the second is answered first. -/
theorem run_twoLookups :
    Run (Step firstFinds 1) []
      ([.call, .call] ++ [1, 0, 1, 1, 1, 0, 0, 0, 1, 1, 1, 1, 1, 1, 0, 0, 0, 0, 0, 0].map .move)
      [⟨(twoSourcesLookup "ada").tasks, [.finished ["ada"], .finished []],
          (twoSourcesLookup "ada", .answered [["ada"], []])⟩,
        ⟨(twoSourcesLookup "bob").tasks, [.finished ["bob"], .finished []],
          (twoSourcesLookup "bob", .answered [["bob"], []])⟩] := by
  refine .cons (.call ⟨twoSourcesLookup "ada", rfl, rfl⟩) ?_
  refine .cons (.call ⟨twoSourcesLookup "bob", rfl, rfl⟩) ?_
  refine .cons (.move (k := 1) rfl (.submit (by decide)) (by decide)) ?_
  refine .cons (.move (k := 0) rfl (.submit (by decide)) (by decide)) ?_
  refine .cons (.move (k := 1) rfl (.start (i := 0) rfl) (by decide)) ?_
  refine .cons (.move (k := 1) rfl (.submit (by decide)) (by decide)) ?_
  refine .cons (.move (k := 1) rfl (.finish (i := 0) rfl rfl ⟨_, rfl, rfl⟩) (by decide)) ?_
  refine .cons (.move (k := 0) rfl (.start (i := 0) rfl) (by decide)) ?_
  refine .cons (.move (k := 0) rfl (.submit (by decide)) (by decide)) ?_
  refine .cons (.move (k := 0) rfl (.finish (i := 0) rfl rfl ⟨_, rfl, rfl⟩) (by decide)) ?_
  refine .cons (.move (k := 1) rfl (.start (i := 1) rfl) (by decide)) ?_
  refine .cons (.move (k := 1) rfl (.finish (i := 1) rfl rfl ⟨_, rfl, rfl⟩) (by decide)) ?_
  refine .cons (.move (k := 1) rfl (.proceed rfl
    (WaitStep.allDone (by decide) (List.Perm.refl _))) (by decide)) ?_
  refine .cons (.move (k := 1) rfl (.proceed rfl (WaitStep.found rfl)) (by decide)) ?_
  refine .cons (.move (k := 1) rfl (.proceed rfl (WaitStep.found rfl)) (by decide)) ?_
  refine .cons (.move (k := 1) rfl (.proceed rfl
    (WaitStep.answer (List.Perm.swap _ _ _))) (by decide)) ?_
  refine .cons (.move (k := 0) rfl (.start (i := 1) rfl) (by decide)) ?_
  refine .cons (.move (k := 0) rfl (.finish (i := 1) rfl rfl ⟨_, rfl, rfl⟩) (by decide)) ?_
  refine .cons (.move (k := 0) rfl (.proceed rfl
    (WaitStep.allDone (by decide) (List.Perm.refl _))) (by decide)) ?_
  refine .cons (.move (k := 0) rfl (.proceed rfl (WaitStep.found rfl)) (by decide)) ?_
  refine .cons (.move (k := 0) rfl (.proceed rfl (WaitStep.found rfl)) (by decide)) ?_
  exact .cons (.move (k := 0) rfl (.proceed rfl
    (WaitStep.answer (List.Perm.swap _ _ _))) (by decide)) (.nil _)

/-- The second is answered with what its own source found of its own term;
its source that raised takes nothing from it. -/
theorem lookup_answers_twoLookups : ∃ asked : List (ℕ × List String),
    ["bob"] = asked.flatMap Prod.snd ∧
      (asked.map Prod.fst).Subperm (twoSourcesLookup "bob").sources ∧
      (∀ p ∈ asked, Found firstFinds p.1 (twoSourcesLookup "bob") p.2) ∧
      ((twoSourcesLookup "bob").timed = false →
        (asked.map Prod.fst).Perm (twoSourcesLookup "bob").sources) :=
  lookup_answers run_twoLookups (List.mem_cons_of_mem _ List.mem_cons_self) ⟨_, rfl, rfl⟩

/-- **Every lookup is answered.** Once no request comes any more the
service takes a bounded number of steps, and when it can take no further
one every request it had is answered and every one of its sources has been
searched to the end: a lookup cut by its timeout cancels nothing. -/
theorem lookup_ends (hw : 0 < workers)
    (hs : ∀ source term args, ∃ answer, searches source term args answer)
    (h : Run (Step searches workers) [] l requests) :
    ∃ bound, ∀ l' (requests' : List (Request σ ρ)),
      Run (Step searches workers) requests l' requests' → .call ∉ l' →
      l'.length ≤ bound ∧
      requests'.map (fun request => request.caller.1) =
        requests.map (fun request => request.caller.1) ∧
      ((∀ k next, ¬ Step searches workers requests' (.move k) next) →
        ∀ request ∈ requests', (∃ results, Answered request request.caller.1 results) ∧
          ∀ i < request.caller.1.sources.length, ∃ results,
            request.futures[i]? = some (.finished results)) := by
  have hout : ∀ task : SearchTask σ, ∃ found, outcome searches task found := by
    intro task
    obtain ⟨answer, hanswer⟩ := hs task.source task.term task.args
    exact ⟨_, answer, hanswer, rfl⟩
  obtain ⟨bound, hbound⟩ := wait_ends hw hout h
  refine ⟨bound, fun l' requests' hrun hl => ?_⟩
  obtain ⟨hlen, hcalls, hall⟩ := hbound l' requests' hrun hl
  refine ⟨hlen, hcalls, fun hmax request hr => ?_⟩
  obtain ⟨⟨done, hdone⟩, hfinished⟩ := hall hmax request hr
  refine ⟨⟨_, done, hdone, rfl⟩, ?_⟩
  rwa [LookupCall.tasks, List.length_map] at hfinished

/-- Of two requests that have just come, whatever the steps are. -/
theorem lookup_ends_twoLookups : ∃ bound, ∀ l' (requests' : List (Request ℕ String)),
    Run (Step firstFinds 1)
      [⟨(twoSourcesLookup "ada").tasks, [], (twoSourcesLookup "ada", .waiting)⟩,
        ⟨(twoSourcesLookup "bob").tasks, [], (twoSourcesLookup "bob", .waiting)⟩] l' requests' →
    .call ∉ l' → l'.length ≤ bound ∧
      requests'.map (fun request => request.caller.1) =
        [twoSourcesLookup "ada", twoSourcesLookup "bob"] ∧
      ((∀ k next, ¬ Step firstFinds 1 requests' (.move k) next) →
        ∀ request ∈ requests', (∃ results, Answered request request.caller.1 results) ∧
          ∀ i < request.caller.1.sources.length, ∃ results,
            request.futures[i]? = some (.finished results)) :=
  lookup_ends Nat.zero_lt_one
    (show ∀ source term args, ∃ answer, firstFinds source term args answer from
      fun _ _ _ => ⟨_, rfl⟩)
    (.cons (.call ⟨twoSourcesLookup "ada", rfl, rfl⟩)
      (.cons (.call ⟨twoSourcesLookup "bob", rfl, rfl⟩) (.nil _)))

end LookupService

end WazoDird
