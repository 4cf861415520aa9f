import WazoDird.Reverse.Executor

/-!
# What a reverse lookup answers

The lookups of a service meet in its executor alone. Each is answered
with what its loop makes of what its own sources matched, in the order
they completed (`reverse_answers`, `reverseMany_answers`), and leaves
nothing in the queue; each is answered (`reverse_ends`).
-/

namespace WazoDird

namespace ReverseService

variable {σ ε ρ : Type} {sources : Sources σ ε ρ} {workers : ℕ} {l : List ExecutorEvent}
  {requests : List (Request σ ρ)} {request : Request σ ρ} {call : ReverseCall σ} {how : LoopEnd}
  {exten : String} {extens : List String}

/-- A list whose elements are all made of something. -/
theorem exists_map_eq {α β : Type*} {f : β → α} {P : β → Prop} {l : List α}
    (h : ∀ a ∈ l, ∃ b, a = f b ∧ P b) : ∃ l' : List β, l = l'.map f ∧ ∀ b ∈ l', P b := by
  induction l with
  | nil => exact ⟨[], rfl, fun _ h => absurd h List.not_mem_nil⟩
  | cons a l ih =>
      rw [List.forall_mem_cons] at h
      obtain ⟨⟨b, rfl, hb⟩, hl⟩ := h
      obtain ⟨l', rfl, hl'⟩ := ih hl
      exact ⟨b :: l', rfl, List.forall_mem_cons.2 ⟨hb, hl'⟩⟩

/-! ## The loops -/

/-- **The loop of `reverse`** is left at the first result. -/
theorem run_reverse (h : call.asked = .exten exten) (answers : List (Option ρ)) :
    (loopBody ρ call).run (answers.map .one) =
      (.result (answers.findSome? id), (answers.findSome? id).isSome) := by
  have hstart : (loopBody ρ call).start = .result none := by rw [loopBody, h]
  rw [LoopBody.run, hstart]
  induction answers with
  | nil => rfl
  | cons answer answers ih =>
      cases answer with
      | none => exact ih
      | some result => rfl

/-- **The loop of `reverse_many`** is `collect`, and it is left before the
last answer only when every extension has a result. -/
theorem runFrom_reverseMany (results : Dict String (Option ρ)) (answers : List (MatchAll ε ρ)) :
    ∃ left, (loopBody ρ call).runFrom (.results results)
        (answers.map fun answer => .many (asyncReverseMany answer)) =
          (.results (collect results answers).1, left) ∧
      (left = false → (collect results answers).2 = answers) ∧
      (left = true → allMatched (collect results answers).1 = true) := by
  induction answers generalizing results with
  | nil => exact ⟨false, rfl, fun _ => rfl, fun h => by cases h⟩
  | cons answer answers ih =>
      rw [List.map_cons, LoopBody.runFrom, collect]
      have hturn : (loopBody ρ call).turn (.results results) (.many (asyncReverseMany answer)) =
          ((reverseManyTurn results (asyncReverseMany answer)).map .results id) := rfl
      rw [hturn, reverseManyTurn]
      cases hfilter : (asyncReverseMany answer).filter (fun result => !result.isEmpty) with
      | none =>
          obtain ⟨left, hrun, hall, hleft⟩ := ih results
          exact ⟨left, hrun, fun h => congrArg (answer :: ·) (hall h), hleft⟩
      | some result =>
          dsimp only [Prod.map, id]
          by_cases hmatched : allMatched (results.update (result.map some)) = true
          · rw [if_pos hmatched, if_pos hmatched]
            exact ⟨_, rfl, fun h => absurd hmatched (by simp [h]), fun _ => hmatched⟩
          · rw [if_neg hmatched, if_neg hmatched]
            obtain ⟨left, hrun, hall, hleft⟩ := ih (results.update (result.map some))
            exact ⟨left, hrun, fun h => congrArg (answer :: ·) (hall h), hleft⟩

/-- **The results of the loop stand where the extensions do**, when none is
asked for twice. -/
theorem positional_collect {answers : List (MatchAll ε ρ)} (hnodup : extens.Nodup)
    (hsub : ∀ result, Except.ok result ∈ answers → ∀ k ∈ result.keys, k ∈ extens) :
    Positional extens (collect (noResults ρ extens) answers).2
      (collect (noResults ρ extens) answers).1.values := by
  obtain ⟨-, hmem, hkeep⟩ := @keys_noResults ρ extens
  have hspec := fun e => collect_spec (e := e) fun result hresult k hk =>
    (hmem k).2 (hsub result hresult k hk)
  have hkeys := (hspec "").1.trans (hkeep hnodup)
  refine ⟨by rw [Dict.length_values, hkeys], fun i hi ha => ?_⟩
  have hentry := Dict.get?_getElem_keys _ (i := i) (by rw [hkeys]; exact hi) ha
  simp only [hkeys] at hentry
  have hholds := (hspec extens[i]).2
  have hstart := get?_noResults (ρ := ρ) (List.getElem_mem hi)
  constructor
  · have hnone := hholds.none_iff
    rw [hentry, hstart] at hnone
    simpa using hnone
  · intro r hr
    refine (hholds.some_of r (hentry.trans (congrArg some hr))).resolve_left fun h => ?_
    rw [hstart] at h
    cases h

/-! ## The answers -/

/-- `reverse` has returned. -/
def ReverseAnswered (request : Request σ ρ) (call : ReverseCall σ) (how : LoopEnd)
    (result : Option ρ) : Prop :=
  request.caller = (call, .answered how (.result result))

/-- `reverse_many` has returned. -/
def ReverseManyAnswered (request : Request σ ρ) (call : ReverseCall σ) (how : LoopEnd)
    (answer : List (Option ρ)) : Prop :=
  ∃ results, request.caller = (call, .answered how (.results results)) ∧ answer = results.values

/-- **The answer of `reverse`**, whatever other lookups the service has: the
first result there is among those of some sources of the profile, each
asked once and with the request's own arguments, in the order they
completed. Its loop is left exactly when there is one; when it runs to its
end every source was heard. Nothing of it is left in the queue. -/
theorem reverse_answers {result : Option ρ} (h : Run (Step sources workers) [] l requests)
    (hr : request ∈ requests) (hasked : call.asked = .exten exten)
    (ha : ReverseAnswered request call how result) :
    (∀ f ∈ request.futures, f ≠ .pending) ∧
      ∃ asked : List (σ × Except ε (Option ρ)),
        result = asked.findSome? (fun p => RaiseStopper.execute none p.2) ∧
        (asked.map Prod.fst).Subperm call.sources ∧
        (∀ p ∈ asked, sources.firstMatch p.1 exten call.args p.2) ∧
        (how = .left ↔ result.isSome) ∧
        (how = .exhausted → (asked.map Prod.fst).Perm call.sources) := by
  obtain ⟨hqueue, outcomes, hrun, hsub, hout, hall⟩ := loop_answered h hr ha
  obtain ⟨heard, hsnd, hsources, hheard, hperm⟩ :=
    exists_asked (g := ReverseTask.source) (fun _ => rfl) hsub
  have hanswer : ∀ p ∈ heard, ∃ q : σ × Except ε (Option ρ),
      p = (q.1, .one (RaiseStopper.execute none q.2)) ∧
        sources.firstMatch q.1 exten call.args q.2 := by
    intro p hp
    obtain ⟨source, matched⟩ := p
    have ho := hout _ (hheard _ hp)
    dsimp only at ho
    rw [hasked] at ho
    cases ho with
    | firstMatch hmatch => exact ⟨(source, _), rfl, hmatch⟩
  obtain ⟨asked, rfl, hmatch⟩ := exists_map_eq hanswer
  have hfst : (asked.map fun q => (q.1, Matched.one (RaiseStopper.execute none q.2))).map Prod.fst =
      asked.map Prod.fst := by simp [Function.comp_def]
  have hloop : outcomes.map Prod.snd =
      (asked.map fun q => RaiseStopper.execute none q.2).map .one := by
    rw [← hsnd]
    simp [Function.comp_def]
  rw [hloop, run_reverse hasked, Prod.mk.injEq] at hrun
  obtain ⟨hmade, hleft⟩ := hrun
  obtain rfl := Made.result.inj hmade
  refine ⟨hqueue, asked, ?_, hfst ▸ hsources, hmatch, ?_, fun hend => hfst ▸ hperm (hall hend)⟩
  · rw [List.findSome?_map, Function.id_comp]
  · rw [hleft, decide_eq_true_eq]

/-- A reverse lookup over a profile of two sources. -/
def twoSources (asked : Asked) : ReverseCall Uuid where
  profile :=
    { uuid := "p", tenantUuid := "t", name := "default", display := none
      services := Dict.ofList [("reverse", ⟨∅, [⟨"s", "t", "csv", some "people"⟩,
        ⟨"s'", "t", "ldap", some "staff"⟩]⟩)] }
  asked := asked
  userUuid := some "u"
  token := some "token"
  manager := some

/-- Sources that match every extension, each with its name. -/
def matchAny : Sources Uuid Unit String where
  firstMatch source _ _ answer := answer = .ok (some source)
  matchAll source extens _ answer :=
    answer = .ok (Dict.ofList (extens.map fun exten => (exten, source)))

/-- One worker: the first source answers all that was asked, so the second
is never asked. -/
theorem run_twoSources {asked : Asked} {matched : Matched String} {made : Made String}
    (hout : Outcome matchAny ⟨"s", asked, .ofRequest (some "token") (some "u")⟩ matched)
    (hturn : (loopBody String (twoSources asked)).turn
      (loopBody String (twoSources asked)).start matched = (made, true)) :
    Run (Step matchAny 1) []
      [.call, .move 0, .move 0, .move 0, .move 0, .move 0, .move 0, .move 0, .move 0]
      [⟨(twoSources asked).tasks, [.finished matched, .cancelled],
        (twoSources asked, .answered .left made)⟩] := by
  refine .cons (.call ⟨twoSources asked, rfl, rfl⟩) ?_
  refine .cons (.move (k := 0) rfl (.submit (Nat.le_of_ble_eq_true rfl))
    (Nat.le_of_ble_eq_true rfl)) ?_
  refine .cons (.move (k := 0) rfl (.submit (Nat.le_of_ble_eq_true rfl))
    (Nat.le_of_ble_eq_true rfl)) ?_
  refine .cons (.move (k := 0) rfl (.start (i := 0) rfl) (Nat.le_of_ble_eq_true rfl)) ?_
  refine .cons (.move (k := 0) rfl (.finish (i := 0) rfl rfl hout) (Nat.le_of_ble_eq_true rfl)) ?_
  refine .cons (.move (k := 0) rfl (.proceed rfl
    (LoopStep.leave (i := 0) List.not_mem_nil rfl hturn)) (Nat.le_of_ble_eq_true rfl)) ?_
  refine .cons (.move (k := 0) rfl (.proceed rfl LoopStep.cancel) (Nat.le_of_ble_eq_true rfl)) ?_
  refine .cons (.move (k := 0) rfl (.proceed rfl LoopStep.cancel) (Nat.le_of_ble_eq_true rfl)) ?_
  exact .cons (.move (k := 0) rfl (.proceed rfl LoopStep.answer)
    (Nat.le_of_ble_eq_true rfl)) (.nil _)

/-- The lookup of one extension is left at the first source's match. -/
theorem reverse_answers_twoSources :
    (∀ f ∈ [Future.finished (Matched.one (some "s")), .cancelled], f ≠ .pending) ∧
      ∃ asked : List (Uuid × Except Unit (Option String)),
        some "s" = asked.findSome? (fun p => RaiseStopper.execute none p.2) ∧
        (asked.map Prod.fst).Subperm (twoSources (.exten "1")).sources ∧
        (∀ p ∈ asked, matchAny.firstMatch p.1 "1" (twoSources (.exten "1")).args p.2) ∧
        (LoopEnd.left = .left ↔ (some "s").isSome) ∧
        (LoopEnd.left = .exhausted →
          (asked.map Prod.fst).Perm (twoSources (.exten "1")).sources) :=
  reverse_answers (run_twoSources (.firstMatch rfl) rfl) List.mem_cons_self rfl rfl

/-- **The answer of `reverse_many`**, whatever other lookups the service
has: one entry for each extension, made of what some sources of the
profile answered, and none only where none of them matched. Its loop is
left only once every extension has a result; when it runs to its end every
source was heard. Nothing of it is left in the queue. -/
theorem reverseMany_answers {answer : List (Option ρ)}
    (h : Run (Step sources workers) [] l requests) (hr : request ∈ requests)
    (hasked : call.asked = .extens extens) (hnodup : extens.Nodup)
    (hkeys : ∀ source args result, sources.matchAll source extens args (.ok result) →
      ∀ k ∈ result.keys, k ∈ extens)
    (ha : ReverseManyAnswered request call how answer) :
    (∀ f ∈ request.futures, f ≠ .pending) ∧
      ∃ asked : List (σ × MatchAll ε ρ),
        Positional extens (asked.map Prod.snd) answer ∧
        (asked.map Prod.fst).Subperm call.sources ∧
        (∀ p ∈ asked, sources.matchAll p.1 extens call.args p.2) ∧
        (how = .left → ∀ result ∈ answer, result.isSome) ∧
        (how = .exhausted → (asked.map Prod.fst).Perm call.sources) := by
  obtain ⟨results, hcaller, rfl⟩ := ha
  obtain ⟨hqueue, outcomes, hrun, hsub, hout, hall⟩ := loop_answered h hr hcaller
  obtain ⟨heard, hsnd, hsources, hheard, hperm⟩ :=
    exists_asked (g := ReverseTask.source) (fun _ => rfl) hsub
  have hanswer : ∀ p ∈ heard, ∃ q : σ × MatchAll ε ρ,
      p = (q.1, .many (asyncReverseMany q.2)) ∧ sources.matchAll q.1 extens call.args q.2 := by
    intro p hp
    obtain ⟨source, matched⟩ := p
    have ho := hout _ (hheard _ hp)
    dsimp only at ho
    rw [hasked] at ho
    cases ho with
    | matchAll hmatch => exact ⟨(source, _), rfl, hmatch⟩
  obtain ⟨asked, rfl, hmatch⟩ := exists_map_eq hanswer
  have hfst : (asked.map fun q => (q.1, Matched.many (asyncReverseMany q.2))).map Prod.fst =
      asked.map Prod.fst := by simp [Function.comp_def]
  have hloop : outcomes.map Prod.snd =
      (asked.map Prod.snd).map fun answer => .many (asyncReverseMany answer) := by
    rw [← hsnd]
    simp [Function.comp_def]
  have hstart : (loopBody ρ call).start = .results (noResults ρ extens) := by
    rw [loopBody, hasked]
  obtain ⟨left, hloopRun, hend, hmatched⟩ :=
    @runFrom_reverseMany _ _ _ call (noResults ρ extens) (asked.map Prod.snd)
  rw [hloop, LoopBody.run, hstart, hloopRun, Prod.mk.injEq] at hrun
  obtain ⟨hmade, rfl⟩ := hrun
  obtain rfl := Made.results.inj hmade
  -- the answers the loop came to before it was left
  obtain ⟨rest, hrest, -⟩ := @collect_stops ε ρ (noResults ρ extens) (asked.map Prod.snd)
  have htake : (asked.take (collect (noResults ρ extens) (asked.map Prod.snd)).2.length).map
      Prod.snd = (collect (noResults ρ extens) (asked.map Prod.snd)).2 := by
    rw [List.map_take]
    exact (List.prefix_iff_eq_take.1 ⟨rest, hrest.symm⟩).symm
  have hof : ∀ result, .ok result ∈ asked.map Prod.snd → ∀ k ∈ result.keys, k ∈ extens := by
    intro result hresult
    obtain ⟨p, hp, hpr⟩ := List.mem_map.1 hresult
    exact hkeys p.1 call.args result (hpr ▸ hmatch p hp)
  have hpositional := positional_collect hnodup hof
  refine ⟨hqueue, _, htake ▸ hpositional, ?_, fun p hp => hmatch p (List.mem_of_mem_take hp),
    fun hhow => ?_, fun hhow => ?_⟩
  · exact ((List.take_sublist _ asked).map Prod.fst).subperm.trans (hfst ▸ hsources)
  · exact List.all_eq_true.1 (hmatched (decide_eq_true hhow))
  · rw [hend (by rw [hhow]; rfl), List.length_map, List.take_length]
    exact hfst ▸ hperm (hall hhow)

/-- The lookup of two extensions is left once the first source has matched
both. -/
theorem reverseMany_answers_twoSources :
    (∀ f ∈ [Future.finished (Matched.many (some (Dict.ofList [("1", "s"), ("2", "s")]))),
        .cancelled], f ≠ .pending) ∧
      ∃ asked : List (Uuid × MatchAll Unit String),
        Positional ["1", "2"] (asked.map Prod.snd) [some "s", some "s"] ∧
        (asked.map Prod.fst).Subperm (twoSources (.extens ["1", "2"])).sources ∧
        (∀ p ∈ asked,
          matchAny.matchAll p.1 ["1", "2"] (twoSources (.extens ["1", "2"])).args p.2) ∧
        (LoopEnd.left = .left → ∀ result ∈ [some "s", some "s"], result.isSome) ∧
        (LoopEnd.left = .exhausted →
          (asked.map Prod.fst).Perm (twoSources (.extens ["1", "2"])).sources) := by
  have hkeys : ∀ source args result, matchAny.matchAll source ["1", "2"] args (.ok result) →
      ∀ k ∈ result.keys, k ∈ ["1", "2"] := by
    intro source args result hmatch k hk
    obtain rfl := Except.ok.inj hmatch
    simpa using Dict.mem_keys_ofList.1 hk
  have hrun := @run_twoSources (.extens ["1", "2"]) _
    (.results (Dict.ofList [("1", some "s"), ("2", some "s")])) (.matchAll rfl) rfl
  exact reverseMany_answers hrun List.mem_cons_self rfl (by decide) hkeys ⟨_, rfl, rfl⟩

/-- **Every reverse lookup is answered.** Once none comes any more the
service takes a bounded number of steps, and when it can take no further
one every lookup it had is answered, and every task it submitted for it
has finished or was cancelled. -/
theorem reverse_ends (hw : 0 < workers)
    (hfirst : ∀ source exten args, ∃ answer, sources.firstMatch source exten args answer)
    (hall : ∀ source extens args, ∃ answer, sources.matchAll source extens args answer)
    (h : Run (Step sources workers) [] l requests) :
    ∃ bound, ∀ l' (requests' : List (Request σ ρ)),
      Run (Step sources workers) requests l' requests' → .call ∉ l' →
      l'.length ≤ bound ∧
      requests'.map (fun request => request.caller.1) =
        requests.map (fun request => request.caller.1) ∧
      ((∀ k next, ¬ Step sources workers requests' (.move k) next) →
        ∀ request ∈ requests',
          (∃ how made, request.caller = (request.caller.1, .answered how made)) ∧
          request.futures.length = request.caller.1.sources.length ∧
          ∀ f ∈ request.futures, f.isDone = true) := by
  have hout : ∀ task : ReverseTask σ, ∃ matched, Outcome sources task matched := by
    intro task
    obtain ⟨source, asked, args⟩ := task
    cases asked with
    | exten exten => exact (hfirst source exten args).imp' _ fun _ h => .firstMatch h
    | extens extens => exact (hall source extens args).imp' _ fun _ h => .matchAll h
  obtain ⟨bound, hbound⟩ := loop_ends hw hout h
  refine ⟨bound, fun l' requests' hrun hl => ?_⟩
  obtain ⟨hlen, hcalls, hover⟩ := hbound l' requests' hrun hl
  refine ⟨hlen, hcalls, fun hmax request hr => ?_⟩
  obtain ⟨hans, hsubmitted, hdone⟩ := hover hmax request hr
  rw [ReverseCall.tasks, List.length_map] at hsubmitted
  exact ⟨hans, hsubmitted, hdone⟩

/-- Of a lookup of each kind that have just come, whatever the steps are. -/
theorem reverse_ends_twoSources : ∃ bound, ∀ l' (requests' : List (Request Uuid String)),
    Run (Step matchAny 1)
      [⟨(twoSources (.exten "1")).tasks, [],
          (twoSources (.exten "1"), .iterating [] (.result none))⟩,
        ⟨(twoSources (.extens ["1", "2"])).tasks, [],
          (twoSources (.extens ["1", "2"]), .iterating [] (.results (noResults _ ["1", "2"])))⟩]
      l' requests' →
    .call ∉ l' → l'.length ≤ bound ∧
      requests'.map (fun request => request.caller.1) =
        [twoSources (.exten "1"), twoSources (.extens ["1", "2"])] ∧
      ((∀ k next, ¬ Step matchAny 1 requests' (.move k) next) →
        ∀ request ∈ requests',
          (∃ how made, request.caller = (request.caller.1, .answered how made)) ∧
          request.futures.length = request.caller.1.sources.length ∧
          ∀ f ∈ request.futures, f.isDone = true) :=
  reverse_ends Nat.zero_lt_one
    (show ∀ source exten args, ∃ answer, matchAny.firstMatch source exten args answer from
      fun _ _ _ => ⟨_, rfl⟩)
    (show ∀ source extens args, ∃ answer, matchAny.matchAll source extens args answer from
      fun _ _ _ => ⟨_, rfl⟩)
    (.cons (.call ⟨twoSources (.exten "1"), rfl, rfl⟩)
      (.cons (.call ⟨twoSources (.extens ["1", "2"]), rfl, rfl⟩) (.nil _)))

end ReverseService

end WazoDird
