import WazoDird.Common.Executor.Pool
import WazoDird.Common.Table

/-!
# Looping over futures as they complete

`for future in concurrent.futures.as_completed(futures, timeout)`: the
body of the loop is given the result of each future once, as the futures
finish, and may leave the loop. A loop that is left, or cut by its
timeout, has the futures still in the queue cancelled, one after the
other, before its caller answers.
-/

namespace WazoDird

/-- How a loop ended: every future was seen, the body left it, or its
timeout passed. -/
inductive LoopEnd where
  | exhausted
  | left
  | timedOut
  deriving DecidableEq, Repr

/-- Where a caller is, with what its loop has made so far. -/
inductive LoopPhase (σ : Type*) where
  | iterating (seen : List ℕ) (made : σ)
  /-- It cancels its futures, those of a list being left. -/
  | cancelling (places : List ℕ) (how : LoopEnd) (made : σ)
  | answered (how : LoopEnd) (made : σ)

/-- **A loop**: what it starts from, and its body, which says as well
whether the loop is left. -/
structure LoopBody (ρ σ : Type*) where
  start : σ
  turn : σ → ρ → σ × Bool

variable {κ τ ρ σ : Type*} {tasks : κ → List τ} {body : κ → LoopBody ρ σ}

namespace LoopBody

/-- What a loop makes of some results, and whether it is left. -/
def runFrom (b : LoopBody ρ σ) : σ → List ρ → σ × Bool
  | made, [] => (made, false)
  | made, r :: rs =>
    if (b.turn made r).2 then b.turn made r else b.runFrom (b.turn made r).1 rs

/-- The same, from its start. -/
def run (b : LoopBody ρ σ) (rs : List ρ) : σ × Bool := b.runFrom b.start rs

/-- A loop not yet left goes on with one result more. -/
theorem runFrom_append {b : LoopBody ρ σ} {made made' : σ} {rs : List ρ} {r : ρ}
    (h : b.runFrom made rs = (made', false)) : b.runFrom made (rs ++ [r]) = b.turn made' r := by
  induction rs generalizing made with
  | nil =>
      cases h
      rw [List.nil_append, runFrom, runFrom]
      split
      · rfl
      · next hleft => exact Prod.ext rfl (by simpa using hleft)
  | cons r' rs ih =>
      rw [runFrom] at h
      rw [List.cons_append, runFrom]
      split at h
      · next hleft =>
        rw [h] at hleft
        cases hleft
      · next hleft => rw [if_neg hleft, ih h]

end LoopBody

/-- `future.cancel()`. -/
def Future.cancel : Future ρ → Future ρ
  | .pending => .cancelled
  | f => f

/-- A place of a list, changed by a function. -/
theorem Future.cancels_modify (fs : List (Future ρ)) (i : ℕ) :
    List.Forall₂ Future.Cancels fs (fs.modify i Future.cancel) := by
  have hsame : ∀ fs : List (Future ρ), List.Forall₂ Future.Cancels fs fs :=
    fun _ => List.forall₂_same.2 fun _ _ => Or.inl rfl
  induction fs generalizing i with
  | nil =>
      rw [List.modify_nil]
      exact .nil
  | cons f fs ih =>
      cases i with
      | zero =>
          refine .cons ?_ (hsame fs)
          cases f with
          | pending => exact Or.inr ⟨rfl, rfl⟩
          | running => exact Or.inl rfl
          | finished r => exact Or.inl rfl
          | cancelled => exact Or.inl rfl
      | succ i => exact .cons (Or.inl rfl) (ih i)

/-- A cancelled place is not in the queue. -/
theorem Future.modify_ne_pending {fs : List (Future ρ)} {i : ℕ} :
    (fs.modify i Future.cancel)[i]? ≠ some .pending := by
  rw [List.getElem?_modify_eq]
  intro h
  obtain ⟨f, -, hf⟩ := Option.map_eq_some_iff.1 h
  cases f <;> cases hf

/-- **One step of a caller that loops over its futures.** -/
inductive LoopStep (body : κ → LoopBody ρ σ) :
    List (Future ρ) → κ × LoopPhase σ → List (Future ρ) → κ × LoopPhase σ → Prop
  | next {fs call seen made made' i r} (hi : i ∉ seen) (h : fs[i]? = some (.finished r))
      (hb : (body call).turn made r = (made', false)) :
      LoopStep body fs (call, .iterating seen made) fs (call, .iterating (i :: seen) made')
  | leave {fs call seen made made' i r} (hi : i ∉ seen) (h : fs[i]? = some (.finished r))
      (hb : (body call).turn made r = (made', true)) :
      LoopStep body fs (call, .iterating seen made) fs
        (call, .cancelling (List.range fs.length) .left made')
  | exhausted {fs call seen made} (h : seen.length = fs.length) :
      LoopStep body fs (call, .iterating seen made) fs (call, .answered .exhausted made)
  | timedOut {fs call seen made} (h : seen.length ≠ fs.length) :
      LoopStep body fs (call, .iterating seen made) fs
        (call, .cancelling (List.range fs.length) .timedOut made)
  | cancel {fs call i places how made} :
      LoopStep body fs (call, .cancelling (i :: places) how made) (fs.modify i Future.cancel)
        (call, .cancelling places how made)
  | answer {fs call how made} :
      LoopStep body fs (call, .cancelling [] how made) fs (call, .answered how made)

/-- It stays with its call. -/
theorem LoopStep.call_eq {fs fs' : List (Future ρ)} {c c' : κ × LoopPhase σ}
    (h : LoopStep body fs c fs' c') : c'.1 = c.1 := by
  cases h <;> rfl

/-- **A caller that loops over its futures**, whose call says which tasks
it submits. -/
def loopRule (tasks : κ → List τ) (body : κ → LoopBody ρ σ) :
    CallerRule τ ρ (κ × LoopPhase σ) where
  starts ts c := ∃ call, ts = tasks call ∧ c = (call, .iterating [] (body call).start)
  step := LoopStep body
  cancels h := by
    cases h with
    | cancel => exact Future.cancels_modify _ _
    | _ => exact List.forall₂_same.2 fun _ _ => Or.inl rfl

namespace LoopPhase

/-- The results a loop was given, in their order, and what it made of
them. -/
structure Made (b : LoopBody ρ σ) (fs : List (Future ρ)) (done : List (ℕ × ρ)) (made : σ)
    (left : Bool) : Prop where
  nodup : (done.map Prod.fst).Nodup
  finished : ∀ p ∈ done, fs[p.1]? = some (.finished p.2)
  run_eq : b.run (done.map Prod.snd) = (made, left)

/-- What is known of the futures of a caller that loops over those of a
number of tasks. -/
def Holds (b : LoopBody ρ σ) (n : ℕ) (fs : List (Future ρ)) : LoopPhase σ → Prop
  | iterating seen made => ∃ done, done.map Prod.fst = seen.reverse ∧ Made b fs done made false
  | cancelling places how made => fs.length = n ∧ how ≠ .exhausted ∧
      (∀ i < n, i ∉ places → fs[i]? ≠ some .pending) ∧
      ∃ done, Made b fs done made (decide (how = .left))
  | answered how made => fs.length = n ∧ (∀ i < n, fs[i]? ≠ some .pending) ∧
      ∃ done, Made b fs done made (decide (how = .left)) ∧ (how = .exhausted → done.length = n)

end LoopPhase

open LoopPhase

/-- **What a caller that loops keeps of its job.** -/
structure Job.Loops (tasks : κ → List τ) (body : κ → LoopBody ρ σ)
    (job : Job τ ρ (κ × LoopPhase σ)) : Prop where
  tasks_eq : job.tasks = tasks job.caller.1
  holds : job.caller.2.Holds (body job.caller.1) job.tasks.length job.futures

section

variable {workers : ℕ} {outcome : τ → ρ → Prop} {job job' : Job τ ρ (κ × LoopPhase σ)}
  {jobs : List (Job τ ρ (κ × LoopPhase σ))} {l : List ExecutorEvent} {call : κ} {made : σ}
  {how : LoopEnd} {b : LoopBody ρ σ} {fs fs' : List (Future ρ)} {n : ℕ}

/-- What a loop was given stays finished. -/
theorem LoopPhase.Made.mono {done : List (ℕ × ρ)} {left : Bool} (h : Made b fs done made left)
    (hfs : ∀ {i : ℕ} {r : ρ}, fs[i]? = some (.finished r) → fs'[i]? = some (.finished r)) :
    Made b fs' done made left :=
  ⟨h.nodup, fun p hp => hfs (h.finished p hp), h.run_eq⟩

/-- What is known stays known while what is finished stays and nothing
comes back to the queue. -/
theorem LoopPhase.Holds.mono {phase : LoopPhase σ} (h : phase.Holds b n fs)
    (hfs : ∀ {i : ℕ} {r : ρ}, fs[i]? = some (.finished r) → fs'[i]? = some (.finished r))
    (hpending : fs.length = n → fs'.length = n ∧
      ∀ {i : ℕ}, fs[i]? ≠ some .pending → fs'[i]? ≠ some .pending) :
    phase.Holds b n fs' := by
  cases phase with
  | iterating seen made =>
      obtain ⟨done, hseen, hmade⟩ := h
      exact ⟨done, hseen, hmade.mono hfs⟩
  | cancelling places how made =>
      obtain ⟨hlen, hhow, hnone, done, hmade⟩ := h
      obtain ⟨hlen', hkeep⟩ := hpending hlen
      exact ⟨hlen', hhow, fun i hi hp => hkeep (hnone i hi hp), done, hmade.mono hfs⟩
  | answered how made =>
      obtain ⟨hlen, hnone, done, hmade, hall⟩ := h
      obtain ⟨hlen', hkeep⟩ := hpending hlen
      exact ⟨hlen', fun i hi => hkeep (hnone i hi), done, hmade.mono hfs, hall⟩

/-- **A step of the caller keeps it.** -/
theorem LoopStep.holds {c c' : κ × LoopPhase σ} (h : LoopStep body fs c fs' c')
    (hlen : fs.length = n) (hc : c.2.Holds (body c.1) n fs) : c'.2.Holds (body c.1) n fs' := by
  -- one result more, of a place not yet seen
  have hmore : ∀ {call : κ} {done : List (ℕ × ρ)} {seen : List ℕ} {made made' : σ} {left : Bool}
      {i : ℕ} {r : ρ}, done.map Prod.fst = seen.reverse → Made (body call) fs done made false →
      i ∉ seen → fs[i]? = some (.finished r) → (body call).turn made r = (made', left) →
      (done ++ [(i, r)]).map Prod.fst = (i :: seen).reverse ∧
        Made (body call) fs (done ++ [(i, r)]) made' left := by
    intro call done seen made made' left i r hseen hmade hi hr hb
    have hfst : (done ++ [(i, r)]).map Prod.fst = (i :: seen).reverse := by
      rw [List.map_append, hseen, List.reverse_cons, List.map_singleton]
    refine ⟨hfst, ?_, fun p hp => ?_, ?_⟩
    · rw [hfst, List.nodup_reverse, List.nodup_cons]
      exact ⟨hi, List.nodup_reverse.1 (hseen ▸ hmade.nodup)⟩
    · rcases List.mem_append.1 hp with hp | hp
      · exact hmade.finished p hp
      · obtain rfl := List.mem_singleton.1 hp
        exact hr
    · rw [List.map_append, List.map_singleton, LoopBody.run,
        LoopBody.runFrom_append hmade.run_eq, hb]
  -- before anything is cancelled every place is still to be
  have hrange : ∀ i < n, i ∉ List.range fs.length → fs[i]? ≠ some .pending := by
    intro i hi hnot
    exact absurd (List.mem_range.2 (hlen ▸ hi)) hnot
  cases h with
  | next hi hr hb =>
      obtain ⟨done, hseen, hmade⟩ := hc
      exact ⟨_, hmore hseen hmade hi hr hb⟩
  | leave hi hr hb =>
      obtain ⟨done, hseen, hmade⟩ := hc
      exact ⟨hlen, by decide, hrange, _, (hmore hseen hmade hi hr hb).2⟩
  | exhausted h =>
      obtain ⟨done, hseen, hmade⟩ := hc
      have hall : done.length = n := by
        have hlen' := congrArg List.length hseen
        rw [List.length_map, List.length_reverse] at hlen'
        rw [hlen', h, hlen]
      refine ⟨hlen, fun i hi hp => ?_, done, hmade, fun _ => hall⟩
      -- every place has been seen, so none is in the queue
      have hsub : List.range n ⊆ done.map Prod.fst := by
        refine (length_eq_iff_subset hmade.nodup List.nodup_range fun j hj => ?_).1
          (by simpa using hall)
        obtain ⟨p, hp, rfl⟩ := List.mem_map.1 hj
        rw [List.mem_range, ← hlen]
        exact (List.getElem?_eq_some_iff.1 (hmade.finished p hp)).1
      obtain ⟨p, hmem, rfl⟩ := List.mem_map.1 (hsub (List.mem_range.2 hi))
      rw [hmade.finished p hmem] at hp
      cases hp
  | timedOut _ =>
      obtain ⟨done, -, hmade⟩ := hc
      exact ⟨hlen, by decide, hrange, done, hmade⟩
  | @cancel _ i places how made =>
      obtain ⟨-, hhow, hnone, done, hmade⟩ := hc
      have hcan := Future.cancels_modify fs i
      refine ⟨by rw [List.length_modify, hlen], hhow, fun j hj hp => ?_, done,
        hmade.mono fun hr => (finished_iff_of_cancels hcan).2 hr⟩
      by_cases hji : j = i
      · exact hji ▸ Future.modify_ne_pending
      · have hj' := hnone j hj (by simp [hji, hp])
        exact fun h => hj' (pending_of_cancels hcan h)
  | answer =>
      obtain ⟨-, hhow, hnone, done, hmade⟩ := hc
      exact ⟨hlen, fun i hi => hnone i hi List.not_mem_nil, done, hmade,
        fun h => absurd h hhow⟩

/-- **A step of the job keeps it.** -/
theorem Job.Loops.step (hl : job.Loops tasks body)
    (h : JobStep outcome (loopRule tasks body) job job') : job'.Loops tasks body := by
  have hkeep : ∀ {fs : List (Future ρ)}, job'.futures = fs → fs.length = job.futures.length →
      job.caller.2.Holds (body job.caller.1) job.tasks.length fs := by
    rintro fs rfl hlen
    exact hl.holds.mono h.finished fun hfull => ⟨hlen.trans hfull, h.not_pending hfull⟩
  have hfinished := fun {i : ℕ} {r : ρ} => h.finished (i := i) (r := r)
  cases h with
  | submit hlt =>
      exact ⟨hl.tasks_eq, hl.holds.mono hfinished fun hfull => absurd hfull (Nat.ne_of_lt hlt)⟩
  | start _ => exact ⟨hl.tasks_eq, hkeep rfl (List.length_set ..)⟩
  | finish _ _ _ => exact ⟨hl.tasks_eq, hkeep rfl (List.length_set ..)⟩
  | proceed hlen hs =>
      have hcall := LoopStep.call_eq hs
      exact ⟨hl.tasks_eq.trans (congrArg tasks hcall).symm,
        hcall ▸ LoopStep.holds hs hlen hl.holds⟩

/-- **Every job of a run keeps it.** -/
theorem loops_of_run (h : Run (ExecutorStep workers outcome (loopRule tasks body)) [] l jobs) :
    ∀ job ∈ jobs, job.Loops tasks body := by
  refine forall_jobs ?_ Job.Loops.step h
  rintro _ _ ⟨call, rfl, rfl⟩
  exact ⟨rfl, [], rfl, List.nodup_nil, fun p hp => absurd hp List.not_mem_nil, rfl⟩

/-- **What a loop answers**: what its body makes of outcomes of some of its
tasks, in some order, and of all of them when it ran to its end. Nothing
of an answered call is left in the queue. -/
theorem loop_answered (h : Run (ExecutorStep workers outcome (loopRule tasks body)) [] l jobs)
    (hjob : job ∈ jobs) (hans : job.caller = (call, .answered how made)) :
    (∀ f ∈ job.futures, f ≠ .pending) ∧
      ∃ outcomes : List (τ × ρ),
        (body call).run (outcomes.map Prod.snd) = (made, decide (how = .left)) ∧
        (outcomes.map Prod.fst).Subperm (tasks call) ∧ (∀ p ∈ outcomes, outcome p.1 p.2) ∧
        (how = .exhausted → (outcomes.map Prod.fst).Perm (tasks call)) := by
  have hloops := loops_of_run h job hjob
  have hholds := hloops.holds
  have htasks : job.tasks = tasks call := by rw [hloops.tasks_eq, hans]
  rw [hans] at hholds
  obtain ⟨hlen, hnone, done, hmade, hall⟩ := hholds
  refine ⟨fun f hf hp => ?_, ?_⟩
  · obtain ⟨i, hi⟩ := List.getElem?_of_mem hf
    exact hnone i (hlen ▸ (List.getElem?_eq_some_iff.1 hi).1) (hp ▸ hi)
  · obtain ⟨outcomes, hsnd, hsub, hout, hperm⟩ :=
      (sound_of_run h job hjob).exists_outcomes hmade.nodup hmade.finished
    exact ⟨outcomes, hsnd ▸ hmade.run_eq, htasks ▸ hsub, hout,
      fun hexh => htasks ▸ hperm (hall hexh)⟩

/-- **A loop over futures ends.** -/
def loopEnds (tasks : κ → List τ) (body : κ → LoopBody ρ σ) : (loopRule tasks body).Ends where
  left n c := match c.2 with
    | .iterating seen _ => n + 2 + ((List.range n).filter (· ∉ seen)).length
    | .cancelling places _ _ => places.length + 1
    | .answered _ _ => 0
  isLast c := ∃ how made, c.2 = .answered how made
  step_lt {fs fs' c c'} h := by
    cases h with
    | @next _ seen _ _ i r hi hr _ =>
        have hlt : ((List.range fs.length).filter (· ∉ i :: seen)).length <
            ((List.range fs.length).filter (· ∉ seen)).length := by
          have hfilter : (List.range fs.length).filter (· ∉ i :: seen) =
              ((List.range fs.length).filter (· ∉ seen)).filter (· ≠ i) := by
            rw [List.filter_filter]
            exact List.filter_congr fun j _ => by simp
          rw [hfilter, List.length_filter_lt_length_iff_exists]
          refine ⟨i, List.mem_filter.2 ⟨List.mem_range.2 ?_, by simpa using hi⟩, by simp⟩
          exact (List.getElem?_eq_some_iff.1 hr).1
        dsimp only
        omega
    | leave _ _ _ =>
        simp only [List.length_range]
        omega
    | exhausted _ =>
        dsimp only
        omega
    | timedOut _ =>
        simp only [List.length_range]
        omega
    | cancel => simp
    | answer => simp
  proceeds {fs c} _ hlast := by
    obtain ⟨call, phase⟩ := c
    cases phase with
    | iterating seen made =>
        by_cases h : seen.length = fs.length
        · exact ⟨_, _, LoopStep.exhausted h⟩
        · exact ⟨_, _, LoopStep.timedOut h⟩
    | cancelling places how made =>
        cases places with
        | nil => exact ⟨_, _, LoopStep.answer⟩
        | cons i places => exact ⟨_, _, LoopStep.cancel⟩
    | answered how made => exact absurd ⟨how, made, rfl⟩ hlast

/-- **Every loop over futures is answered**, once no caller joins, and its
tasks are all finished or cancelled. -/
theorem loop_ends (hw : 0 < workers) (hout : ∀ task, ∃ r, outcome task r)
    (h : Run (ExecutorStep workers outcome (loopRule tasks body)) [] l jobs) :
    ∃ bound, ∀ l' (jobs' : List (Job τ ρ (κ × LoopPhase σ))),
      Run (ExecutorStep workers outcome (loopRule tasks body)) jobs l' jobs' → .call ∉ l' →
      l'.length ≤ bound ∧
      jobs'.map (fun job => job.caller.1) = jobs.map (fun job => job.caller.1) ∧
      ((∀ k next, ¬ ExecutorStep workers outcome (loopRule tasks body) jobs' (.move k) next) →
        ∀ job ∈ jobs', (∃ how made, job.caller = (job.caller.1, .answered how made)) ∧
          job.futures.length = (tasks job.caller.1).length ∧
          ∀ f ∈ job.futures, f.isDone = true) := by
  obtain ⟨bound, hbound⟩ :=
    ends_of_run (loopEnds tasks body) hw hout (f := Prod.fst) LoopStep.call_eq h
  refine ⟨bound, fun l' jobs' hrun hl => ?_⟩
  obtain ⟨hlen, hcalls, hover⟩ := hbound l' jobs' hrun hl
  refine ⟨hlen, hcalls, fun hmax job hjob => ?_⟩
  have hjobOver := hover hmax job hjob
  have hloops := loops_of_run (h.append hrun) job hjob
  obtain ⟨how, made, hans⟩ := hjobOver.isLast
  exact ⟨⟨how, made, Prod.ext rfl hans⟩, hloops.tasks_eq ▸ hjobOver.submitted, hjobOver.isDone⟩

end

end WazoDird
