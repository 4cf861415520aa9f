import WazoDird.Common.Executor.Pool

/-!
# Waiting for all futures

`concurrent.futures.wait(futures, timeout, ALL_COMPLETED)`: the caller
waits until every future is done or, when it gave a timeout, until that
has passed. It then looks at its futures one after the other, a future
that finishes before it is looked at counting as done, and has them as a
set, in whatever order. Nothing is cancelled.
-/

namespace WazoDird

/-- Where a caller of `wait` is. -/
inductive WaitPhase (ρ : Type*) where
  | waiting
  /-- It looks at its futures: those left, and those found finished. -/
  | collecting (left : List ℕ) (done : List (ℕ × ρ))
  | answered (results : List ρ)

variable {κ τ ρ : Type*} {tasks : κ → List τ} {timed : κ → Bool}

/-- **One step of a caller of `wait`**, whose call may have a timeout. -/
inductive WaitStep (timed : κ → Bool) :
    List (Future ρ) → κ × WaitPhase ρ → List (Future ρ) → κ × WaitPhase ρ → Prop
  | allDone {fs call places} (h : ∀ f ∈ fs, f.isDone = true)
      (hp : places.Perm (List.range fs.length)) :
      WaitStep timed fs (call, .waiting) fs (call, .collecting places [])
  | timedOut {fs call places} (h : timed call = true) (hp : places.Perm (List.range fs.length)) :
      WaitStep timed fs (call, .waiting) fs (call, .collecting places [])
  | found {fs call i left done r} (h : fs[i]? = some (.finished r)) :
      WaitStep timed fs (call, .collecting (i :: left) done) fs
        (call, .collecting left ((i, r) :: done))
  | notFound {fs call i left done} (h : ∀ r, fs[i]? ≠ some (.finished r)) :
      WaitStep timed fs (call, .collecting (i :: left) done) fs (call, .collecting left done)
  | answer {fs call} {done done' : List (ℕ × ρ)} (h : done'.Perm done) :
      WaitStep timed fs (call, .collecting [] done) fs (call, .answered (done'.map Prod.snd))

/-- It cancels nothing. -/
theorem WaitStep.futures_eq {fs fs' : List (Future ρ)} {c c' : κ × WaitPhase ρ}
    (h : WaitStep timed fs c fs' c') : fs' = fs := by
  cases h <;> rfl

/-- It stays with its call. -/
theorem WaitStep.call_eq {fs fs' : List (Future ρ)} {c c' : κ × WaitPhase ρ}
    (h : WaitStep timed fs c fs' c') : c'.1 = c.1 := by
  cases h <;> rfl

/-- **A caller of `wait`**, whose call says which tasks it submits. -/
def waitRule (tasks : κ → List τ) (timed : κ → Bool) : CallerRule τ ρ (κ × WaitPhase ρ) where
  starts ts c := ∃ call, ts = tasks call ∧ c = (call, .waiting)
  step := WaitStep timed
  cancels h := h.futures_eq ▸ List.forall₂_same.2 fun _ _ => Or.inl rfl

namespace WaitPhase

/-- Places that were found finished, with what was read there. -/
structure Found (fs : List (Future ρ)) (left : List ℕ) (done : List (ℕ × ρ)) : Prop where
  nodup : (left ++ done.map Prod.fst).Nodup
  finished : ∀ p ∈ done, fs[p.1]? = some (.finished p.2)

/-- Every task of a number has finished. -/
def AllFinished (n : ℕ) (fs : List (Future ρ)) : Prop :=
  ∀ i < n, ∃ r, fs[i]? = some (.finished r)

/-- What is known of the futures of a caller that waited for all of a
number of tasks, or for a timeout. -/
def Holds (timed : Bool) (n : ℕ) (fs : List (Future ρ)) : WaitPhase ρ → Prop
  | waiting => True
  | collecting left done => Found fs left done ∧ (∀ i ∈ left, i < n) ∧
      (timed = false → AllFinished n fs ∧ left.length + done.length = n)
  | answered results => ∃ done, results = done.map Prod.snd ∧ Found fs [] done ∧
      (timed = false → done.length = n)

end WaitPhase

open WaitPhase

/-- **What a caller of `wait` keeps of its job.** -/
structure Job.Waits (tasks : κ → List τ) (timed : κ → Bool) (job : Job τ ρ (κ × WaitPhase ρ)) :
    Prop where
  tasks_eq : job.tasks = tasks job.caller.1
  uncancelled : ∀ f ∈ job.futures, f ≠ .cancelled
  holds : job.caller.2.Holds (timed job.caller.1) job.tasks.length job.futures

section

variable {workers : ℕ} {outcome : τ → ρ → Prop} {job job' : Job τ ρ (κ × WaitPhase ρ)}
  {jobs : List (Job τ ρ (κ × WaitPhase ρ))} {l : List ExecutorEvent} {call : κ} {results : List ρ}

/-- What is known of the futures stays known while what is finished stays. -/
theorem WaitPhase.Holds.mono {fs fs' : List (Future ρ)} {b : Bool} {n : ℕ} {phase : WaitPhase ρ}
    (h : phase.Holds b n fs)
    (hfs : ∀ {i : ℕ} {r : ρ}, fs[i]? = some (.finished r) → fs'[i]? = some (.finished r)) :
    phase.Holds b n fs' := by
  cases phase with
  | waiting => trivial
  | collecting left done =>
      obtain ⟨hfound, hlt, hall⟩ := h
      refine ⟨⟨hfound.nodup, fun p hp => hfs (hfound.finished p hp)⟩, hlt, fun hb => ?_⟩
      obtain ⟨hfin, hlen⟩ := hall hb
      exact ⟨fun i hi => (hfin i hi).imp fun r => hfs, hlen⟩
  | answered results =>
      obtain ⟨done, hres, hfound, hall⟩ := h
      exact ⟨done, hres, ⟨hfound.nodup, fun p hp => hfs (hfound.finished p hp)⟩, hall⟩

/-- **A step of the caller keeps it.** -/
theorem WaitStep.holds {fs fs' : List (Future ρ)} {c c' : κ × WaitPhase ρ} {n : ℕ}
    (h : WaitStep timed fs c fs' c') (hlen : fs.length = n) (hcan : ∀ f ∈ fs, f ≠ .cancelled)
    (hc : c.2.Holds (timed c.1) n fs) : c'.2.Holds (timed c.1) n fs' := by
  have hbegin : ∀ {places : List ℕ}, places.Perm (List.range fs.length) →
      Found fs places [] ∧ (∀ i ∈ places, i < n) ∧ places.length = n := by
    intro places hp
    refine ⟨⟨?_, fun p hp => absurd hp List.not_mem_nil⟩, fun i hi => ?_, ?_⟩
    · simpa using hp.nodup_iff.2 List.nodup_range
    · rw [← hlen]
      exact List.mem_range.1 (hp.mem_iff.1 hi)
    · rw [hp.length_eq, List.length_range, hlen]
  cases h with
  | allDone hdone hp =>
      obtain ⟨hfound, hlt, hn⟩ := hbegin hp
      refine ⟨hfound, hlt, fun _ => ⟨fun i hi => ?_, by simpa using hn⟩⟩
      have hmem := List.getElem_mem (hlen ▸ hi)
      obtain ⟨r, hr⟩ := Future.exists_finished (hdone _ hmem) (hcan _ hmem)
      exact ⟨r, hr ▸ List.getElem?_eq_getElem (hlen ▸ hi)⟩
  | timedOut ht hp =>
      obtain ⟨hfound, hlt, -⟩ := hbegin hp
      exact ⟨hfound, hlt, fun hb => by rw [ht] at hb; cases hb⟩
  | @found _ i left done r hi =>
      obtain ⟨hfound, hlt, hall⟩ := hc
      refine ⟨⟨?_, ?_⟩, fun j hj => hlt j (List.mem_cons_of_mem _ hj), fun hb => ?_⟩
      · exact (List.perm_middle.symm.nodup_iff).1 hfound.nodup
      · rw [List.forall_mem_cons]
        exact ⟨hi, hfound.finished⟩
      · obtain ⟨hfin, hn⟩ := hall hb
        simp only [List.length_cons] at hn ⊢
        exact ⟨hfin, by omega⟩
  | @notFound _ i left done hi =>
      obtain ⟨hfound, hlt, hall⟩ := hc
      refine ⟨⟨(List.nodup_cons.1 hfound.nodup).2, hfound.finished⟩,
        fun j hj => hlt j (List.mem_cons_of_mem _ hj), fun hb => ?_⟩
      obtain ⟨r, hr⟩ := (hall hb).1 i (hlt i List.mem_cons_self)
      exact absurd hr (hi r)
  | @answer _ done done' hp =>
      obtain ⟨hfound, -, hall⟩ := hc
      refine ⟨done', rfl, ⟨?_, fun p hp' => hfound.finished p (hp.mem_iff.1 hp')⟩, fun hb => ?_⟩
      · exact ((hp.map Prod.fst).nodup_iff).2 hfound.nodup
      · have := (hall hb).2
        simpa [hp.length_eq] using this

/-- **A step of the job keeps it.** -/
theorem Job.Waits.step (hw : job.Waits tasks timed)
    (h : JobStep outcome (waitRule tasks timed) job job') : job'.Waits tasks timed := by
  have hmono := hw.holds.mono h.finished
  have hset : ∀ (i : ℕ) (f : Future ρ), f ≠ .cancelled →
      ∀ g ∈ job.futures.set i f, g ≠ .cancelled := by
    intro i f hf g hg
    rcases List.mem_or_eq_of_mem_set hg with hg | rfl
    · exact hw.uncancelled g hg
    · exact hf
  cases h with
  | submit _ =>
      refine ⟨hw.tasks_eq, fun f hf => ?_, hmono⟩
      rcases List.mem_append.1 hf with hf | hf
      · exact hw.uncancelled f hf
      · obtain rfl := List.mem_singleton.1 hf
        exact fun h => by cases h
  | start _ => exact ⟨hw.tasks_eq, hset _ _ (fun h => by cases h), hmono⟩
  | finish _ _ _ => exact ⟨hw.tasks_eq, hset _ _ (fun h => by cases h), hmono⟩
  | proceed hlen hs =>
      have hcall := WaitStep.call_eq hs
      refine ⟨?_, ?_, ?_⟩
      · exact hw.tasks_eq.trans (congrArg tasks hcall).symm
      · exact hs.futures_eq ▸ hw.uncancelled
      · exact hcall ▸ WaitStep.holds hs hlen hw.uncancelled hw.holds

/-- **Every job of a run keeps it.** -/
theorem waits_of_run (h : Run (ExecutorStep workers outcome (waitRule tasks timed)) [] l jobs) :
    ∀ job ∈ jobs, job.Waits tasks timed := by
  refine forall_jobs ?_ Job.Waits.step h
  rintro _ _ ⟨call, rfl, rfl⟩
  exact ⟨rfl, fun f hf => absurd hf List.not_mem_nil, trivial⟩

/-- **What a call of `wait` has of its tasks**: an outcome of each of some
of them, in some order, and of each of them when it gave no timeout. -/
theorem wait_answered (h : Run (ExecutorStep workers outcome (waitRule tasks timed)) [] l jobs)
    (hjob : job ∈ jobs) (hans : job.caller = (call, .answered results)) :
    ∃ outcomes : List (τ × ρ), results = outcomes.map Prod.snd ∧
      (outcomes.map Prod.fst).Subperm (tasks call) ∧ (∀ p ∈ outcomes, outcome p.1 p.2) ∧
      (timed call = false → (outcomes.map Prod.fst).Perm (tasks call)) := by
  have hwaits := waits_of_run h job hjob
  have hholds := hwaits.holds
  rw [hans] at hholds
  obtain ⟨done, rfl, hfound, hall⟩ := hholds
  obtain ⟨outcomes, hsnd, hsub, hout, hperm⟩ :=
    (sound_of_run h job hjob).exists_outcomes hfound.nodup hfound.finished
  have htasks : job.tasks = tasks call := by rw [hwaits.tasks_eq, hans]
  exact ⟨outcomes, hsnd.symm, htasks ▸ hsub, hout, fun hb => htasks ▸ hperm (hall hb)⟩

/-- **A call of `wait` ends** once its futures are done. -/
def waitEnds (tasks : κ → List τ) (timed : κ → Bool) :
    (waitRule (ρ := ρ) tasks timed).Ends where
  left n c := match c.2 with
    | .waiting => n + 2
    | .collecting left _ => left.length + 1
    | .answered _ => 0
  isLast c := ∃ results, c.2 = .answered results
  step_lt h := by
    cases h with
    | allDone _ hp => simp [hp.length_eq]
    | timedOut _ hp => simp [hp.length_eq]
    | found _ => simp
    | notFound _ => simp
    | answer _ => simp
  proceeds {fs c} hdone hlast := by
    obtain ⟨call, phase⟩ := c
    cases phase with
    | waiting => exact ⟨_, _, WaitStep.allDone hdone (List.Perm.refl _)⟩
    | collecting left done =>
        cases left with
        | nil => exact ⟨_, _, WaitStep.answer (List.Perm.refl _)⟩
        | cons i left =>
            by_cases hi : ∃ r, fs[i]? = some (.finished r)
            · obtain ⟨r, hr⟩ := hi
              exact ⟨_, _, WaitStep.found hr⟩
            · exact ⟨_, _, WaitStep.notFound fun r hr => hi ⟨r, hr⟩⟩
    | answered results => exact absurd ⟨results, rfl⟩ hlast

/-- **Every call of `wait` is answered, and every task run to its end**,
whether or not its caller had stopped waiting, once no caller joins: what
is left to do is bounded, and when it is done nothing is left waiting. -/
theorem wait_ends (hw : 0 < workers) (hout : ∀ task, ∃ r, outcome task r)
    (h : Run (ExecutorStep workers outcome (waitRule tasks timed)) [] l jobs) :
    ∃ bound, ∀ l' (jobs' : List (Job τ ρ (κ × WaitPhase ρ))),
      Run (ExecutorStep workers outcome (waitRule tasks timed)) jobs l' jobs' → .call ∉ l' →
      l'.length ≤ bound ∧
      jobs'.map (fun job => job.caller.1) = jobs.map (fun job => job.caller.1) ∧
      ((∀ k next, ¬ ExecutorStep workers outcome (waitRule tasks timed) jobs' (.move k) next) →
        ∀ job ∈ jobs', (∃ results, job.caller = (job.caller.1, .answered results)) ∧
          AllFinished (tasks job.caller.1).length job.futures) := by
  obtain ⟨bound, hbound⟩ :=
    ends_of_run (waitEnds tasks timed) hw hout (f := Prod.fst) WaitStep.call_eq h
  refine ⟨bound, fun l' jobs' hrun hl => ?_⟩
  obtain ⟨hlen, hcalls, hover⟩ := hbound l' jobs' hrun hl
  refine ⟨hlen, hcalls, fun hmax job hjob => ?_⟩
  have hjobOver := hover hmax job hjob
  have hwaits := waits_of_run (h.append hrun) job hjob
  obtain ⟨results, hans⟩ := hjobOver.isLast
  refine ⟨⟨results, Prod.ext rfl hans⟩, fun i hi => ?_⟩
  have hlt : i < job.futures.length := by
    rw [hjobOver.submitted, hwaits.tasks_eq]
    exact hi
  have hmem := List.getElem_mem hlt
  obtain ⟨r, hr⟩ := Future.exists_finished (hjobOver.isDone _ hmem) (hwaits.uncancelled _ hmem)
  exact ⟨r, hr ▸ List.getElem?_eq_getElem hlt⟩

end

end WazoDird
