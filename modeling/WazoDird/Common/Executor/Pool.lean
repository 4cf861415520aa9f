import Mathlib.Algebra.BigOperators.Group.List.Basic
import Mathlib.Algebra.GroupWithZero.Nat
import Mathlib.Data.List.Basic
import Mathlib.Data.List.Perm.Subperm
import WazoDird.Common.Run

/-!
# An executor, and the jobs it is given

`concurrent.futures.ThreadPoolExecutor`, with any number of callers. A
caller submits the tasks of its job one after the other and then does as
its `CallerRule` says: it may look at its futures, and cancel some. The
workers meanwhile take tasks off the queue, of any job, and finish them.

Jobs meet in one place only, the workers they share, so what a job keeps
on its own every job keeps (`forall_jobs`); and no job waits for ever
(`over_of_maximal`, `length_add_weight_le`).
-/

namespace WazoDird

/-- What has become of a task submitted to an executor. -/
inductive Future (ρ : Type*) where
  /-- In the queue. -/
  | pending
  | running
  | finished (result : ρ)
  /-- Taken off the queue before it ran. -/
  | cancelled
  deriving DecidableEq, Repr

variable {τ ρ γ : Type*}

namespace Future

/-- The workers a task keeps busy. -/
def busy : Future ρ → ℕ
  | running => 1
  | pending | finished _ | cancelled => 0

/-- How far a future is from its end. -/
def weight : Future ρ → ℕ
  | pending => 2
  | running => 1
  | finished _ | cancelled => 0

/-- `future.done()`. -/
def isDone : Future ρ → Bool
  | finished _ | cancelled => true
  | pending | running => false

/-- What is done and was not cancelled has a result. -/
theorem exists_finished {f : Future ρ} (hdone : f.isDone = true) (hcan : f ≠ cancelled) :
    ∃ r, f = finished r := by
  cases f with
  | finished r => exact ⟨r, rfl⟩
  | cancelled => exact absurd rfl hcan
  | pending => cases hdone
  | running => cases hdone

/-- **`future.cancel()`**, or nothing: a task in the queue is taken off
it, any other is as it was. -/
def Cancels (f f' : Future ρ) : Prop := f' = f ∨ (f = pending ∧ f' = cancelled)

end Future

/-- **What a caller does** once its tasks are submitted, by the state it is
in: its futures are its own to look at and to cancel. -/
structure CallerRule (τ ρ γ : Type*) where
  /-- The tasks it submits, and the state it waits in. -/
  starts : List τ → γ → Prop
  step : List (Future ρ) → γ → List (Future ρ) → γ → Prop
  cancels : ∀ {fs fs' : List (Future ρ)} {c c' : γ}, step fs c fs' c' →
    List.Forall₂ Future.Cancels fs fs'

/-- **A job**: the tasks of a caller, the futures of those it has
submitted so far, in their order, and its state. -/
structure Job (τ ρ γ : Type*) where
  tasks : List τ
  futures : List (Future ρ)
  caller : γ

namespace Job

/-- The workers a job keeps busy. -/
def running (job : Job τ ρ γ) : ℕ := (job.futures.map Future.busy).sum

end Job

/-- The workers that are busy. -/
def runningTasks (jobs : List (Job τ ρ γ)) : ℕ := (jobs.map Job.running).sum

/-- **What may happen to a job**: a task is submitted, taken off the queue
or finished, or its caller goes on. -/
inductive JobStep (outcome : τ → ρ → Prop) (rule : CallerRule τ ρ γ) :
    Job τ ρ γ → Job τ ρ γ → Prop
  | submit {job} (h : job.futures.length < job.tasks.length) :
      JobStep outcome rule job { job with futures := job.futures ++ [.pending] }
  | start {job i} (h : job.futures[i]? = some .pending) :
      JobStep outcome rule job { job with futures := job.futures.set i .running }
  | finish {job i task r} (h : job.futures[i]? = some .running)
      (ht : job.tasks[i]? = some task) (hr : outcome task r) :
      JobStep outcome rule job { job with futures := job.futures.set i (.finished r) }
  | proceed {job fs c} (h : job.futures.length = job.tasks.length)
      (hs : rule.step job.futures job.caller fs c) :
      JobStep outcome rule job { job with futures := fs, caller := c }

/-- A step of an executor: a caller comes, or something happens to a job. -/
inductive ExecutorEvent where
  | call
  | move (k : ℕ)
  deriving DecidableEq, Repr

/-- **One step of an executor** of a number of workers, which is as many
tasks as may run at once. -/
inductive ExecutorStep (workers : ℕ) (outcome : τ → ρ → Prop) (rule : CallerRule τ ρ γ) :
    List (Job τ ρ γ) → ExecutorEvent → List (Job τ ρ γ) → Prop
  | call {jobs tasks c} (h : rule.starts tasks c) :
      ExecutorStep workers outcome rule jobs .call (jobs ++ [⟨tasks, [], c⟩])
  | move {jobs k job job'} (hk : jobs[k]? = some job) (h : JobStep outcome rule job job')
      (hw : runningTasks (jobs.set k job') ≤ workers) :
      ExecutorStep workers outcome rule jobs (.move k) (jobs.set k job')

section Invariants

variable {workers : ℕ} {outcome : τ → ρ → Prop} {rule : CallerRule τ ρ γ}
  {jobs jobs' : List (Job τ ρ γ)} {job job' : Job τ ρ γ} {e : ExecutorEvent}
  {l : List ExecutorEvent}

/-- **What a job keeps on its own, every job keeps.** -/
theorem forall_jobs {I : Job τ ρ γ → Prop}
    (hcall : ∀ {tasks c}, rule.starts tasks c → I ⟨tasks, [], c⟩)
    (hstep : ∀ {job job'}, I job → JobStep outcome rule job job' → I job')
    (h : Run (ExecutorStep workers outcome rule) [] l jobs) : ∀ job ∈ jobs, I job := by
  refine h.invariant (I := fun jobs => ∀ job ∈ jobs, I job) (by simp) ?_
  intro jobs e jobs' ih hs
  cases hs with
  | call hc =>
      intro job hjob
      rcases List.mem_append.1 hjob with hjob | hjob
      · exact ih job hjob
      · obtain rfl := List.mem_singleton.1 hjob
        exact hcall hc
  | @move k job job' hk hj _ =>
      intro x hx
      rcases List.mem_or_eq_of_mem_set hx with hx | rfl
      · exact ih x hx
      · exact hstep (ih job (List.mem_of_getElem? hk)) hj

/-- No more tasks run at once than there are workers. -/
theorem runningTasks_le (h : Run (ExecutorStep workers outcome rule) [] l jobs) :
    runningTasks jobs ≤ workers := by
  refine h.invariant (I := fun jobs => runningTasks jobs ≤ workers) (Nat.zero_le _) ?_
  intro jobs e jobs' ih hs
  cases hs with
  | call => simpa [runningTasks, Job.running] using ih
  | move _ _ hw => exact hw

/-- **A sound job**: a future stands for the task of its place, and what
it holds is an outcome of that task. -/
structure Job.Sound (outcome : τ → ρ → Prop) (job : Job τ ρ γ) : Prop where
  length_le : job.futures.length ≤ job.tasks.length
  outcome_of : ∀ {i : ℕ} {r : ρ}, job.futures[i]? = some (Future.finished r) →
    ∃ task, job.tasks[i]? = some task ∧ outcome task r

/-- A caller leaves finished what was finished, and nothing else. -/
theorem finished_iff_of_cancels {fs fs' : List (Future ρ)} (h : List.Forall₂ Future.Cancels fs fs')
    {i : ℕ} {r : ρ} : fs'[i]? = some (.finished r) ↔ fs[i]? = some (.finished r) := by
  induction h generalizing i with
  | nil => rfl
  | cons hf _ ih =>
      cases i with
      | zero =>
          rcases hf with rfl | ⟨rfl, rfl⟩
          · rfl
          · simp
      | succ i => exact ih

/-- A caller puts nothing in the queue. -/
theorem pending_of_cancels {fs fs' : List (Future ρ)} (h : List.Forall₂ Future.Cancels fs fs')
    {i : ℕ} (hi : fs'[i]? = some .pending) : fs[i]? = some .pending := by
  induction h generalizing i with
  | nil => exact hi
  | cons hf _ ih =>
      cases i with
      | zero =>
          rcases hf with rfl | ⟨rfl, -⟩
          · exact hi
          · rfl
      | succ i => exact ih hi

/-- What a place of a list holds once a place is written. -/
theorem getElem?_set_cases {α : Type*} {l : List α} {i j : ℕ} {a b : α}
    (h : (l.set i a)[j]? = some b) : (i = j ∧ b = a) ∨ (i ≠ j ∧ l[j]? = some b) := by
  rw [List.getElem?_set] at h
  split at h
  · next hij =>
    split at h
    · exact Or.inl ⟨hij, (Option.some.inj h).symm⟩
    · cases h
  · next hij => exact Or.inr ⟨hij, h⟩

/-- **What is finished stays as it is.** -/
theorem JobStep.finished (h : JobStep outcome rule job job') {i : ℕ} {r : ρ}
    (hi : job.futures[i]? = some (.finished r)) : job'.futures[i]? = some (.finished r) := by
  have hset : ∀ {j : ℕ} {f : Future ρ}, job.futures[j]? = some f → (∀ r, f ≠ .finished r) →
      ∀ g, (job.futures.set j g)[i]? = some (.finished r) := by
    intro j f hj hf g
    have hne : j ≠ i := by
      rintro rfl
      rw [hi] at hj
      exact hf r (Option.some.inj hj).symm
    rw [List.getElem?_set_ne hne, hi]
  cases h with
  | submit _ => exact (List.getElem?_append_left (List.getElem?_eq_some_iff.1 hi).1).trans hi
  | start hj => exact hset hj (fun _ h => by cases h) _
  | finish hj _ _ => exact hset hj (fun _ h => by cases h) _
  | proceed _ hs => exact (finished_iff_of_cancels (rule.cancels hs)).2 hi

/-- **Nothing comes back to the queue** of a job whose tasks are all
submitted. -/
theorem JobStep.not_pending (h : JobStep outcome rule job job')
    (hlen : job.futures.length = job.tasks.length) {i : ℕ}
    (hi : job.futures[i]? ≠ some .pending) : job'.futures[i]? ≠ some .pending := by
  intro hi'
  cases h with
  | submit hlt => exact absurd hlen (Nat.ne_of_lt hlt)
  | start _ =>
      rcases getElem?_set_cases hi' with ⟨-, hf⟩ | ⟨-, hf⟩
      · cases hf
      · exact hi hf
  | finish _ _ _ =>
      rcases getElem?_set_cases hi' with ⟨-, hf⟩ | ⟨-, hf⟩
      · cases hf
      · exact hi hf
  | proceed _ hs => exact hi (pending_of_cancels (rule.cancels hs) hi')

/-- **A step keeps a job sound.** -/
theorem Job.Sound.step (hs : job.Sound outcome) (h : JobStep outcome rule job job') :
    job'.Sound outcome := by
  cases h with
  | submit hlt =>
      refine ⟨by simpa using Nat.succ_le_of_lt hlt, fun {i r} hi => ?_⟩
      dsimp only at hi
      rw [List.getElem?_append] at hi
      split at hi
      · exact hs.outcome_of hi
      · rw [List.getElem?_singleton] at hi
        split at hi <;> cases hi
  | start _ =>
      refine ⟨by simpa using hs.length_le, fun {i r} hi => ?_⟩
      rcases getElem?_set_cases hi with ⟨-, hr⟩ | ⟨-, hi⟩
      · cases hr
      · exact hs.outcome_of hi
  | finish _ ht hr =>
      refine ⟨by simpa using hs.length_le, fun {i r} hi => ?_⟩
      rcases getElem?_set_cases hi with ⟨rfl, heq⟩ | ⟨-, hi⟩
      · cases heq
        exact ⟨_, ht, hr⟩
      · exact hs.outcome_of hi
  | proceed hlen hc =>
      have hcan := rule.cancels hc
      exact ⟨Nat.le_of_eq (hcan.length_eq ▸ hlen),
        fun hi => hs.outcome_of ((finished_iff_of_cancels hcan).1 hi)⟩

/-- **Every job of a run is sound.** -/
theorem sound_of_run (h : Run (ExecutorStep workers outcome rule) [] l jobs) :
    ∀ job ∈ jobs, job.Sound outcome :=
  forall_jobs (fun _ => ⟨Nat.zero_le _, fun hi => by cases hi⟩) Job.Sound.step h

/-- A list, read at each of its places. -/
theorem filterMap_range {α : Type*} (l : List α) :
    (List.range l.length).filterMap (l[·]?) = l := by
  induction l with
  | nil => rfl
  | cons a l ih =>
      rw [List.length_cons, List.range_succ_eq_map]
      simpa [List.filterMap_map, Function.comp_def] using ih

/-- **Results read at distinct places** are outcomes of distinct tasks of
the job, and of all of them when there are as many. -/
theorem Job.Sound.exists_outcomes (hs : job.Sound outcome) {done : List (ℕ × ρ)}
    (hnodup : (done.map Prod.fst).Nodup)
    (hdone : ∀ p ∈ done, job.futures[p.1]? = some (.finished p.2)) :
    ∃ outcomes : List (τ × ρ), outcomes.map Prod.snd = done.map Prod.snd ∧
      (outcomes.map Prod.fst).Subperm job.tasks ∧ (∀ p ∈ outcomes, outcome p.1 p.2) ∧
      (done.length = job.tasks.length → (outcomes.map Prod.fst).Perm job.tasks) := by
  -- the task of each place, beside what was read there
  have hread : ∀ done' : List (ℕ × ρ), (∀ p ∈ done', p ∈ done) →
      ∃ outcomes : List (τ × ρ), outcomes.map Prod.snd = done'.map Prod.snd ∧
        outcomes.map Prod.fst = (done'.map Prod.fst).filterMap (job.tasks[·]?) ∧
        ∀ p ∈ outcomes, outcome p.1 p.2 := by
    intro done' hsub
    induction done' with
    | nil => exact ⟨[], rfl, rfl, fun _ h => absurd h List.not_mem_nil⟩
    | cons p done' ih =>
        rw [List.forall_mem_cons] at hsub
        obtain ⟨outcomes, hsnd, hfst, hall⟩ := ih hsub.2
        obtain ⟨task, htask, hout⟩ := hs.outcome_of (hdone p hsub.1)
        refine ⟨(task, p.2) :: outcomes, by simp [hsnd], ?_, List.forall_mem_cons.2 ⟨hout, hall⟩⟩
        rw [List.map_cons, List.map_cons, List.filterMap_cons_some htask, hfst]
  obtain ⟨outcomes, hsnd, hfst, hall⟩ := hread done fun _ h => h
  have hplaces : (done.map Prod.fst).Subperm (List.range job.tasks.length) := by
    refine List.subperm_of_subset hnodup fun i hi => ?_
    obtain ⟨p, hp, rfl⟩ := List.mem_map.1 hi
    obtain ⟨task, htask, -⟩ := hs.outcome_of (hdone p hp)
    exact List.mem_range.2 (List.getElem?_eq_some_iff.1 htask).1
  have hsubperm : (outcomes.map Prod.fst).Subperm job.tasks := by
    obtain ⟨places, hperm, hsublist⟩ := hplaces
    have htasks := hsublist.filterMap (job.tasks[·]?)
    rw [filterMap_range] at htasks
    exact hfst ▸ ⟨_, hperm.filterMap _, htasks⟩
  refine ⟨outcomes, hsnd, hsubperm, hall, fun hlen => hsubperm.perm_of_length_le ?_⟩
  have hlen' := congrArg List.length hsnd
  simp only [List.length_map] at hlen' ⊢
  omega

/-- **What a job does not change, a run that no caller joins does not.** -/
theorem map_eq_of_run {α : Type*} {f : Job τ ρ γ → α}
    (hf : ∀ {job job'}, JobStep outcome rule job job' → f job' = f job)
    (h : Run (ExecutorStep workers outcome rule) jobs l jobs') (hl : .call ∉ l) :
    jobs'.map f = jobs.map f := by
  induction h with
  | nil => rfl
  | @snoc t _ _ _ _ hs ih =>
      rw [List.mem_append, List.mem_singleton, not_or] at hl
      cases hs with
      | call => exact absurd rfl hl.2
      | @move k job job' hk hj _ =>
          obtain ⟨hlt, rfl⟩ := List.getElem?_eq_some_iff.1 hk
          have hlt' : k < (t.map f).length := by simpa using hlt
          rw [← ih hl.1, List.map_set, hf hj, ← List.getElem_map f (h := hlt'),
            List.set_getElem_self]

end Invariants

/-! ## Tasks made of something else -/

section Asked

variable {σ : Type*} {f : σ → τ} {g : τ → σ} {sources : List σ} {outcomes : List (τ × ρ)}

/-- Some of a list, changed one by one. -/
theorem subperm_map {α β : Type*} {l l' : List α} (f : α → β) (h : l.Subperm l') :
    (l.map f).Subperm (l'.map f) := by
  obtain ⟨k, hperm, hsub⟩ := h
  exact ⟨k.map f, hperm.map f, hsub.map f⟩

/-- **Outcomes of tasks made of a list** are outcomes of what they were made
of. -/
theorem exists_asked (hgf : ∀ s, g (f s) = s)
    (hsub : (outcomes.map Prod.fst).Subperm (sources.map f)) :
    ∃ asked : List (σ × ρ), asked.map Prod.snd = outcomes.map Prod.snd ∧
      (asked.map Prod.fst).Subperm sources ∧ (∀ p ∈ asked, (f p.1, p.2) ∈ outcomes) ∧
      ((outcomes.map Prod.fst).Perm (sources.map f) → (asked.map Prod.fst).Perm sources) := by
  have hback : (sources.map f).map g = sources := by simp [Function.comp_def, hgf]
  have hfst : (outcomes.map fun p => (g p.1, p.2)).map Prod.fst =
      (outcomes.map Prod.fst).map g := by simp [Function.comp_def]
  refine ⟨outcomes.map fun p => (g p.1, p.2), by simp [Function.comp_def], ?_, ?_, fun hperm => ?_⟩
  · rw [hfst, ← hback]
    exact subperm_map g hsub
  · intro p hp
    obtain ⟨q, hq, rfl⟩ := List.mem_map.1 hp
    -- a task of the list is made of what it is read back as
    obtain ⟨s, -, hs⟩ := List.mem_map.1 (hsub.subset (List.mem_map_of_mem hq))
    have hq1 : f (g q.1) = q.1 := by rw [← hs, hgf]
    rwa [hq1]
  · rw [hfst, ← hback]
    exact hperm.map g

end Asked

/-! ## No job waits for ever -/

section Ends

/-- A sum over a list, one place of which is written. -/
theorem sum_map_set {α : Type*} {w : α → ℕ} {l : List α} {i : ℕ} {a b : α}
    (h : l[i]? = some a) : ((l.set i b).map w).sum + w a = (l.map w).sum + w b := by
  induction l generalizing i with
  | nil => cases h
  | cons x l ih =>
      cases i with
      | zero =>
          cases h
          simp only [List.set_cons_zero, List.map_cons, List.sum_cons]
          omega
      | succ i =>
          have := ih (i := i) h
          simp only [List.set_cons_succ, List.map_cons, List.sum_cons]
          omega

/-- **A caller that ends**: its steps count down to a last state, and it
waits for nothing but its futures. -/
structure CallerRule.Ends (rule : CallerRule τ ρ γ) where
  left : ℕ → γ → ℕ
  isLast : γ → Prop
  step_lt : ∀ {fs fs' c c'}, rule.step fs c fs' c' → left fs.length c' < left fs.length c
  proceeds : ∀ {fs c}, (∀ f ∈ fs, f.isDone = true) → ¬ isLast c → ∃ fs' c', rule.step fs c fs' c'

variable {workers : ℕ} {outcome : τ → ρ → Prop} {rule : CallerRule τ ρ γ} (ends : rule.Ends)
  {jobs jobs' : List (Job τ ρ γ)} {job job' : Job τ ρ γ} {l l' : List ExecutorEvent}

/-- How far a job is from its end. -/
def Job.weight (job : Job τ ρ γ) : ℕ :=
  3 * (job.tasks.length - job.futures.length) + (job.futures.map Future.weight).sum +
    ends.left job.tasks.length job.caller

/-- Cancelling brings nothing further from its end, and takes no worker. -/
theorem sum_map_cancels {fs fs' : List (Future ρ)} (h : List.Forall₂ Future.Cancels fs fs') :
    (fs'.map Future.weight).sum ≤ (fs.map Future.weight).sum ∧
      (fs'.map Future.busy).sum = (fs.map Future.busy).sum := by
  induction h with
  | nil => exact ⟨Nat.le_refl _, rfl⟩
  | cons hf _ ih =>
      simp only [List.map_cons, List.sum_cons]
      obtain ⟨hw, hr⟩ := ih
      rcases hf with rfl | ⟨rfl, rfl⟩
      · exact ⟨by omega, by omega⟩
      · simp only [Future.weight, Future.busy]
        exact ⟨by omega, by omega⟩

/-- **A step brings a job nearer to its end.** -/
theorem JobStep.weight_lt (h : JobStep outcome rule job job') :
    job'.weight ends < job.weight ends := by
  cases h with
  | submit hlt =>
      simp only [Job.weight, List.length_append, List.length_singleton, List.map_append,
        List.sum_append, List.map_singleton, List.sum_singleton, Future.weight]
      omega
  | start hi =>
      have := sum_map_set (w := Future.weight) (b := .running) hi
      simp only [Future.weight] at this
      simp only [Job.weight, List.length_set]
      omega
  | @finish i task r hi _ _ =>
      have := sum_map_set (w := Future.weight) (b := .finished r) hi
      simp only [Future.weight] at this
      simp only [Job.weight, List.length_set]
      omega
  | proceed hlen hs =>
      have hlt := ends.step_lt hs
      have hle := (sum_map_cancels (rule.cancels hs)).1
      have hfs := (rule.cancels hs).length_eq
      simp only [Job.weight]
      rw [hlen] at hlt
      omega

/-- **A run that no caller joins is no longer than its jobs are far from
their ends.** -/
theorem length_add_weight_le (h : Run (ExecutorStep workers outcome rule) jobs l jobs')
    (hl : .call ∉ l) :
    l.length + (jobs'.map (Job.weight ends)).sum ≤ (jobs.map (Job.weight ends)).sum := by
  induction h with
  | nil => simp
  | snoc _ hs ih =>
      rw [List.mem_append, List.mem_singleton, not_or] at hl
      have hrun := ih hl.1
      rw [List.length_append, List.length_singleton]
      cases hs with
      | call => exact absurd rfl hl.2
      | @move k job job' hk hj _ =>
          have hset := sum_map_set (w := Job.weight ends) (b := job') hk
          have hlt := hj.weight_lt ends
          omega

/-- **A job is over**: its caller is at a last state, and nothing of it is
in the queue or running. -/
structure Job.Over (job : Job τ ρ γ) : Prop where
  isLast : ends.isLast job.caller
  submitted : job.futures.length = job.tasks.length
  isDone : ∀ f ∈ job.futures, f.isDone = true

variable {ends} in
/-- A job that is not over can be brought further, by its caller, by a
worker that is free, or by one that is not. -/
theorem exists_step (hw : 0 < workers) (hout : ∀ task, ∃ r, outcome task r)
    (hsound : ∀ job ∈ jobs, job.Sound outcome) (hrun : runningTasks jobs ≤ workers)
    (hjob : job ∈ jobs) (hover : ¬ job.Over ends) :
    ∃ k jobs', ExecutorStep workers outcome rule jobs (.move k) jobs' := by
  -- a step that takes no worker is always there to be taken
  have hmove : ∀ {k : ℕ} {x x' : Job τ ρ γ}, jobs[k]? = some x →
      JobStep outcome rule x x' → x'.running ≤ x.running →
      ∃ k jobs', ExecutorStep workers outcome rule jobs (.move k) jobs' := by
    intro k x x' hk hs hle
    have hset := sum_map_set (w := Job.running) (b := x') hk
    exact ⟨k, _, .move hk hs (by simp only [runningTasks] at hrun ⊢; omega)⟩
  -- and a running task can be finished
  have hfinish : ∀ {k : ℕ} {x : Job τ ρ γ}, jobs[k]? = some x → .running ∈ x.futures →
      ∃ k jobs', ExecutorStep workers outcome rule jobs (.move k) jobs' := by
    intro k x hk hmem
    obtain ⟨i, hi⟩ := List.getElem?_of_mem hmem
    have hlt : i < x.tasks.length := by
      have := (List.getElem?_eq_some_iff.1 hi).1
      have := (hsound x (List.mem_of_getElem? hk)).length_le
      omega
    obtain ⟨r, hr⟩ := hout x.tasks[i]
    refine hmove hk (.finish hi (List.getElem?_eq_getElem hlt) hr) ?_
    have := sum_map_set (w := Future.busy) (b := .finished r) hi
    simp only [Future.busy] at this
    simp only [Job.running]
    omega
  obtain ⟨k, hk⟩ := List.getElem?_of_mem hjob
  rcases Nat.lt_or_eq_of_le (hsound job hjob).length_le with hlt | hlen
  · refine hmove hk (.submit hlt) ?_
    simp [Job.running, Future.busy]
  · by_cases hdone : ∀ f ∈ job.futures, f.isDone = true
    · have hlast : ¬ ends.isLast job.caller := fun h => hover ⟨h, hlen, hdone⟩
      obtain ⟨fs, c, hs⟩ := ends.proceeds hdone hlast
      exact hmove hk (.proceed hlen hs) (Nat.le_of_eq (sum_map_cancels (rule.cancels hs)).2)
    · obtain ⟨f, hf, hnot⟩ : ∃ f ∈ job.futures, f.isDone ≠ true := by simpa using hdone
      cases f with
      | finished r => exact absurd rfl hnot
      | cancelled => exact absurd rfl hnot
      | running => exact hfinish hk hf
      | pending =>
          obtain ⟨i, hi⟩ := List.getElem?_of_mem hf
          rcases Nat.lt_or_eq_of_le hrun with hfree | hfull
          · have hset := sum_map_set (w := Job.running)
              (b := { job with futures := job.futures.set i .running }) hk
            have hone := sum_map_set (w := Future.busy) (b := .running) hi
            refine ⟨k, _, .move hk (.start hi) ?_⟩
            simp only [runningTasks, Job.running, Future.busy] at hset hone hfree ⊢
            omega
          · -- no worker is free, so some task is running
            have hpos : 0 < (jobs.map Job.running).sum := by
              simp only [runningTasks] at hfull
              omega
            obtain ⟨n, hn, hnpos⟩ := List.exists_mem_ne_zero_of_sum_ne_zero (Nat.ne_of_gt hpos)
            obtain ⟨x, hx, rfl⟩ := List.mem_map.1 hn
            obtain ⟨m, hm, hmpos⟩ := List.exists_mem_ne_zero_of_sum_ne_zero hnpos
            obtain ⟨f, hf, rfl⟩ := List.mem_map.1 hm
            obtain ⟨k', hk'⟩ := List.getElem?_of_mem hx
            cases f with
            | running => exact hfinish hk' hf
            | pending => exact absurd rfl hmpos
            | finished r => exact absurd rfl hmpos
            | cancelled => exact absurd rfl hmpos

/-- **No job waits for ever**: a run that can be taken no further has every
job over. -/
theorem over_of_maximal (hw : 0 < workers) (hout : ∀ task, ∃ r, outcome task r)
    (h : Run (ExecutorStep workers outcome rule) [] l jobs)
    (hmax : ∀ k jobs', ¬ ExecutorStep workers outcome rule jobs (.move k) jobs') :
    ∀ job ∈ jobs, job.Over ends := by
  intro job hjob
  by_contra hover
  obtain ⟨k, jobs', hs⟩ := exists_step hw hout (sound_of_run h) (runningTasks_le h) hjob hover
  exact hmax k jobs' hs

/-- **A run that no caller joins is bounded**, keeps what its callers keep,
and when it can be taken no further every job is over. -/
theorem ends_of_run {α : Type*} {f : γ → α} (hw : 0 < workers)
    (hout : ∀ task, ∃ r, outcome task r)
    (hf : ∀ {fs fs' c c'}, rule.step fs c fs' c' → f c' = f c)
    (h : Run (ExecutorStep workers outcome rule) [] l jobs) :
    ∃ bound, ∀ l' (jobs' : List (Job τ ρ γ)),
      Run (ExecutorStep workers outcome rule) jobs l' jobs' → .call ∉ l' →
      l'.length ≤ bound ∧
      jobs'.map (fun job => f job.caller) = jobs.map (fun job => f job.caller) ∧
      ((∀ k next, ¬ ExecutorStep workers outcome rule jobs' (.move k) next) →
        ∀ job ∈ jobs', job.Over ends) := by
  refine ⟨(jobs.map (Job.weight ends)).sum, fun l' jobs' hrun hl => ⟨?_, ?_, ?_⟩⟩
  · exact Nat.le_trans (Nat.le_add_right _ _) (length_add_weight_le ends hrun hl)
  · refine map_eq_of_run (fun hstep => ?_) hrun hl
    cases hstep with
    | proceed _ hc => exact hf hc
    | _ => rfl
  · exact fun hmax => over_of_maximal ends hw hout (h.append hrun) hmax

end Ends

end WazoDird
