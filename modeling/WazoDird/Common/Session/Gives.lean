import WazoDird.Common.Session.Body

/-!
# What a body makes of a database that is up

While the driver is up, a body makes of what is committed and of what its
transaction sees an answer and a new database, or raises (`Body.Gives`).
There is a rule for each form of body, so that a body written as accesses
can be compared with a function on databases.
-/

namespace WazoDird

namespace Body

variable {σ ε ι α β : Type} {p q : Body σ ε α} {f : α → Body σ ε β} {a : α}

/-- What is committed in a session, and what its transaction sees. -/
structure Holds (s : Session σ) (c v : σ) : Prop where
  committed : s.committed = c
  view : s.view = v
  begun : s.begun = false → v = c

theorem holds_fresh (db : σ) : Holds (.fresh db) db db := ⟨rfl, rfl, fun _ => rfl⟩

/-- **What a body does, and what its transaction sees then**, while the
driver is up. -/
def Runs (p : Body σ ε α) (c v : σ) (r : Except ε α) (v' : σ) : Prop :=
  ∀ drv s, drv.Up → Holds s c v → ∃ s', p drv s = (r.mapError .error, s') ∧ Holds s' c v'

/-- **What a body gives**, while the driver is up: what it makes of the
database and its answer, or its error. -/
def Gives (p : Body σ ε α) (c v : σ) : Except ε (σ × α) → Prop
  | .ok (v', a) => Runs p c v (.ok a) v'
  | .error e => ∃ v', Runs p c v (.error e) v'

variable {c v v' : σ} {r : Except ε (σ × α)}

theorem gives_pure (a : α) : Gives (pure a : Body σ ε α) c v (.ok (v, a)) :=
  fun _ s _ hs => ⟨s, rfl, hs⟩

theorem gives_raise (e : ε) : Gives (raise e : Body σ ε α) c v (.error e) :=
  ⟨v, fun _ s _ hs => ⟨s, rfl, hs⟩⟩

theorem gives_held (g : σ → Except ε α) : Gives (held g) c v ((g v).map fun a => (v, a)) := by
  have hheld : ∀ r, g v = r → Runs (held g) c v r v :=
    fun r hr _ s _ hs => ⟨s, by rw [held, hs.view, hr], hs⟩
  cases hg : g v with
  | error e => exact ⟨v, hheld _ hg⟩
  | ok a => exact hheld _ hg

theorem gives_rollback : Gives (rollback : Body σ ε Unit) c v (.ok (c, ())) :=
  fun _ _ _ hs => ⟨_, rfl, hs.committed, hs.committed, fun _ => rfl⟩

/-- An access that raises leaves what the transaction saw. -/
theorem runs_access_error {g : σ → Except ε (σ × α)} {e : ε} (hg : g v = .error e) :
    Runs (access g) c v (.error e) v := by
  refine fun drv s hup hs => ⟨_, access_of_error (hup.outage? _) ?_, ?_⟩
  · rw [hs.view, hg]
  · exact ⟨hs.committed, hs.view, nofun⟩

theorem gives_access (g : σ → Except ε (σ × α)) : Gives (access g) c v (g v) := by
  cases hg : g v with
  | error e => exact ⟨v, runs_access_error hg⟩
  | ok va =>
    refine fun drv s hup hs => ⟨_, access_of_ok (hup.outage? _) (v := va.1) ?_, ?_⟩
    · rw [hs.view, hg]
    · exact ⟨hs.committed, rfl, nofun⟩

/-- A query that raises leaves what the transaction saw. -/
theorem runs_fetch_error {g : σ → Except ε α} {e : ε} (hg : g v = .error e) :
    Runs (fetch g) c v (.error e) v :=
  runs_access_error (by rw [hg]; rfl)

theorem gives_fetch (g : σ → Except ε α) : Gives (fetch g) c v ((g v).map fun a => (v, a)) :=
  gives_access _

theorem gives_fetchIf {b : Prop} [Decidable b] (g : σ → Except ε α) :
    Gives (fetchIf b g) c v ((g v).map fun a => (v, a)) := by
  unfold fetchIf
  split
  · exact gives_fetch g
  · exact gives_held g

theorem gives_query (g : σ → α) : Gives (query g : Body σ ε α) c v (.ok (v, g v)) :=
  gives_access _

theorem gives_load : Gives (load : Body σ ε Unit) c v (.ok (v, ())) := gives_query _

/-- One body after another, the first of which gives something. -/
theorem Gives.bind_ok {r : Except ε (σ × β)} (hp : Gives p c v (.ok (v', a)))
    (hf : Gives (f a) c v' r) : Gives (p >>= f) c v r := by
  have hbind : ∀ {b : Except ε β} {w : σ}, Runs (f a) c v' b w → Runs (p >>= f) c v b w := by
    intro b w h drv s hup hs
    obtain ⟨s', hrun, hs'⟩ := hp drv s hup hs
    obtain ⟨s'', hrun', hs''⟩ := h drv s' hup hs'
    exact ⟨s'', (bind_of_ok hrun).trans hrun', hs''⟩
  cases r with
  | error e =>
    obtain ⟨w, h⟩ := hf
    exact ⟨w, hbind h⟩
  | ok va => exact hbind hf

/-- One body after another, the first of which raises. -/
theorem Runs.bind_error {e : ε} (hp : Runs p c v (.error e) v') :
    Runs (p >>= f) c v (.error e) v' := by
  intro drv s hup hs
  obtain ⟨s', hrun, hs'⟩ := hp drv s hup hs
  exact ⟨s', bind_of_error hrun, hs'⟩

theorem Gives.bind_error {e : ε} (hp : Gives p c v (.error e)) :
    Gives (p >>= f) c v (.error e) := by
  obtain ⟨w, h⟩ := hp
  exact ⟨w, h.bind_error⟩

/-- **One body after another gives what one after the other does.** -/
theorem Gives.bind {k : σ × α → Except ε (σ × β)} (hp : Gives p c v r)
    (hf : ∀ v' a, r = .ok (v', a) → Gives (f a) c v' (k (v', a))) :
    Gives (p >>= f) c v (r >>= k) := by
  cases r with
  | error e => exact hp.bind_error
  | ok va => exact hp.bind_ok (hf va.1 va.2 rfl)

/-- **A step of a body is a step of what it gives**: what it answers, and
the database it leaves, go into the next. -/
theorem Gives.bind_map {γ : Type} {x : Except ε γ} {g : γ → σ × α} {k : γ → Except ε (σ × β)}
    (hp : Gives p c v (x.map g)) (hf : ∀ z, x = .ok z → Gives (f (g z).2) c (g z).1 (k z)) :
    Gives (p >>= f) c v (x >>= k) := by
  cases x with
  | error e => exact hp.bind_error
  | ok z => exact hp.bind_ok (hf z rfl)

theorem gives_queryEach (g : α → σ → β) (l : List α) :
    Gives (queryEach g l : Body σ ε (List β)) c v (.ok (v, l.map fun a => g a v)) := by
  induction l with
  | nil => exact gives_pure []
  | cons a l ih => exact (gives_query (g a)).bind_ok (ih.bind_ok (gives_pure _))

/-- A flush whose integrity error is caught. -/
theorem gives_attempt (g : σ → Except ε (Except ι (σ × α))) :
    Gives (attempt g) c v ((g v).map fun r =>
      match r with
      | .error e => (v, .error e)
      | .ok (v', a) => (v', .ok a)) :=
  gives_access _

/-- A flush whose integrity error is raised as another. -/
theorem gives_flushOrRaise (g : σ → Except ε (Except ι (σ × α))) (handler : ι → ε) :
    Gives (flushOrRaise g handler) c v (g v >>= fun r => r.mapError handler) := by
  have hattempt := gives_attempt (c := c) (v := v) g
  cases hg : g v with
  | error e =>
    rw [hg] at hattempt
    exact hattempt.bind_error
  | ok r =>
    rw [hg] at hattempt
    cases r with
    | error e => exact hattempt.bind_ok (gives_raise (handler e))
    | ok va => exact hattempt.bind_ok (gives_pure va.2)

theorem gives_onlyIf {b : Prop} [Decidable b] {p : Body σ ε Unit} {v' : σ}
    (hp : b → Gives p c v (.ok (v', ()))) (hv : ¬ b → v' = v) :
    Gives (onlyIf b p) c v (.ok (v', ())) := by
  unfold onlyIf
  split
  · next hb => exact hp hb
  · next hb =>
    rw [hv hb]
    exact gives_pure ()

/-- A body no error of which is caught. -/
theorem Gives.tryExcept {handler : ε → Option (Body σ ε α)} (hp : Gives p c v r)
    (h : ∀ e, r = .error e → handler e = none) : Gives (tryExcept p handler) c v r := by
  cases r with
  | error e =>
    obtain ⟨w, hp⟩ := hp
    refine ⟨w, fun drv s hup hs => ?_⟩
    obtain ⟨s', hrun, hs'⟩ := hp drv s hup hs
    refine ⟨s', ?_, hs'⟩
    simp only [Body.tryExcept, hrun, Except.mapError, h e rfl]
  | ok va =>
    intro drv s hup hs
    obtain ⟨s', hrun, hs'⟩ := hp drv s hup hs
    refine ⟨s', ?_, hs'⟩
    simp only [Body.tryExcept, hrun, Except.mapError]

/-- A body whose error is caught: what its handler gives. -/
theorem Runs.tryExcept {handler : ε → Option (Body σ ε α)} {e : ε}
    (hp : Runs p c v (.error e) v') (hh : handler e = some q) (hq : Gives q c v' r) :
    Gives (Body.tryExcept p handler) c v r := by
  have htry : ∀ {b : Except ε α} {w : σ}, Runs q c v' b w →
      Runs (Body.tryExcept p handler) c v b w := by
    intro b w h drv s hup hs
    obtain ⟨s', hrun, hs'⟩ := hp drv s hup hs
    obtain ⟨s'', hrun', hs''⟩ := h drv s' hup hs'
    refine ⟨s'', ?_, hs''⟩
    simp only [Body.tryExcept, hrun, Except.mapError, hh, hrun']
  cases r with
  | error e' =>
    obtain ⟨w, h⟩ := hq
    exact ⟨w, htry h⟩
  | ok va => exact htry hq

/-- A clause that is run whatever was raised. -/
theorem Runs.finallyReturn {clause : Except (Raised ε) α → Body σ ε β} {b : Except ε α}
    {r : Except ε (σ × β)} (hp : Runs p c v b v')
    (hq : Gives (clause (b.mapError .error)) c v' r) : Gives (finallyReturn p clause) c v r := by
  have hfinally : ∀ {b' : Except ε β} {w : σ}, Runs (clause (b.mapError .error)) c v' b' w →
      Runs (Body.finallyReturn p clause) c v b' w := by
    intro b' w h drv s hup hs
    obtain ⟨s', hrun, hs'⟩ := hp drv s hup hs
    obtain ⟨s'', hrun', hs''⟩ := h drv s' hup hs'
    refine ⟨s'', ?_, hs''⟩
    simp only [Body.finallyReturn, hrun, hrun']
  cases r with
  | error e' =>
    obtain ⟨w, h⟩ := hq
    exact ⟨w, hfinally h⟩
  | ok va => exact hfinally hq

/-- A savepoint keeps what its body did. -/
theorem Gives.nested (hp : Gives p c v (.ok (v', a))) : Gives (nested p) c v (.ok (v', a)) := by
  refine Gives.bind_ok gives_load fun drv s hup hs => ?_
  have hbody : Gives (p >>= fun a => load >>= fun _ => pure a) c v (.ok (v', a)) :=
    hp.bind_ok (gives_load.bind_ok (gives_pure a))
  obtain ⟨s', hrun, hs'⟩ := hbody drv s hup hs
  refine ⟨s', ?_, hs'⟩
  change Body.restoring (p >>= fun a => load >>= fun _ => pure a) drv s = _
  simp only [Body.restoring, hrun, Except.mapError]

/-- **A savepoint takes back what its body did, when it raises.** -/
theorem Gives.nested_error {e : ε} (hp : Gives p c v (.error e)) :
    Runs (Body.nested p) c v (.error e) v := by
  intro drv s hup hs
  obtain ⟨s₁, hload, hs₁⟩ := gives_load (ε := ε) drv s hup hs
  have hbody : Gives (p >>= fun a => load >>= fun _ => pure a) c v (.error e) := hp.bind_error
  obtain ⟨w, hbody⟩ := hbody
  obtain ⟨s', hrun, hs'⟩ := hbody drv s₁ hup hs₁
  refine ⟨{ s' with view := s₁.view, begun := s₁.begun }, ?_, hs'.committed, hs₁.view, hs₁.begun⟩
  refine (bind_of_ok hload).trans ?_
  change Body.restoring (p >>= fun a => load >>= fun _ => pure a) drv s₁ = _
  simp only [Body.restoring, hrun, Except.mapError]

/-- **A loop gives what its turns do**, where the state of the one is what
the other holds and sees. -/
theorem gives_foldlM {γ : Type} {turn : γ → α → Body σ ε γ} {step : β → α → Except ε β}
    {acc : β → γ} {see : β → σ}
    (h : ∀ b a, Gives (turn (acc b) a) c (see b) ((step b a).map fun b' => (see b', acc b')))
    (l : List α) (b : β) :
    Gives (l.foldlM turn (acc b)) c (see b)
      ((l.foldlM step b).map fun b' => (see b', acc b')) := by
  induction l generalizing b with
  | nil => exact gives_pure (acc b)
  | cons a l ih =>
    rw [List.foldlM_cons, List.foldlM_cons]
    have hturn := h b a
    cases hstep : step b a with
    | error e =>
      rw [hstep] at hturn
      exact hturn.bind_error
    | ok b' =>
      rw [hstep] at hturn
      exact hturn.bind_ok (ih b')

end Body

end WazoDird
