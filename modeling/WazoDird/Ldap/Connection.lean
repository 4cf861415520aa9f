import WazoDird.Ldap.Client

/-!
# The connection of an LDAP client

`_LDAPClient` of `plugins/ldap_backend/plugin.py`, call by call. Its
connection object is created, bound, searched and unbound, and each bind
or search gives what the server makes of it. The methods are programs that
may raise: one that is called on no object does.
-/

namespace WazoDird

/-- A call on the library, with its object and what it gave. -/
inductive LdapCall where
  | newLdapObj (obj : ℕ)
  | simpleBind (obj : ℕ) (outcome : Except LdapError Unit)
  | searchExt (obj : ℕ) (filterStr : Option String) (limit : ℤ)
      (outcome : Except LdapError (List RawResult))
  | unbind (obj : ℕ)

namespace LdapCall

/-- The object of a call. -/
def obj : LdapCall → ℕ
  | newLdapObj obj | simpleBind obj _ | searchExt obj _ _ _ | unbind obj => obj

/-- A call that creates an object. -/
def isNew : LdapCall → Bool
  | newLdapObj _ => true
  | _ => false

/-- What a call that searches gave. -/
def attempt? : LdapCall → Option (Except LdapError (List RawResult))
  | searchExt _ _ _ outcome => some outcome
  | _ => none

end LdapCall

/-- **What the calls give**, each by the calls before it: any sequence of
outcomes is such a choice. -/
structure LdapOutcomes where
  bind : List LdapCall → Except LdapError Unit
  search : List LdapCall → Except LdapError (List RawResult)

/-- `_LDAPClient`: its connection object, and the calls made so far. -/
structure LdapConnection where
  ldapObj : Option ℕ := none
  calls : List LdapCall := []

namespace LdapConnection

/-- What a method raises. -/
inductive Raised where
  /-- A method is called on `None`. -/
  | attributeError
  | ldapError (error : LdapError)

/-- A method of the client. What it changed stays when it raises. -/
abbrev Method := EStateM Raised LdapConnection

/-- The object whose method is called. -/
def theLdapObj : Method ℕ := do
  match (← get).ldapObj with
  | some obj => return obj
  | none => throw .attributeError

/-- A call is made. -/
def make (call : LdapCall) : Method Unit :=
  modify fun s => { s with calls := s.calls ++ [call] }

/-- The error a call gave is raised. -/
def raiseLdap {α : Type} : Except LdapError α → Method α
  | .ok value => return value
  | .error error => throw (.ldapError error)

variable (outcomes : LdapOutcomes) (filterStr : Option String) (limit : ℤ)

/-- `_is_set_up`. -/
def isSetUp : Method Bool := return (← get).ldapObj.isSome

/-- `_tear_down`. -/
def tearDown : Method Unit := do
  make (.unbind (← theLdapObj))
  modify fun s => { s with ldapObj := none }

/-- `simple_bind_s` of the connection object. -/
def simpleBind : Method Unit := do
  let obj ← theLdapObj
  let outcome := outcomes.bind (← get).calls
  make (.simpleBind obj outcome)
  raiseLdap outcome

/-- A bind that raised tears the connection down. -/
def bindFailed : Raised → Method Unit
  | .ldapError _ => tearDown
  | .attributeError => throw .attributeError

/-- `_bind`. -/
def bind : Method Unit := tryCatch (simpleBind outcomes) bindFailed

/-- `_new_ldap_obj`. An object is known by the number of calls before it. -/
def newLdapObj : Method ℕ := do
  let obj := (← get).calls.length
  make (.newLdapObj obj)
  return obj

/-- `_set_up`. -/
def setUpAnew : Method Unit := do
  let obj ← newLdapObj
  modify fun s => { s with ldapObj := some obj }
  bind outcomes

/-- `set_up`. -/
def setUp : Method Unit := do
  unless ← isSetUp do
    setUpAnew outcomes

/-- `close`. -/
def close : Method Unit := do
  if ← isSetUp then
    tearDown

/-- `search_ext_s` of the connection object. -/
def searchExt : Method (List RawResult) := do
  let obj ← theLdapObj
  let outcome := outcomes.search (← get).calls
  make (.searchExt obj filterStr limit outcome)
  raiseLdap outcome

/-- The handlers of `_search`. Four kinds of errors keep the connection. -/
def searchFailed : Raised → Method (List RawResult)
  | .ldapError error => do
    if error.tearsDown then
      tearDown
    return []
  | .attributeError => throw .attributeError

/-- `_search`. -/
def searchOnce : Method (List RawResult) :=
  tryCatch (searchExt outcomes filterStr limit) searchFailed

/-- An attempt of a search, on a connection that is set up, and once more
on a new one where the client may retry. -/
def searchSetUp (retry : Bool) : Method (List RawResult) := do
  let results ← searchOnce outcomes filterStr limit
  if !(← isSetUp) && retry then
    setUpAnew outcomes
    if ← isSetUp then searchOnce outcomes filterStr limit else return []
  else
    return results

/-- `search`. A connection made for this search is not made again. -/
def search : Method (List RawResult) := do
  if ← isSetUp then
    searchSetUp outcomes filterStr limit true
  else
    setUpAnew outcomes
    if ← isSetUp then searchSetUp outcomes filterStr limit false else return []

/-! ## What each method does -/

section Run

variable {α β : Type} (m : Method α) (f : α → Method β) (s : LdapConnection)

@[simp] theorem bind_apply : (m >>= f) s = match m s with
    | .ok value t => f value t
    | .error raised t => .error raised t := by
  cases h : m s <;> simp [Bind.bind, EStateM.bind, h]

@[simp] theorem tryCatch_apply (handler : Raised → Method α) :
    tryCatch m handler s = match m s with
      | .ok value t => .ok value t
      | .error raised t => handler raised t := by
  simp only [tryCatch, tryCatchThe, MonadExceptOf.tryCatch, EStateM.tryCatch]
  cases m s <;> rfl

@[simp] theorem map_apply (g : α → β) : (g <$> m) s = match m s with
    | .ok value t => .ok (g value) t
    | .error raised t => .error raised t := by
  cases h : m s <;> simp [Functor.map, EStateM.map, h]

@[simp] theorem pure_apply (value : α) : (pure value : Method α) s = .ok value s := rfl

@[simp] theorem throw_apply (raised : Raised) : (throw raised : Method α) s = .error raised s := rfl

@[simp] theorem get_apply : (get : Method LdapConnection) s = .ok s s := rfl

@[simp] theorem modify_apply (g : LdapConnection → LdapConnection) :
    (modify g : Method PUnit) s = .ok ⟨⟩ (g s) := rfl

@[simp] theorem raiseLdap_ok (value : α) : raiseLdap (.ok value) s = .ok value s := rfl

@[simp] theorem raiseLdap_error (error : LdapError) :
    (raiseLdap (.error error) : Method α) s = .error (.ldapError error) s := rfl

end Run

variable {outcomes filterStr limit} {s t : LdapConnection} {obj : ℕ} {error : LdapError}

@[simp] theorem isSetUp_apply : isSetUp s = .ok s.ldapObj.isSome s := rfl

/-- An object has its methods. -/
theorem theLdapObj_some (h : s.ldapObj = some obj) : theLdapObj s = .ok obj s := by
  simp [theLdapObj, h]

@[simp] theorem make_apply (call : LdapCall) :
    make call s = .ok ⟨⟩ ⟨s.ldapObj, s.calls ++ [call]⟩ := rfl

@[simp] theorem newLdapObj_apply : newLdapObj s =
    .ok s.calls.length ⟨s.ldapObj, s.calls ++ [.newLdapObj s.calls.length]⟩ := rfl

/-- A connection that was created and bound. -/
def opened (s : LdapConnection) : LdapConnection :=
  ⟨some s.calls.length, s.calls ++ [.newLdapObj s.calls.length, .simpleBind s.calls.length (.ok ())]⟩

/-- A connection that was created, not bound, and torn down. -/
def refused (s : LdapConnection) (error : LdapError) : LdapConnection :=
  ⟨none, s.calls ++ [.newLdapObj s.calls.length, .simpleBind s.calls.length (.error error),
    .unbind s.calls.length]⟩

/-- An attempt that ends the connection. -/
def loses : Except LdapError (List RawResult) → Bool
  | .ok _ => false
  | .error error => error.tearsDown

/-- A connection that was searched, and torn down when the attempt lost it. -/
def attempted (s : LdapConnection) (obj : ℕ) (filterStr : Option String) (limit : ℤ)
    (outcome : Except LdapError (List RawResult)) : LdapConnection :=
  if loses outcome then
    ⟨none, s.calls ++ [.searchExt obj filterStr limit outcome, .unbind obj]⟩
  else ⟨some obj, s.calls ++ [.searchExt obj filterStr limit outcome]⟩

/-- The results of an attempt, none when it failed. -/
def resultsOf (outcome : Except LdapError (List RawResult)) : List RawResult :=
  outcome.toOption.getD []

/-- What the next bind gives. -/
def nextBind (outcomes : LdapOutcomes) (s : LdapConnection) : Except LdapError Unit :=
  outcomes.bind (s.calls ++ [.newLdapObj s.calls.length])

theorem tearDown_some (h : s.ldapObj = some obj) :
    tearDown s = .ok ⟨⟩ ⟨none, s.calls ++ [.unbind obj]⟩ := by
  simp [tearDown, theLdapObj_some h]

/-- **A new connection that is bound.** -/
theorem setUpAnew_ok (h : nextBind outcomes s = .ok ()) :
    setUpAnew outcomes s = .ok ⟨⟩ s.opened := by
  have hbind : outcomes.bind (s.calls ++ [.newLdapObj s.calls.length]) = .ok () := h
  simp [setUpAnew, bind, simpleBind, theLdapObj, hbind, opened]

/-- **A new connection that is not bound** is none. -/
theorem setUpAnew_error (h : nextBind outcomes s = .error error) :
    setUpAnew outcomes s = .ok ⟨⟩ (s.refused error) := by
  have hbind : outcomes.bind (s.calls ++ [.newLdapObj s.calls.length]) = .error error := h
  simp [setUpAnew, bind, simpleBind, theLdapObj, hbind, bindFailed, tearDown, refused]

/-- **An attempt** on an object. -/
theorem searchOnce_some (hobj : s.ldapObj = some obj) :
    searchOnce outcomes filterStr limit s = .ok (resultsOf (outcomes.search s.calls))
      (s.attempted obj filterStr limit (outcomes.search s.calls)) := by
  simp only [searchOnce, searchExt, tryCatch_apply, bind_apply, theLdapObj_some hobj, get_apply,
    make_apply]
  cases outcomes.search s.calls with
  | ok results => simp [attempted, loses, resultsOf, hobj, Except.toOption]
  | error error =>
    cases htears : error.tearsDown <;>
      simp [searchFailed, attempted, loses, resultsOf, hobj, htears, tearDown, theLdapObj,
        Except.toOption]

/-- **The ways a search goes.** -/
inductive Searches (outcomes : LdapOutcomes) (filterStr : Option String) (limit : ℤ)
    (s : LdapConnection) : List RawResult → LdapConnection → Prop
  /-- No connection, and none to be had. -/
  | refused {error : LdapError} : s.ldapObj = none → nextBind outcomes s = .error error →
      Searches outcomes filterStr limit s [] (s.refused error)
  /-- No connection, and an attempt on a new one. -/
  | opened : s.ldapObj = none → nextBind outcomes s = .ok () →
      Searches outcomes filterStr limit s (resultsOf (outcomes.search s.opened.calls))
        (s.opened.attempted s.calls.length filterStr limit (outcomes.search s.opened.calls))
  /-- An attempt that keeps the connection. -/
  | kept {obj : ℕ} : s.ldapObj = some obj → loses (outcomes.search s.calls) = false →
      Searches outcomes filterStr limit s (resultsOf (outcomes.search s.calls))
        (s.attempted obj filterStr limit (outcomes.search s.calls))
  /-- An attempt that loses the connection, and no other to be had. -/
  | lost {obj : ℕ} {t : LdapConnection} {error : LdapError} : s.ldapObj = some obj →
      loses (outcomes.search s.calls) = true →
      t = s.attempted obj filterStr limit (outcomes.search s.calls) →
      nextBind outcomes t = .error error →
      Searches outcomes filterStr limit s [] (t.refused error)
  /-- An attempt that loses the connection, and another on a new one. -/
  | retried {obj : ℕ} {t : LdapConnection} : s.ldapObj = some obj →
      loses (outcomes.search s.calls) = true →
      t = s.attempted obj filterStr limit (outcomes.search s.calls) →
      nextBind outcomes t = .ok () →
      Searches outcomes filterStr limit s (resultsOf (outcomes.search t.opened.calls))
        (t.opened.attempted t.calls.length filterStr limit (outcomes.search t.opened.calls))

/-- **Every search goes one of these ways**, and raises nothing. -/
theorem search_searches (s : LdapConnection) : ∃ results t,
    search outcomes filterStr limit s = .ok results t ∧
      Searches outcomes filterStr limit s results t := by
  cases hobj : s.ldapObj with
  | none =>
    cases hbind : nextBind outcomes s with
    | error error =>
      refine ⟨_, _, ?_, .refused hobj hbind⟩
      simp [search, hobj, setUpAnew_error hbind, LdapConnection.refused]
    | ok _ =>
      refine ⟨_, _, ?_, .opened hobj hbind⟩
      have hsome : s.opened.ldapObj = some s.calls.length := rfl
      simp [search, searchSetUp, hobj, setUpAnew_ok hbind, hsome, searchOnce_some hsome]
  | some obj =>
    cases hloses : loses (outcomes.search s.calls) with
    | false =>
      refine ⟨_, _, ?_, .kept hobj hloses⟩
      simp [search, searchSetUp, hobj, searchOnce_some hobj, attempted, hloses]
    | true =>
      -- the state between the two attempts
      obtain ⟨t, ht⟩ : ∃ t, t = s.attempted obj filterStr limit (outcomes.search s.calls) :=
        ⟨_, rfl⟩
      have hnone : t.ldapObj = none := by rw [ht, attempted, if_pos hloses]
      cases hbind : nextBind outcomes t with
      | error error =>
        refine ⟨_, _, ?_, .lost hobj hloses ht hbind⟩
        simp [search, searchSetUp, hobj, searchOnce_some hobj, ← ht, hnone, setUpAnew_error hbind,
          LdapConnection.refused]
      | ok _ =>
        refine ⟨_, _, ?_, .retried hobj hloses ht hbind⟩
        have hsome : t.opened.ldapObj = some t.calls.length := rfl
        simp [search, searchSetUp, hobj, searchOnce_some hobj, ← ht, hnone, setUpAnew_ok hbind,
          hsome, searchOnce_some hsome]

/-! ## Runs -/

/-- A call from outside on the client. -/
inductive Operation where
  | setUp
  | close
  | search (filterStr : Option String) (limit : ℤ)

/-- What an operation runs. Only a search gives results. -/
def Operation.perform (outcomes : LdapOutcomes) : Operation → Method (List RawResult)
  | setUp => do LdapConnection.setUp outcomes; return []
  | close => do LdapConnection.close; return []
  | search filterStr limit => LdapConnection.search outcomes filterStr limit

/-- **What an operation does.** A set-up makes a connection where there is
none, a close ends the one there is, and a search goes one of its ways. -/
inductive Does (outcomes : LdapOutcomes) (s : LdapConnection) :
    Operation → List RawResult → LdapConnection → Prop
  | alreadySetUp {obj : ℕ} : s.ldapObj = some obj → Does outcomes s .setUp [] s
  | setUp : s.ldapObj = none → nextBind outcomes s = .ok () → Does outcomes s .setUp [] s.opened
  | notSetUp {error : LdapError} : s.ldapObj = none → nextBind outcomes s = .error error →
      Does outcomes s .setUp [] (s.refused error)
  | alreadyClosed : s.ldapObj = none → Does outcomes s .close [] s
  | close {obj : ℕ} : s.ldapObj = some obj →
      Does outcomes s .close [] ⟨none, s.calls ++ [.unbind obj]⟩
  | search {filterStr : Option String} {limit : ℤ} {results : List RawResult}
      {t : LdapConnection} : Searches outcomes filterStr limit s results t →
      Does outcomes s (.search filterStr limit) results t

/-- **Every operation does what it does**, and raises nothing. -/
theorem perform_does (outcomes : LdapOutcomes) (s : LdapConnection) (op : Operation) :
    ∃ results t, op.perform outcomes s = .ok results t ∧ Does outcomes s op results t := by
  cases op with
  | setUp =>
    cases hobj : s.ldapObj with
    | some obj =>
      refine ⟨_, s, ?_, .alreadySetUp hobj⟩
      simp [Operation.perform, LdapConnection.setUp, hobj]
    | none =>
      cases hbind : nextBind outcomes s with
      | ok _ =>
        refine ⟨_, s.opened, ?_, .setUp hobj hbind⟩
        simp [Operation.perform, LdapConnection.setUp, hobj, setUpAnew_ok hbind]
      | error error =>
        refine ⟨_, s.refused error, ?_, .notSetUp hobj hbind⟩
        simp [Operation.perform, LdapConnection.setUp, hobj, setUpAnew_error hbind]
  | close =>
    cases hobj : s.ldapObj with
    | none =>
      refine ⟨_, s, ?_, .alreadyClosed hobj⟩
      simp [Operation.perform, LdapConnection.close, hobj]
    | some obj =>
      refine ⟨_, _, ?_, .close hobj⟩
      simp [Operation.perform, LdapConnection.close, hobj, tearDown_some hobj]
  | search filterStr limit =>
    obtain ⟨results, t, hsearch, hway⟩ := search_searches s
    exact ⟨results, t, hsearch, .search hway⟩

/-- The state that an operation leaves. -/
def after (outcomes : LdapOutcomes) (s : LdapConnection) (op : Operation) : LdapConnection :=
  match op.perform outcomes s with
  | .ok _ t | .error _ t => t

/-- The state that a run leaves, of a client that was just created. -/
def reached (outcomes : LdapOutcomes) (ops : List Operation) : LdapConnection :=
  ops.foldl (after outcomes) {}

/-- The calls that come after those of an earlier state. -/
def callsSince (s t : LdapConnection) : List LdapCall := t.calls.drop s.calls.length

/-- What the attempts since an earlier state gave, in their order. -/
def attemptsSince (s t : LdapConnection) : List (Except LdapError (List RawResult)) :=
  (callsSince s t).filterMap LdapCall.attempt?

/-- **Operations are safe**: what holds of one that began at a state, gave
results, and left another state. -/
structure Safe (s : LdapConnection) (results : List RawResult) (t : LdapConnection) : Prop where
  /-- At most one connection is made. -/
  reconnects : (callsSince s t).countP LdapCall.isNew ≤ 1
  /-- A search that had no connection to lose is not made again, and none
  is made more than twice. -/
  attempts : (attemptsSince s t).length ≤ if s.ldapObj.isSome then 2 else 1
  /-- The results are those of the last attempt, none when it failed or
  there was none. -/
  results_eq : results = ((attemptsSince s t).getLast?.map resultsOf).getD []
  /-- **A search that lost its connection and was bound anew** gives what
  its second attempt gave. -/
  retries : ∀ first rest obj, s.ldapObj.isSome → attemptsSince s t = first :: rest →
    loses first = true → LdapCall.simpleBind obj (.ok ()) ∈ callsSince s t →
    ∃ second, rest = [second] ∧ results = resultsOf second
  /-- **The connection object was bound**, and is not torn down. -/
  bound : ∀ obj, t.ldapObj = some obj →
    LdapCall.simpleBind obj (.ok ()) ∈ t.calls ∧ LdapCall.unbind obj ∉ t.calls

/-- The connection of a state was bound, and its calls are on objects made
before. -/
structure Sound (s : LdapConnection) : Prop where
  bound : ∀ obj, s.ldapObj = some obj →
    LdapCall.simpleBind obj (.ok ()) ∈ s.calls ∧ LdapCall.unbind obj ∉ s.calls
  known : ∀ call ∈ s.calls, call.obj < s.calls.length

namespace Sound

theorem init : Sound {} where
  bound _ h := by cases h
  known _ h := by cases h

/-- More calls on objects made before, and no connection. -/
theorem none (hs : s.Sound) {calls : List LdapCall}
    (h : ∀ call ∈ calls, call.obj < s.calls.length + calls.length) :
    Sound ⟨.none, s.calls ++ calls⟩ where
  bound _ h := by cases h
  known call hcall := by
    rw [List.length_append]
    rcases List.mem_append.1 hcall with hbefore | hafter
    · exact Nat.lt_add_right _ (hs.known call hbefore)
    · exact h call hafter

/-- A bound connection is one that no call before was on. -/
theorem opened (hs : s.Sound) : s.opened.Sound where
  bound obj h := by
    obtain rfl : s.calls.length = obj := Option.some.inj h
    refine ⟨by simp [LdapConnection.opened], fun hmem => ?_⟩
    have hbefore : LdapCall.unbind s.calls.length ∈ s.calls := by
      simpa [LdapConnection.opened] using hmem
    exact Nat.lt_irrefl _ (hs.known _ hbefore)
  known call hcall := by
    rcases List.mem_append.1 hcall with hbefore | hafter
    · have := hs.known call hbefore
      simp only [LdapConnection.opened, List.length_append]
      omega
    · simp only [List.mem_cons, List.not_mem_nil, or_false] at hafter
      rcases hafter with rfl | rfl <;> simp [LdapCall.obj, LdapConnection.opened]

/-- A connection that could not be bound is torn down. -/
theorem refused (hs : s.Sound) (error : LdapError) : (s.refused error).Sound := by
  refine hs.none fun call hcall => ?_
  simp only [List.mem_cons, List.not_mem_nil, or_false] at hcall
  rcases hcall with rfl | rfl | rfl <;> simp [LdapCall.obj]

/-- The object of a connection is one made before. -/
theorem lt_length (hs : s.Sound) (h : s.ldapObj = some obj) : obj < s.calls.length :=
  hs.known _ (hs.bound obj h).1

theorem closed (hs : s.Sound) (h : s.ldapObj = some obj) :
    Sound ⟨.none, s.calls ++ [.unbind obj]⟩ := by
  refine hs.none fun call hcall => ?_
  obtain rfl := List.mem_singleton.1 hcall
  exact Nat.lt_add_right _ (hs.lt_length h)

/-- An attempt keeps a bound connection, or ends it. -/
theorem attempted (hs : s.Sound) (h : s.ldapObj = some obj)
    (outcome : Except LdapError (List RawResult)) :
    (s.attempted obj filterStr limit outcome).Sound := by
  have hlt := hs.lt_length h
  unfold LdapConnection.attempted
  split
  · refine hs.none fun call hcall => ?_
    simp only [List.mem_cons, List.not_mem_nil, or_false] at hcall
    rcases hcall with rfl | rfl <;> exact Nat.lt_add_right _ hlt
  · obtain ⟨hbound, hunbind⟩ := hs.bound obj h
    refine ⟨fun obj' h' => ?_, fun call hcall => ?_⟩
    · obtain rfl : obj = obj' := Option.some.inj h'
      exact ⟨List.mem_append_left _ hbound, by simpa using hunbind⟩
    · rw [List.length_append]
      rcases List.mem_append.1 hcall with hbefore | hafter
      · exact Nat.lt_add_right _ (hs.known call hbefore)
      · obtain rfl := List.mem_singleton.1 hafter
        exact Nat.lt_add_right _ hlt

end Sound

/-- **A search keeps a client sound.** -/
theorem Searches.sound {results : List RawResult} (h : Searches outcomes filterStr limit s results t)
    (hs : s.Sound) : t.Sound := by
  cases h with
  | refused _ _ => exact hs.refused _
  | opened _ _ => exact hs.opened.attempted rfl _
  | kept hobj _ => exact hs.attempted hobj _
  | lost hobj _ ht _ =>
    subst ht
    exact (hs.attempted hobj _).refused _
  | retried hobj _ ht _ =>
    subst ht
    exact (hs.attempted hobj _).opened.attempted rfl _

/-- The calls since a state are those appended. -/
theorem callsSince_eq {made : List LdapCall} (h : t.calls = s.calls ++ made) :
    callsSince s t = made := by
  rw [callsSince, h, List.drop_left]

/-- The calls of an attempt. -/
def callsOf (obj : ℕ) (filterStr : Option String) (limit : ℤ)
    (outcome : Except LdapError (List RawResult)) : List LdapCall :=
  .searchExt obj filterStr limit outcome :: if loses outcome then [.unbind obj] else []

section Calls

variable (s obj filterStr limit) (outcome : Except LdapError (List RawResult))

theorem attempted_calls : (s.attempted obj filterStr limit outcome).calls =
    s.calls ++ callsOf obj filterStr limit outcome := by
  cases h : loses outcome <;> simp [attempted, callsOf, h]

@[simp] theorem countP_callsOf : (callsOf obj filterStr limit outcome).countP LdapCall.isNew = 0 := by
  cases h : loses outcome <;> simp [callsOf, h, LdapCall.isNew]

@[simp] theorem filterMap_callsOf :
    (callsOf obj filterStr limit outcome).filterMap LdapCall.attempt? = [outcome] := by
  cases h : loses outcome <;> simp [callsOf, h, LdapCall.attempt?]

theorem simpleBind_notMem_callsOf {obj' : ℕ} {bound : Except LdapError Unit} :
    LdapCall.simpleBind obj' bound ∉ callsOf obj filterStr limit outcome := by
  cases h : loses outcome <;> simp [callsOf, h]

end Calls

/-- The calls of a connection that is bound. -/
theorem opened_calls : s.opened.calls = s.calls ++
    [.newLdapObj s.calls.length, .simpleBind s.calls.length (.ok ())] := rfl

/-- The calls of a connection that is not. -/
theorem refused_calls : (s.refused error).calls = s.calls ++ [.newLdapObj s.calls.length,
    .simpleBind s.calls.length (.error error), .unbind s.calls.length] := rfl

/-- An attempt that loses the connection gives nothing. -/
theorem resultsOf_of_loses {outcome : Except LdapError (List RawResult)}
    (h : loses outcome = true) : resultsOf outcome = [] := by
  cases outcome with
  | ok results => cases h
  | error error => rfl

/-- **A search is safe.** -/
theorem Searches.safe {results : List RawResult} (h : Searches outcomes filterStr limit s results t)
    (hs : s.Sound) : Safe s results t := by
  have hbound := (h.sound hs).bound
  -- what each way has called is a list, and the rest is read off it
  cases h with
  | @refused error hobj _ =>
    have hmade : callsSince s (s.refused error) = _ := callsSince_eq refused_calls
    exact {
      reconnects := by simp [hmade, LdapCall.isNew, List.countP_cons]
      attempts := by simp [attemptsSince, hmade, LdapCall.attempt?, List.filterMap_cons]
      results_eq := by simp [attemptsSince, hmade, LdapCall.attempt?, List.filterMap_cons]
      retries := by simp [hobj]
      bound := hbound }
  | opened hobj _ =>
    have hmade (outcome) : callsSince s (s.opened.attempted s.calls.length filterStr limit outcome) =
        _ := callsSince_eq (by rw [attempted_calls, opened_calls, List.append_assoc])
    exact {
      reconnects := by simp [hmade, LdapCall.isNew, List.countP_cons]
      attempts := by simp [attemptsSince, hmade, LdapCall.attempt?, hobj, List.filterMap_cons]
      results_eq := by simp [attemptsSince, hmade, LdapCall.attempt?, List.filterMap_cons]
      retries := by simp [hobj]
      bound := hbound }
  | @kept obj hobj _ =>
    have hmade (outcome) : callsSince s (s.attempted obj filterStr limit outcome) = _ :=
      callsSince_eq (attempted_calls ..)
    exact {
      reconnects := by simp [hmade]
      attempts := by simp [attemptsSince, hmade, hobj]
      results_eq := by simp [attemptsSince, hmade]
      retries := by
        intro first rest obj' _ _ _ hmem
        rw [hmade] at hmem
        exact (simpleBind_notMem_callsOf _ _ _ _ hmem).elim
      bound := hbound }
  | @lost obj t error hobj hloses ht _ =>
    have hmade : callsSince s (t.refused error) = _ :=
      callsSince_eq (by rw [refused_calls, ht, attempted_calls, List.append_assoc])
    exact {
      reconnects := by simp [hmade, LdapCall.isNew, List.countP_cons]
      attempts := by simp [attemptsSince, hmade, LdapCall.attempt?, hobj, List.filterMap_cons]
      results_eq := by
        simp [attemptsSince, hmade, LdapCall.attempt?, List.filterMap_cons,
          resultsOf_of_loses hloses]
      retries := by
        intro first rest obj' _ _ _ hmem
        rw [hmade] at hmem
        simp [simpleBind_notMem_callsOf] at hmem
      bound := hbound }
  | @retried obj t hobj _ ht _ =>
    have hmade (outcome) : callsSince s (t.opened.attempted t.calls.length filterStr limit outcome) =
        _ := callsSince_eq (by
      rw [attempted_calls, opened_calls, ht, attempted_calls, List.append_assoc, List.append_assoc])
    have hattempts : attemptsSince s (t.opened.attempted t.calls.length filterStr limit
        (outcomes.search t.opened.calls)) =
        [outcomes.search s.calls, outcomes.search t.opened.calls] := by
      simp [attemptsSince, hmade, LdapCall.attempt?, List.filterMap_cons]
    exact {
      reconnects := by simp [hmade, LdapCall.isNew, List.countP_cons]
      attempts := by simp [hattempts, hobj]
      results_eq := by simp [hattempts]
      retries := by
        intro first rest obj _ hfirst _ _
        rw [hattempts] at hfirst
        cases hfirst
        exact ⟨_, rfl, rfl⟩
      bound := hbound }

/-- An operation that searches nothing is safe, when it makes one
connection at most. -/
theorem safe_of_calls {made : List LdapCall} (hcalls : t.calls = s.calls ++ made) (ht : t.Sound)
    (hnew : made.countP LdapCall.isNew ≤ 1) (hnone : made.filterMap LdapCall.attempt? = []) :
    Safe s [] t := by
  have hattempts : attemptsSince s t = [] := by rw [attemptsSince, callsSince_eq hcalls, hnone]
  exact {
    reconnects := by rwa [callsSince_eq hcalls]
    attempts := by simp [hattempts]
    results_eq := by simp [hattempts]
    retries := by simp [hattempts]
    bound := ht.bound }

/-- **What an operation does is safe**, and leaves a sound client. -/
theorem Does.safe {op : Operation} {results : List RawResult} (h : Does outcomes s op results t)
    (hs : s.Sound) : t.Sound ∧ Safe s results t := by
  cases h with
  | alreadySetUp _ | alreadyClosed _ =>
    exact ⟨hs, safe_of_calls (List.append_nil _).symm hs (by simp) rfl⟩
  | setUp _ _ =>
    refine ⟨hs.opened, safe_of_calls opened_calls hs.opened ?_ rfl⟩
    simp [List.countP_cons, LdapCall.isNew]
  | notSetUp _ _ =>
    refine ⟨hs.refused _, safe_of_calls refused_calls (hs.refused _) ?_ rfl⟩
    simp [List.countP_cons, LdapCall.isNew]
  | close hobj =>
    have hclosed := hs.closed hobj
    refine ⟨hclosed, safe_of_calls rfl hclosed ?_ rfl⟩
    simp [LdapCall.isNew]
  | search hway => exact ⟨hway.sound hs, hway.safe hs⟩

/-- A run of operations leaves a sound client. -/
theorem reached_sound (outcomes : LdapOutcomes) (ops : List Operation) :
    (reached outcomes ops).Sound := by
  induction ops using List.reverseRecOn with
  | nil => exact Sound.init
  | append_singleton ops op ih =>
    obtain ⟨results, t, hperform, hdoes⟩ := perform_does outcomes (reached outcomes ops) op
    rw [reached, List.foldl_append, List.foldl_cons, List.foldl_nil]
    change (after outcomes (reached outcomes ops) op).Sound
    rw [after, hperform]
    exact (hdoes.safe ih).1

/-! ## The client that keeps whether it is set up -/

/-- A client that only keeps whether its connection is set up. -/
def client (s : LdapConnection) : LdapClient := ⟨s.ldapObj.isSome⟩

/-- An attempt, as that client sees it. -/
theorem attempt_client (outcome : Except LdapError (List RawResult)) :
    (resultsOf outcome, (s.attempted obj filterStr limit outcome).client) =
      LdapClient.searchOnce outcome ⟨true⟩ := by
  cases outcome with
  | ok results => rfl
  | error error => cases error <;> rfl

/-- That client searches once when it makes a connection. -/
theorem client_search_none (binds : Bool) (answer : Except LdapError (List RawResult)) :
    LdapClient.search binds answer ⟨false⟩ =
      if binds then LdapClient.searchOnce answer ⟨true⟩ else ([], ⟨false⟩) := by
  cases binds <;> rfl

/-- It searches once more when it loses the connection. -/
theorem client_search_some (binds : Bool) (answer : Except LdapError (List RawResult)) :
    LdapClient.search binds answer ⟨true⟩ = if loses answer then
      LdapClient.search binds answer ⟨false⟩ else LdapClient.searchOnce answer ⟨true⟩ := by
  cases answer with
  | ok results => rfl
  | error error => cases error <;> rfl

/-- **A search refines that client's**, of a server that gives the same to
every call. -/
theorem search_refines (binds : Bool) (answer : Except LdapError (List RawResult))
    (error : LdapError) : ∃ results t,
      search ⟨fun _ => if binds then .ok () else .error error, fun _ => answer⟩ filterStr limit s =
        .ok results t ∧ (results, t.client) = s.client.search binds answer := by
  obtain ⟨results, t, hsearch, hway⟩ := search_searches s
  refine ⟨results, t, hsearch, ?_⟩
  have hsome {obj : ℕ} (hobj : s.ldapObj = some obj) : s.client = ⟨true⟩ := by simp [client, hobj]
  have hnone (hobj : s.ldapObj = none) : s.client = ⟨false⟩ := by simp [client, hobj]
  cases hway with
  | refused hobj hbind =>
    cases binds
    · rw [hnone hobj, client_search_none]
      rfl
    · cases hbind
  | opened hobj hbind =>
    cases binds
    · cases hbind
    · rw [hnone hobj, client_search_none, if_pos rfl]
      exact attempt_client answer
  | kept hobj hloses =>
    have hkeeps : ¬ loses answer = true := Bool.eq_false_iff.1 hloses
    rw [hsome hobj, client_search_some, if_neg hkeeps]
    exact attempt_client answer
  | lost hobj hloses _ hbind =>
    cases binds
    · rw [hsome hobj, client_search_some, if_pos hloses, client_search_none]
      rfl
    · cases hbind
  | retried hobj hloses _ hbind =>
    cases binds
    · cases hbind
    · rw [hsome hobj, client_search_some, if_pos hloses, client_search_none, if_pos rfl]
      exact attempt_client answer

/-! ## The theorem -/

/-- **The client is safe on every run**, whatever the server makes of its
binds and searches: each operation returns, having done what it is for, and
does so safely. Of a server that gives the same to every call, its searches
are those of a client that only keeps whether it is set up. -/
theorem returns_safely (outcomes : LdapOutcomes) (ops : List Operation) (op : Operation) :
    ∃ results t, op.perform outcomes (reached outcomes ops) = .ok results t ∧
      Does outcomes (reached outcomes ops) op results t ∧
      Safe (reached outcomes ops) results t ∧
      ∀ filterStr limit binds answer error, op = .search filterStr limit →
        outcomes = ⟨fun _ => if binds then .ok () else .error error, fun _ => answer⟩ →
          (results, t.client) = (reached outcomes ops).client.search binds answer := by
  obtain ⟨results, t, hperform, hdoes⟩ := perform_does outcomes (reached outcomes ops) op
  refine ⟨results, t, hperform, hdoes, (hdoes.safe (reached_sound outcomes ops)).2, ?_⟩
  rintro filterStr limit binds answer error rfl hsame
  obtain ⟨results', t', hsearch, hrefines⟩ := @search_refines filterStr limit
    (reached outcomes ops) binds answer error
  rw [← hsame] at hsearch
  cases hperform.symm.trans hsearch
  exact hrefines

end LdapConnection

end WazoDird
